import Headhunt.Graphs.TaskRuns
import Headhunt.Runtime.WarRoomNotifier

/-! The chat of the cards of a confirmed task. The input of its run says nothing about the chat
the message came from, so its cards go to the default chat, or nowhere. -/
namespace Headhunt.Graphs
open Headhunt.Feishu Headhunt.Policy Headhunt.Runtime Headhunt.Storage Py Transition

/-- The gate can answer so by making the proposal. -/
def Makes (crypto : Crypto) (request : ProposeRequest) (proposal : ProposedAction) : Prop :=
  ∃ fresh db db', db.proposalForKey? request.idempotencyKey = none ∧
    proposeAction crypto fresh request db = .ok (proposal, db')

/-- Every agent-run card goes to the chat, and every proposal that is made has an approval card
that goes there. -/
structure CardsGoBack (crypto : Crypto) (notifier : WarRoomNotifier) (chatId : String)
    (log : List Event) : Prop where
  agentRuns : ∀ call result report send, .ranAgent call (.ok result) ∈ log →
    notifier.enqueueAgentRunCard call.threadId result.runId report call.feishuChatId = some send →
    send.payload.get "chat_id" = .str chatId
  approvals : ∀ artifact request given proposal councilMode modeReason,
    .proposed artifact request given (.ok proposal) ∈ log → Makes crypto request proposal →
    ∃ send, notifier.enqueueApprovalCard (approvalAsked request proposal councilMode modeReason)
        given = some send ∧
      send.payload.get "chat_id" = .str chatId

def Unaddressed : Event → Prop
  | .ranAgent call _ => call.feishuChatId = none
  | .proposed _ _ chatId _ => chatId = .null
  | _ => True

section Unaddressed

variable {wiring : Wiring} {replies : Replies} {state next : RecruitmentState}

theorem agentTaskFromState_chat {plan : TaskPlan}
    {agentName nodeName nodeGoal outputArtifactType : String} {artifactRefs : List ArtifactRef}
    {call : AgentCall} (hnull : state.feishuContext = .null)
    (h : agentTaskFromState state plan agentName nodeName nodeGoal outputArtifactType
      artifactRefs = .ok call) : call.feishuChatId = none := by
  have hchat : chatIdOf state = .null := by
    rw [chatIdOf, hnull]
    rfl
  simp only [agentTaskFromState, hchat, Except.bind_eq_ok] at h
  obtain ⟨chatId, hchatId, _, _, _, _, h⟩ := h
  obtain rfl := Except.ok.inj hchatId
  obtain rfl := Except.ok.inj h
  rfl

theorem unaddressed_runCouncil {plan : TaskPlan} (hnull : state.feishuContext = .null) (n : Nat)
    (agents : List String) :
    ∀ e ∈ (runCouncil replies state plan n agents).1, Unaddressed e := by
  induction agents generalizing n with
  | nil => simp [runCouncil]
  | cons agentName agents ih =>
    unfold runCouncil
    split
    · simp
    · rename_i call hcall
      have hchat := agentTaskFromState_chat hnull hcall
      split
      · simpa [Unaddressed] using hchat
      · intro e he
        rcases List.mem_cons.mp he with rfl | he
        · exact hchat
        · exact ih (n + 1) e he

theorem unaddressed_council (hnull : state.feishuContext = .null) :
    ∀ e ∈ (invokeCouncilDeliberationGraph wiring replies state).1, Unaddressed e := by
  unfold invokeCouncilDeliberationGraph
  split
  · simp
  · unfold collectCouncilOpinions
    dsimp only
    split_ifs
    · have hscope : (subgraphRuntimeScope state).feishuContext = .null := hnull
      exact unaddressed_runCouncil hscope 0 _
    · simp

theorem unaddressed_business (subgraph : BusinessSubgraph) (hnull : state.feishuContext = .null) :
    ∀ e ∈ (invokeBusinessSubgraph wiring replies subgraph state).1, Unaddressed e := by
  unfold invokeBusinessSubgraph createBusinessArtifactRef
  dsimp only
  split_ifs
  · split
    · simp
    · split
      · simp
      · rename_i call hcall
        have hscope : (businessScope state).feishuContext = .null := hnull
        have hchat := agentTaskFromState_chat hscope hcall
        simpa [Unaddressed] using hchat
  · simp

theorem unaddressed_interrupt (hnull : state.feishuContext = .null) :
    ∀ e ∈ (interruptHumanApproval wiring replies state).1, Unaddressed e := by
  have hchat : chatIdOf state = .null := by
    rw [chatIdOf, hnull]
    rfl
  unfold interruptHumanApproval
  dsimp only
  split_ifs
  · simp
  · split
    · simp
    · split
      · simpa [Unaddressed] using hchat
      · split
        · simpa [Unaddressed] using hchat
        · split <;> simpa [Unaddressed] using hchat

theorem unaddressed_runNode (hnull : state.feishuContext = .null) (node : Node) :
    ∀ e ∈ (runNode wiring replies state node).1, Unaddressed e := by
  cases node with
  | councilDeliberationGraph => exact unaddressed_council hnull
  | business route =>
    cases route with
    | askUserForMissingInfo | rejectWithReason | saveAsCaseData => simp [runNode]
    | _ => exact unaddressed_business _ hnull
  | reviewGate =>
    unfold runNode reviewLatest
    dsimp only
    split <;> simp [Unaddressed]
  | repairArtifact =>
    unfold runNode repairLatest
    dsimp only
    split <;> simp [Unaddressed]
  | interruptHumanApproval => exact unaddressed_interrupt hnull
  | executeApprovedAction =>
    rcases @execute_events wiring replies state with h | ⟨approval, _, h⟩ <;>
      simp [runNode, h, Unaddressed]
  | _ => simp [runNode]

theorem feishuContext_business {subgraph : BusinessSubgraph}
    (h : (invokeBusinessSubgraph wiring replies subgraph state).2 = .ok next) :
    next.feishuContext = state.feishuContext := by
  obtain ⟨_, _, rfl⟩ := Except.map_eq_ok.mp h
  rfl

/-- No node names a chat. -/
theorem feishuContext_runNode {node : Node} (h : (runNode wiring replies state node).2 = .ok next) :
    next.feishuContext = state.feishuContext := by
  cases node with
  | createTaskPlanAndPolicy =>
    simp only [runNode] at h
    unfold createTaskPlanAndPolicy at h
    split at h
    · cases h
    · obtain rfl := Except.ok.inj h
      rfl
  | councilDeliberationGraph =>
    simp only [runNode] at h
    unfold invokeCouncilDeliberationGraph at h
    split at h
    · cases h
    · obtain ⟨_, _, rfl⟩ := Except.map_eq_ok.mp h
      rfl
  | business route =>
    cases route with
    | askUserForMissingInfo | rejectWithReason | saveAsCaseData =>
      simp only [runNode, Except.ok.injEq] at h
      subst h
      rfl
    | _ => exact feishuContext_business h
  | reviewGate =>
    simp only [runNode] at h
    obtain ⟨_, _, rfl⟩ := reviewLatest_eq_ok h
    rfl
  | repairArtifact =>
    simp only [runNode] at h
    obtain ⟨_, _, rfl⟩ := repairLatest_eq_ok h
    rfl
  | interruptHumanApproval =>
    simp only [runNode] at h
    unfold interruptHumanApproval at h
    dsimp only at h
    split_ifs at h
    · obtain rfl := Except.ok.inj h
      rfl
    · split at h
      · cases h
      · split at h
        · cases h
        · split at h
          · cases h
          · split at h
            · cases h
            · obtain rfl := Except.ok.inj h
              rfl
  | executeApprovedAction =>
    simp only [runNode] at h
    unfold executeApproved at h
    split at h
    · obtain rfl := Except.ok.inj h
      rfl
    · split_ifs at h
      · obtain rfl := Except.ok.inj h
        rfl
      · split at h
        · obtain rfl := Except.ok.inj h
          rfl
        · obtain rfl := Except.ok.inj h
          rfl
        · cases h
  | _ =>
    simp only [runNode, Except.ok.injEq] at h
    subst h
    rfl

end Unaddressed

section Runs

variable {crypto : Crypto} {pydantic : Pydantic} {task : ConfirmedTask crypto} {run : GraphRun}

/-- The state of a task's run has no Feishu context, and its collaborators are told no chat. -/
theorem unaddressed_of_runOf (h : RunOf pydantic task run) :
    run.state.feishuContext = .null ∧ ∀ e ∈ run.log, Unaddressed e := by
  refine RunOf.induct
    (fun run => run.state.feishuContext = .null ∧ ∀ e ∈ run.log, Unaddressed e) ?_ ?_ ?_ h
  · exact ⟨rfl, by simp [GraphRun.fresh]⟩
  · rintro run ⟨hnull, _⟩
    refine ⟨?_, by simp⟩
    rw [(receive_input run.state).1]
    exact hnull
  · rintro run node replies ⟨hnull, hlog⟩ _
    have hevents : ∀ e ∈ run.log ++ (runNode (runtimeWiring crypto pydantic) replies run.state
        node).1, Unaddressed e := by
      intro e he
      rcases List.mem_append.mp he with he | he
      · exact hlog e he
      · exact unaddressed_runNode hnull node e he
    refine ⟨?_, hnull, hevents⟩
    intro next hnext
    refine ⟨?_, hevents⟩
    rw [feishuContext_runNode hnext]
    exact hnull

/-- What holds before a node of a triage runs; the nodes that are not named are not reached. -/
def Triaging (text : String) (state : RecruitmentState) : Option Node → Prop
  | some .receiveUserInput | some .createTaskPlanAndPolicy => state.userInput = some text
  | some .councilDeliberationGraph => ∃ plan, state.taskPlan = some plan ∧
    plan.councilMode = .triage
  | some .dispatchFromCouncil => state.humanQuestions ≠ []
  | some (.business route) => route = .askUserForMissingInfo
  | some .recordAgentRun | none => True
  | _ => False

def isProposed : Event → Bool
  | .proposed .. => true
  | _ => false

theorem triaging_runNode {wiring : Wiring} {replies : Replies} {state : RecruitmentState}
    {text : String} {node : Node} (hne : text ≠ "") (hmode : (selectCouncil text).mode = .triage)
    (h : Triaging text state (some node)) :
    (∀ next, (runNode wiring replies state node).2 = .ok next →
      Triaging text next (nextNode next node)) ∧
    ∀ e ∈ (runNode wiring replies state node).1, isProposed e = false := by
  cases node with
  | receiveUserInput =>
    refine ⟨?_, by simp [runNode]⟩
    intro next hnext
    simp only [runNode, Except.ok.injEq] at hnext
    subst hnext
    have htext : state.userInput = some text := h
    simp [Triaging, nextNode, receiveUserInput, htext]
  | createTaskPlanAndPolicy =>
    refine ⟨?_, by simp [runNode]⟩
    intro next hnext
    have htext : state.userInput = some text := h
    simp only [runNode] at hnext
    unfold createTaskPlanAndPolicy at hnext
    split at hnext
    · cases hnext
    · obtain rfl := Except.ok.inj hnext
      have hrequest : textOrDefault state.userInput emptyTask = text := by
        rw [htext]
        exact textOrDefault_some hne
      refine ⟨_, rfl, ?_⟩
      change (selectCouncil (textOrDefault state.userInput emptyTask)).mode = .triage
      rw [hrequest]
      exact hmode
  | councilDeliberationGraph =>
    obtain ⟨plan, hplan, htriage⟩ := h
    refine ⟨?_, ?_⟩
    · intro next hnext
      simp only [runNode, invokeCouncilDeliberationGraph, hplan] at hnext
      obtain ⟨_, _, rfl⟩ := Except.map_eq_ok.mp hnext
      simp [Triaging, nextNode, decisionOfPlan, htriage]
    · intro e he
      obtain ⟨call, result, rfl⟩ := agentsOnly_council e he
      rfl
  | dispatchFromCouncil =>
    refine ⟨?_, by simp [runNode]⟩
    intro next hnext
    simp only [runNode, Except.ok.injEq] at hnext
    subst hnext
    have hquestions : state.humanQuestions ≠ [] := h
    simp [Triaging, nextNode, routeFromCouncil, hquestions]
  | business route =>
    obtain rfl : route = .askUserForMissingInfo := h
    refine ⟨?_, by simp [runNode]⟩
    intro next hnext
    trivial
  | recordAgentRun => exact ⟨fun _ _ => trivial, by simp [runNode]⟩
  | _ => exact h.elim

/-- The run of a triage ends with its questions: it proposes nothing. -/
theorem not_proposed_of_triage (hmode : task.plan.councilMode = .triage)
    (h : RunOf pydantic task run) : ∀ e ∈ run.log, isProposed e = false := by
  obtain ⟨hne, _, _, hcouncil, _⟩ := task.plan_eq
  rw [hcouncil] at hmode
  have hrun := RunOf.induct (fun run => Triaging task.plan.requestText run.state run.node ∧
    ∀ e ∈ run.log, isProposed e = false) ?_ ?_ ?_ h
  · exact hrun.2
  · exact ⟨trivial, by simp [GraphRun.fresh]⟩
  · rintro run _
    exact ⟨(receive_input run.state).2, by simp⟩
  · rintro run node replies ⟨htriaging, hlog⟩ hnode
    rw [hnode] at htriaging
    obtain ⟨hok, hevents⟩ := @triaging_runNode (runtimeWiring crypto pydantic) replies run.state _
      node hne hmode htriaging
    have happend : ∀ e ∈ run.log ++ (runNode (runtimeWiring crypto pydantic) replies run.state
        node).1, isProposed e = false := by
      intro e he
      rcases List.mem_append.mp he with he | he
      · exact hlog e he
      · exact hevents e he
    refine ⟨fun next hnext => ⟨hok next hnext, happend⟩, ?_, happend⟩
    rw [hnode]
    exact htriaging

/-- The gate makes a proposal where the thread has none. -/
theorem makes_gateFresh (request : ProposeRequest) :
    Makes crypto request (proposedAction (proposalRow gateFresh request)) := by
  let thread : GraphThread := ⟨request.threadId, "feishu", "", "", none, none, .running, []⟩
  let db : Database := { graphThreads := [thread] }
  have hstore : ∃ db₁, storeJsonPayload (actionPayloadRef gateFresh.actionId)
      (payloadWithRefs request) (dumps .compact (.obj (payloadWithRefs request)))
      (stableHash crypto (payloadWithRefs request)) db = .ok db₁ :=
    ⟨_, storeJsonPayload_eq_ok.mpr (.inr ⟨rfl, rfl⟩)⟩
  obtain ⟨db₁, hstore⟩ := hstore
  have hframe := storeJsonPayload_frame hstore
  have hinsert : db₁.insertProposalOrIgnore (proposalRow gateFresh request) = .ok { db₁ with
      actionProposals := db₁.actionProposals ++ [proposalRow gateFresh request] } := by
    refine Database.insertProposalOrIgnore_eq_ok.mpr (.inr ⟨?_, ?_, ?_, rfl⟩)
    all_goals rw [hframe]
    · rfl
    · rfl
    · simp [Database.hasThread, Table.find, db, thread, proposalRow]
  have hfind : Database.proposalForKey? { db₁ with
      actionProposals := db₁.actionProposals ++ [proposalRow gateFresh request] }
        request.idempotencyKey = some (proposalRow gateFresh request) := by
    rw [hframe]
    simp [Database.proposalForKey?, Table.find, db, proposalRow]
  have hkey : db.proposalForKey? request.idempotencyKey = none := rfl
  have hself : (some (proposalRow gateFresh request)).filter (·.id ≠ gateFresh.actionId) =
      none := by
    simp [proposalRow]
  have hproposed : ∃ db', proposeAction crypto gateFresh request db =
      .ok (proposedAction (proposalRow gateFresh request), db') := by
    simp only [proposeAction, hkey, hstore, hinsert, hfind, hself, bind, Except.bind]
    exact ⟨_, rfl⟩
  obtain ⟨db', hproposed⟩ := hproposed
  exact ⟨gateFresh, db, db', hkey, hproposed⟩

end Runs

section Cards

variable {crypto : Crypto} {pydantic : Pydantic} {task : ConfirmedTask crypto} {run : GraphRun}
  {notifier : WarRoomNotifier}

/-- A card without a chat of its own is queued where there is a default chat, and goes there. -/
theorem enqueueCard_null {idempotencyKey : String} {threadId : UUID} {card : Dict} :
    (∀ send, notifier.enqueueCard .null idempotencyKey threadId card = some send →
      ∃ chatId, notifier.defaultChatId = some chatId ∧ chatId ≠ "" ∧
        send.payload.get "chat_id" = .str chatId) ∧
    (∀ chatId, notifier.defaultChatId = some chatId → chatId ≠ "" →
      ∃ send, notifier.enqueueCard .null idempotencyKey threadId card = some send) := by
  constructor
  · intro send hsend
    obtain ⟨hchat, htruthy⟩ := notifier.enqueueCard_eq_some hsend
    rw [notifier.resolvedChatId_null] at hchat htruthy
    obtain ⟨chatId, hne, hdefault⟩ := WarRoomNotifier.truthy_optionalText _ |>.mp htruthy
    refine ⟨chatId, hdefault, hne, ?_⟩
    rw [hchat, hdefault]
    rfl
  · intro chatId hdefault hne
    refine Option.isSome_iff_exists.mp (notifier.enqueueCard_isSome.mpr ?_)
    rw [notifier.resolvedChatId_null]
    exact (WarRoomNotifier.truthy_optionalText _).mpr ⟨chatId, hne, hdefault⟩

theorem cardsGoBack_of_default (hdefault : notifier.defaultChatId = some task.chatId)
    (h : RunOf pydantic task run) : CardsGoBack crypto notifier task.chatId run.log := by
  have hunaddressed := (unaddressed_of_runOf h).2
  have hsame : ∀ {chatId}, notifier.defaultChatId = some chatId → chatId = task.chatId := by
    intro chatId hchat
    rw [hdefault] at hchat
    exact (Option.some.inj hchat).symm
  constructor
  · intro call result report send hmem hsend
    have hnone : call.feishuChatId = none := hunaddressed _ hmem
    rw [hnone] at hsend
    obtain ⟨chatId, hchat, _, hget⟩ := enqueueCard_null.1 send hsend
    rw [hget, hsame hchat]
  · intro artifact request given proposal councilMode modeReason hmem _
    obtain rfl : given = .null := hunaddressed _ hmem
    obtain ⟨send, hsend⟩ := enqueueCard_null.2 task.chatId hdefault task.refs_ne.2.1
    obtain ⟨chatId, hchat, _, hget⟩ := enqueueCard_null.1 send hsend
    refine ⟨send, hsend, ?_⟩
    rw [hget, hsame hchat]

theorem cardsGoBack_of_triage (hdefault : nonemptyText notifier.defaultChatId = none)
    (hmode : task.plan.councilMode = .triage) (h : RunOf pydantic task run) :
    CardsGoBack crypto notifier task.chatId run.log := by
  constructor
  · intro call result report send hmem hsend
    have hnone : call.feishuChatId = none := (unaddressed_of_runOf h).2 _ hmem
    rw [hnone] at hsend
    obtain ⟨chatId, hchat, hne, _⟩ := enqueueCard_null.1 send hsend
    simp [nonemptyText, hchat, Option.filter, hne] at hdefault
  · intro artifact request given proposal _ _ hmem _
    have hnot := not_proposed_of_triage hmode h _ hmem
    cases hnot

/-- Where another chat is the default one, the cards of the council go there. -/
theorem default_eq_of_cardsGoBack {chatId : String} (hdefault : notifier.defaultChatId = some chatId)
    (hne : chatId ≠ "")
    (h : ∀ run, RunOf pydantic task run → CardsGoBack crypto notifier task.chatId run.log) :
    chatId = task.chatId := by
  obtain ⟨state, log, hrun, ⟨call, result, hmem⟩, _⟩ := council_run pydantic task
  have hnone : call.feishuChatId = none := (unaddressed_of_runOf hrun).2 _ hmem
  have hagentRuns := (h _ hrun).agentRuns call result
    ⟨call.agentName, call.councilMode, call.modeReason, call.nodeGoal, "", 0, false, [], [], []⟩
  rw [hnone] at hagentRuns
  obtain ⟨send, hsend⟩ := enqueueCard_null.2 chatId hdefault hne
  obtain ⟨other, hother, _, hget⟩ := enqueueCard_null.1 send hsend
  have hback := hagentRuns send hmem hsend
  rw [hdefault] at hother
  rw [hget, Option.some.inj hother.symm] at hback
  exact Json.str.inj hback

/-- Without a default chat the proposal of a task has no card. -/
theorem no_approval_card (huuid : ∀ id : UUID, pydantic.uuid (.str id.str) = some id)
    (hdefault : nonemptyText notifier.defaultChatId = none)
    (hmode : task.plan.councilMode ≠ .triage) :
    ∃ run, RunOf pydantic task run ∧ ¬CardsGoBack crypto notifier task.chatId run.log := by
  obtain ⟨run, artifact, request, given, hrun, hmem⟩ := proposal_run huuid task hmode
  refine ⟨run, hrun, ?_⟩
  intro hback
  obtain rfl : given = .null := (unaddressed_of_runOf hrun).2 _ hmem
  obtain ⟨send, hsend, _⟩ := hback.approvals artifact request .null _ "" "" hmem
    (makes_gateFresh request)
  obtain ⟨chatId, hchat, hne, _⟩ := enqueueCard_null.1 send hsend
  simp [nonemptyText, hchat, Option.filter, hne] at hdefault

/-- The cards go back to the chat in every run of the task exactly when that chat is the default
one, or when there is no default chat and the task is only triaged. -/
theorem cards_go_back_iff (huuid : ∀ id : UUID, pydantic.uuid (.str id.str) = some id)
    (task : ConfirmedTask crypto) (notifier : WarRoomNotifier) :
    (∀ run, RunOf pydantic task run → CardsGoBack crypto notifier task.chatId run.log) ↔
      notifier.defaultChatId = some task.chatId ∨
        nonemptyText notifier.defaultChatId = none ∧ task.plan.councilMode = .triage := by
  constructor
  · intro h
    cases hdefault : nonemptyText notifier.defaultChatId with
    | none =>
      refine .inr ⟨rfl, ?_⟩
      by_contra hmode
      obtain ⟨run, hrun, hnot⟩ := no_approval_card huuid hdefault hmode
      exact hnot (h run hrun)
    | some chatId =>
      obtain ⟨hsome, hne⟩ := Option.filter_eq_some_iff.mp hdefault
      have hsame := default_eq_of_cardsGoBack hsome (of_decide_eq_true hne) h
      rw [hsome, hsame]
      exact .inl rfl
  · rintro (hdefault | ⟨hdefault, hmode⟩) run hrun
    · exact cardsGoBack_of_default hdefault hrun
    · exact cardsGoBack_of_triage hdefault hmode hrun

end Cards

def mappingEvent : Dict := Dict.ofList
  [("event", .obj (Dict.ofList
    [("message", .obj (Dict.ofList
      [("chat_id", .str "oc_chat"), ("message_id", .str "om_message"),
        ("content", .str "\x7b\"text\": \"请做人才地图\"\x7d")])),
      ("sender", .obj (Dict.ofList [("sender_id", .obj (Dict.ofList
        [("open_id", .str "ou_user")]))]))]))]

def mappingAnswer : LlmAnswer := .ok (.obj (rulePayload
  [("task", "为企业平台负责人岗位做人才地图，包含目标公司和候选人来源")]))

def mappingParsed : Option (FeishuTaskIntake × FeishuTaskIntake × TaskPlan) := do
  let intake ← (parseTaskIntake Crypto.plain mappingEvent none).toOption
  let parsed ← (parseTaskIntakeWithLlm intake mappingAnswer mappingAnswer).toOption
  let plan ← (confirmablePlan parsed ⟨.ofNat 1, .ofNat 2⟩).toOption
  some (intake, parsed, plan)

theorem exists_mappingTask : ∃ task : ConfirmedTask Crypto.plain,
    task.event = mappingEvent ∧ task.chatId = "oc_chat" ∧ task.plan.councilMode ≠ .triage := by
  have hread : mappingParsed.any (fun read => read.1.chatId = "oc_chat" &&
      ModelProfiles.truthyText read.2.1.modelOwnerUserId && read.2.2.councilMode ≠ .triage) = true := by
    decide +kernel
  obtain ⟨⟨intake, parsed, plan⟩, hparsed, hall⟩ := (Option.any_eq_true _ _).mp hread
  simp only [Bool.and_eq_true, decide_eq_true_eq] at hall
  obtain ⟨⟨hchat, howner⟩, hmode⟩ := hall
  simp only [mappingParsed, Option.bind_eq_bind, Option.bind_eq_some_iff, Option.some.injEq,
    Prod.mk.injEq, Except.toOption_eq_some] at hparsed
  obtain ⟨_, hintake, _, hparse, _, hplan, rfl, rfl, rfl⟩ := hparsed
  exact ⟨⟨mappingEvent, none, _, _, _, _, .ofNat 3, none, none, "2026-07-01T00:00:00Z", hintake,
    parsedFrom_of_attempts hparse, howner, hplan⟩, rfl, hchat, hmode⟩

theorem uuid_exactTypes (id : UUID) : exactTypes.uuid (.str id.str) = some id := by
  simp [exactTypes, Json.asStr, UUID.parse_str]

/-- The task of the message is not triaged, so one of its runs has no card to decide it by. -/
theorem cards_go_back_iff_mapping : ∃ task : ConfirmedTask Crypto.plain,
    task.chatId = "oc_chat" ∧
      ((∀ run, RunOf exactTypes task run →
        CardsGoBack Crypto.plain ⟨some "oc_chat"⟩ task.chatId run.log) ↔
          some "oc_chat" = some task.chatId ∨
            nonemptyText (some "oc_chat") = none ∧ task.plan.councilMode = .triage) := by
  obtain ⟨task, _, hchat, _⟩ := exists_mappingTask
  exact ⟨task, hchat, cards_go_back_iff uuid_exactTypes task ⟨some "oc_chat"⟩⟩

/-- Every card of every confirmed task goes back to the chat of its message. -/
def CardsReturn : Prop :=
  ∀ (crypto : Crypto) (pydantic : Pydantic) (task : ConfirmedTask crypto)
    (notifier : WarRoomNotifier) (run : GraphRun), RunOf pydantic task run →
    CardsGoBack crypto notifier task.chatId run.log

/-- Without a default chat the proposal made for the message has no card. -/
theorem not_cardsReturn : ¬CardsReturn := by
  intro h
  obtain ⟨task, _, _, hmode⟩ := exists_mappingTask
  obtain ⟨run, hrun, hnot⟩ := @no_approval_card Crypto.plain exactTypes task ⟨none⟩ uuid_exactTypes
    rfl hmode
  exact hnot (h Crypto.plain exactTypes task ⟨none⟩ run hrun)

end Headhunt.Graphs
