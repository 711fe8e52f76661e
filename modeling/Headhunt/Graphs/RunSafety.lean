import Headhunt.Graphs.WarRoom
import Headhunt.Lib.History

/-! What a run of the graph guarantees: a proposal is reviewed first, a repair is made once, and
the executor gets the decision on the proposal of the run. -/
namespace Headhunt.Graphs
open Headhunt.Runtime Headhunt.Storage History Py Transition

/-- The approval names the proposal of the run and decides it. -/
structure Decides (approval : Dict) (request : ProposeRequest) (proposal : ProposedAction) :
    Prop where
  answers : Answers approval request.threadId.str proposal.actionId.str proposal.interruptId.str
    proposal.idempotencyKey
  decision : ∃ decision : Decision, approval.get "decision" = .str decision.value

/-- The request proposes the artifact, which has been reviewed and found valid, and it has that
review with it. -/
def Reviewed (wiring : Wiring) (log : List Event) (artifact : Dict) (request : ProposeRequest) :
    Prop :=
  ∃ review state clientToken, .reviewed artifact review ∈ log ∧ hasSchemaError review = false ∧
    artifact = latestBusinessArtifact wiring.crypto state ∧
    proposeBusinessAction wiring clientToken state = .ok request ∧
    request.payload.get "review_result" = .obj (dumpReview review)

/-- A proposal was made before, and the approval decides it. -/
def ProposedFor (log : List Event) (approval : Dict) : Prop :=
  ∃ artifact request chatId proposal, .proposed artifact request chatId (.ok proposal) ∈ log ∧
    Decides approval request proposal

def Justified (wiring : Wiring) (log : List Event) : Event → Prop
  | .proposed artifact request _ _ => Reviewed wiring log artifact request
  | .executed approval => ProposedFor log approval
  | _ => True

def isReviewed : Event → Bool
  | .reviewed .. => true
  | _ => false

def isRepaired : Event → Bool
  | .repaired _ => true
  | _ => false

/-- How far a run is from its end. -/
def nodeRank (state : RecruitmentState) : Node → Nat
  | .receiveUserInput => 12
  | .createTaskPlanAndPolicy => 11
  | .councilDeliberationGraph => 10
  | .dispatchFromCouncil => 9
  | .business _ => 8
  | .reviewGate => if state.repairAttempts < 1 then 7 else 5
  | .repairArtifact => 6
  | .rejectReviewGate | .interruptHumanApproval => 4
  | .executeApprovedAction => 3
  | .recordAgentRun => 2

def GraphRun.rank (run : GraphRun) : Nat := (run.node.map (nodeRank run.state)).getD 0

structure SafeRun (wiring : Wiring) (run : GraphRun) : Prop where
  justified : EachAfter (Justified wiring) run.log
  reviews : run.log.countP isReviewed ≤ 2
  repairs : run.log.countP isRepaired ≤ 1
  /-- Each node that goes through brings the end nearer. -/
  ends : ∀ replies next, run.step wiring (.node replies) = some next → next.node ≠ run.node →
    next.rank < run.rank

/-- A thread without a checkpoint. -/
def GraphRun.fresh : GraphRun := ⟨none, { threadId := "" }, []⟩

def Ready (wiring : Wiring) (state : RecruitmentState) (log : List Event) : Option Node → Prop
  | some .receiveUserInput | some .createTaskPlanAndPolicy =>
    log.countP isReviewed = 0 ∧ log.countP isRepaired = 0
  | some .councilDeliberationGraph | some .dispatchFromCouncil | some (.business _) =>
    (∃ id : UUID, state.threadId = id.str) ∧ log.countP isReviewed = 0 ∧ log.countP isRepaired = 0
  | some .reviewGate => (∃ id : UUID, state.threadId = id.str) ∧
    (log.countP isReviewed = 0 ∧ log.countP isRepaired = 0 ∨
      log.countP isReviewed = 1 ∧ log.countP isRepaired = 1 ∧ 1 ≤ state.repairAttempts)
  | some .repairArtifact => (∃ id : UUID, state.threadId = id.str) ∧ state.repairAttempts < 1 ∧
    log.countP isReviewed = 1 ∧ log.countP isRepaired = 0
  | some .interruptHumanApproval => (∃ id : UUID, state.threadId = id.str) ∧
    (log.countP isReviewed ≤ 2 ∧ log.countP isRepaired ≤ 1) ∧
    ∃ review, state.reviewResult = some review ∧ hasSchemaError review = false ∧
      .reviewed (latestBusinessArtifact wiring.crypto state) review ∈ log
  | some .executeApprovedAction => (log.countP isReviewed ≤ 2 ∧ log.countP isRepaired ≤ 1) ∧
    ∀ approval, state.humanApproval = some approval → ProposedFor log approval
  | some .rejectReviewGate | some .recordAgentRun | none =>
    log.countP isReviewed ≤ 2 ∧ log.countP isRepaired ≤ 1

structure Invariant (wiring : Wiring) (run : GraphRun) : Prop where
  attempts : 0 ≤ run.state.repairAttempts
  noApproval : wiring.actionGate = false → run.state.humanApproval = none
  justified : EachAfter (Justified wiring) run.log
  ready : Ready wiring run.state run.log run.node

section Nodes

variable {wiring : Wiring} {replies : Replies} {state next : RecruitmentState} {log : List Event}
  {node : Node}

/-- Events that are neither a review nor a repair, and that nothing has to justify. -/
def AgentsOnly (events : List Event) : Prop :=
  ∀ e ∈ events, ∃ call result, e = .ranAgent call result

theorem AgentsOnly.countP {events : List Event} (h : AgentsOnly events) {p : Event → Bool}
    (hp : ∀ call result, p (.ranAgent call result) = false) : events.countP p = 0 := by
  refine List.countP_eq_zero.mpr ?_
  intro e he
  obtain ⟨call, result, rfl⟩ := h e he
  simp [hp]

theorem justified_append {log events : List Event} (h : EachAfter (Justified wiring) log)
    (hevents : AgentsOnly events) : EachAfter (Justified wiring) (log ++ events) := by
  induction events generalizing log with
  | nil => simpa using h
  | cons e events ih =>
    obtain ⟨call, result, rfl⟩ := hevents e List.mem_cons_self
    rw [← List.singleton_append, ← List.append_assoc]
    refine ih (eachAfter_append_singleton.mpr ⟨h, trivial⟩) ?_
    intro e he
    exact hevents e (List.mem_cons_of_mem _ he)

theorem ProposedFor.append {approval : Dict} (h : ProposedFor log approval) (events : List Event) :
    ProposedFor (log ++ events) approval := by
  obtain ⟨artifact, request, chatId, proposal, hmem, hdecides⟩ := h
  exact ⟨artifact, request, chatId, proposal, List.mem_append_left _ hmem, hdecides⟩

/-- What is ready stays ready while nothing is reviewed or repaired. -/
theorem Ready.append {node : Option Node} (h : Ready wiring state log node) {events : List Event}
    (hreviewed : events.countP isReviewed = 0) (hrepaired : events.countP isRepaired = 0) :
    Ready wiring state (log ++ events) node := by
  rcases node with _ | node
  · simpa [Ready, List.countP_append, hreviewed, hrepaired] using h
  · cases node with
    | interruptHumanApproval =>
      obtain ⟨hid, hbounds, review, hreview, hschema, hmem⟩ := h
      refine ⟨hid, ?_, review, hreview, hschema, List.mem_append_left _ hmem⟩
      simpa [List.countP_append, hreviewed, hrepaired] using hbounds
    | executeApprovedAction =>
      obtain ⟨hbounds, happroval⟩ := h
      refine ⟨by simpa [List.countP_append, hreviewed, hrepaired] using hbounds, ?_⟩
      intro approval ha
      exact (happroval approval ha).append events
    | _ => simpa [Ready, List.countP_append, hreviewed, hrepaired] using h

theorem agentsOnly_runCouncil (scope : RecruitmentState) (plan : Policy.TaskPlan) (n : Nat)
    (agents : List String) : AgentsOnly (runCouncil replies scope plan n agents).1 := by
  induction agents generalizing n with
  | nil => simp [runCouncil, AgentsOnly]
  | cons agentName agents ih =>
    unfold runCouncil
    split
    · simp [AgentsOnly]
    · rename_i call _
      split
      · simp [AgentsOnly]
      · simp only [AgentsOnly, List.mem_cons, forall_eq_or_imp]
        exact ⟨⟨call, _, rfl⟩, ih (n + 1)⟩

theorem agentsOnly_council :
    AgentsOnly (invokeCouncilDeliberationGraph wiring replies state).1 := by
  unfold invokeCouncilDeliberationGraph
  split
  · simp [AgentsOnly]
  · unfold collectCouncilOpinions
    split
    · exact agentsOnly_runCouncil _ _ _ _
    · simp [AgentsOnly]

theorem council_eq_ok
    (h : (invokeCouncilDeliberationGraph wiring replies state).2 = .ok next) :
    next.threadId = state.threadId ∧ next.reviewFixAttempts = state.reviewFixAttempts ∧
      next.humanApproval = state.humanApproval := by
  unfold invokeCouncilDeliberationGraph at h
  split at h
  · cases h
  · obtain ⟨lists, _, rfl⟩ := Except.map_eq_ok.mp h
    exact ⟨rfl, rfl, rfl⟩

/-- The nodes of the business subgraphs, and the edge they share. -/
theorem runNode_business {route : BusinessRoute} {subgraph : BusinessSubgraph}
    (h : businessSubgraph route = some subgraph) :
    runNode wiring replies state (.business route) =
      invokeBusinessSubgraph wiring replies subgraph state := by
  cases route <;> first | cases h; rfl | cases h

theorem nextNode_business {route : BusinessRoute} {subgraph : BusinessSubgraph}
    (h : businessSubgraph route = some subgraph) (state : RecruitmentState) :
    nextNode state (.business route) = some .reviewGate := by
  cases route <;> first | rfl | cases h

theorem agentsOnly_business (subgraph : BusinessSubgraph) :
    AgentsOnly (invokeBusinessSubgraph wiring replies subgraph state).1 := by
  unfold invokeBusinessSubgraph createBusinessArtifactRef
  dsimp only
  split_ifs
  · split
    · simp [AgentsOnly]
    · split <;> simp [AgentsOnly]
  · simp [AgentsOnly]

theorem business_eq_ok {subgraph : BusinessSubgraph}
    (h : (invokeBusinessSubgraph wiring replies subgraph state).2 = .ok next) :
    next.threadId = state.threadId ∧ next.reviewFixAttempts = some 0 ∧
      next.humanApproval = state.humanApproval := by
  obtain ⟨artifact, _, rfl⟩ := Except.map_eq_ok.mp h
  exact ⟨rfl, rfl, rfl⟩

theorem createTaskPlanAndPolicy_eq_ok (h : createTaskPlanAndPolicy replies state = .ok next) :
    (∃ id : UUID, next.threadId = id.str) ∧ next.reviewFixAttempts = state.reviewFixAttempts ∧
      next.humanApproval = state.humanApproval := by
  unfold createTaskPlanAndPolicy at h
  split at h
  · cases h
  · obtain rfl := Except.ok.inj h
    exact ⟨⟨_, rfl⟩, rfl, rfl⟩

theorem proposeBusinessAction_eq_ok {clientToken : UUID} {request : ProposeRequest}
    (h : proposeBusinessAction wiring clientToken state = .ok request) :
    UUID.parse state.threadId = some request.threadId ∧
      ∃ artifactId kind, request.payload = actionPayload state
        (latestBusinessArtifact wiring.crypto state) artifactId kind clientToken := by
  simp only [proposeBusinessAction, Except.bind_eq_ok] at h
  obtain ⟨kind, _, summary, _, artifactId, _, h⟩ := h
  cases hparse : UUID.parse state.threadId with
  | none =>
    simp only [hparse, Except.bind_eq_ok] at h
    obtain ⟨_, hid, _⟩ := h
    cases hid
  | some id =>
    simp only [hparse, Except.bind_eq_ok] at h
    obtain ⟨_, hid, h⟩ := h
    obtain rfl := Except.ok.inj hid
    obtain rfl := Except.ok.inj h
    exact ⟨rfl, artifactId, kind, rfl⟩

theorem get_review_result {review : StoredReview} (h : state.reviewResult = some review)
    (artifact : Dict) (artifactId kind : Json) (clientToken : UUID) :
    (actionPayload state artifact artifactId kind clientToken).get "review_result" =
      .obj (dumpReview review) := by
  simp only [actionPayload, h]
  split_ifs <;> simp [Dict.get_set]

/-- The edited payload is the only field that depends on the resume value alone. -/
theorem get_normalizedApproval {key : String} (hkey : key ≠ "edited_payload")
    (threadId actionId interruptId idempotencyKey : String) (decision : Decision)
    (approval : Dict) :
    (normalizedApproval threadId actionId interruptId idempotencyKey decision approval).get key =
      (Dict.ofList
        [("thread_id", .str threadId), ("action_id", .str actionId),
          ("interrupt_id", .str interruptId), ("idempotency_key", .str idempotencyKey),
          ("decision", .str decision.value),
          ("approver", .obj (approval.get "approver").asDict)]).get key := by
  unfold normalizedApproval
  split
  · exact Dict.get_set_ne _ _ hkey
  · rfl

/-- The approval the node keeps decides the proposal of the same run of the node. -/
theorem decides_of_normalized {approval : Json} {request : ProposeRequest}
    {proposal : ProposedAction} {normalized : Dict}
    (hthread : UUID.parse state.threadId = some request.threadId)
    (hid : ∃ id : UUID, state.threadId = id.str)
    (h : normalizeHumanApproval approval state.threadId proposal.actionId.str
      proposal.interruptId.str proposal.idempotencyKey = .ok normalized) :
    Decides normalized request proposal := by
  obtain ⟨id, hid⟩ := hid
  have hsame : state.threadId = request.threadId.str := by
    rw [hid, UUID.parse_str] at hthread
    rw [hid, Option.some.inj hthread]
  obtain ⟨fields, decision, _, hanswers, _, _, rfl⟩ := normalizeHumanApproval_eq_ok.mp h
  rw [hsame] at hanswers ⊢
  refine ⟨⟨⟨?_, hanswers.threadId.2⟩, ⟨?_, hanswers.actionId.2⟩, ⟨?_, hanswers.interruptId.2⟩,
    ⟨?_, hanswers.idempotencyKey.2⟩⟩, decision, ?_⟩
  all_goals
    rw [get_normalizedApproval (by decide)]
    simp [Dict.get_ofList, Dict.get_cons]

theorem interrupt_events :
    (interruptHumanApproval wiring replies state).1 = [] ∨
      ∃ request chatId result,
        proposeBusinessAction wiring replies.clientToken state = .ok request ∧
        (interruptHumanApproval wiring replies state).1 =
          [.proposed (latestBusinessArtifact wiring.crypto state) request chatId result] := by
  unfold interruptHumanApproval
  split_ifs with hgate
  · exact .inl rfl
  · cases hrequest : proposeBusinessAction wiring replies.clientToken state with
    | error message => exact .inl rfl
    | ok request =>
      refine .inr ⟨request, chatIdOf state, replies.proposeAction request (chatIdOf state), rfl, ?_⟩
      dsimp only
      split
      · rename_i hresult
        rw [hresult]
      · rename_i proposal hresult
        rw [hresult]
        split
        · rfl
        · split <;> rfl

/-- The node goes through without a gate, or with an approval that decides its proposal. -/
theorem interrupt_eq_ok (hid : ∃ id : UUID, state.threadId = id.str)
    (h : (interruptHumanApproval wiring replies state).2 = .ok next) :
    next.reviewFixAttempts = state.reviewFixAttempts ∧
      (wiring.actionGate = false ∧ next.humanApproval = state.humanApproval ∨
        wiring.actionGate = true ∧ ∃ approval, next.humanApproval = some approval ∧
          ProposedFor (interruptHumanApproval wiring replies state).1 approval) := by
  unfold interruptHumanApproval at h ⊢
  split_ifs at h ⊢ with hgate
  · obtain rfl := Except.ok.inj h
    exact ⟨rfl, .inl ⟨hgate, rfl⟩⟩
  · cases hrequest : proposeBusinessAction wiring replies.clientToken state with
    | error message => simp [hrequest] at h
    | ok request =>
      simp only [hrequest] at h ⊢
      cases hresult : replies.proposeAction request (chatIdOf state) with
      | error message => simp [hresult] at h
      | ok proposal =>
        simp only [hresult] at h ⊢
        cases hresume : replies.resume with
        | none => simp [hresume] at h
        | some approval =>
          simp only [hresume] at h ⊢
          cases hnormalize : normalizeHumanApproval approval state.threadId proposal.actionId.str
              proposal.interruptId.str proposal.idempotencyKey with
          | error message => simp [hnormalize] at h
          | ok normalized =>
            simp only [hnormalize, Except.ok.injEq] at h ⊢
            subst h
            refine ⟨rfl, .inr ⟨by simpa using hgate, normalized, rfl, ?_⟩⟩
            exact ⟨_, request, _, proposal, List.mem_singleton_self _,
              decides_of_normalized (proposeBusinessAction_eq_ok hrequest).1 hid hnormalize⟩

theorem execute_events :
    (executeApproved wiring replies state).1 = [] ∨
      ∃ approval, state.humanApproval = some approval ∧
        (executeApproved wiring replies state).1 = [.executed approval] := by
  unfold executeApproved
  cases happroval : state.humanApproval.filter (!List.isEmpty ·) with
  | none => exact .inl rfl
  | some approval =>
    dsimp only
    split_ifs
    · exact .inl rfl
    · refine .inr ⟨approval, (Option.filter_eq_some_iff.mp happroval).1, ?_⟩
      cases replies.execute approval with
      | ok result => rfl
      | error exc => cases exc <;> rfl

theorem execute_eq_ok (h : (executeApproved wiring replies state).2 = .ok next) :
    next.reviewFixAttempts = state.reviewFixAttempts ∧
      next.humanApproval = state.humanApproval := by
  unfold executeApproved at h
  split at h
  · obtain rfl := Except.ok.inj h
    exact ⟨rfl, rfl⟩
  · split_ifs at h
    · obtain rfl := Except.ok.inj h
      exact ⟨rfl, rfl⟩
    · split at h
      · obtain rfl := Except.ok.inj h
        exact ⟨rfl, rfl⟩
      · obtain rfl := Except.ok.inj h
        exact ⟨rfl, rfl⟩
      · cases h

/-- Every call a node makes is justified by what was there before. -/
theorem justified_runNode {run : GraphRun} (h : Invariant wiring run) (hnode : run.node = some node) :
    EachAfter (Justified wiring) (run.log ++ (runNode wiring replies run.state node).1) := by
  have hready := h.ready
  rw [hnode] at hready
  have hnone : EachAfter (Justified wiring) (run.log ++ []) := by simpa using h.justified
  cases node with
  | councilDeliberationGraph => exact justified_append h.justified agentsOnly_council
  | business route =>
    cases route with
    | askUserForMissingInfo | rejectWithReason | saveAsCaseData => exact hnone
    | _ =>
      simp only [runNode, businessSubgraph]
      exact justified_append h.justified (agentsOnly_business _)
  | reviewGate =>
    simp only [runNode, reviewLatest]
    split
    · exact hnone
    · exact eachAfter_append_singleton.mpr ⟨h.justified, trivial⟩
  | repairArtifact =>
    simp only [runNode]
    unfold repairLatest
    cases repairArtifactForReview (latestBusinessArtifact wiring.crypto run.state) with
    | none => exact hnone
    | some repaired => exact eachAfter_append_singleton.mpr ⟨h.justified, trivial⟩
  | interruptHumanApproval =>
    obtain ⟨_, _, review, hreview, hschema, hmem⟩ := hready
    simp only [runNode]
    rcases @interrupt_events wiring replies run.state with hevents | ⟨request, _, _, hrequest, hevents⟩
    · rw [hevents]
      exact hnone
    · rw [hevents]
      refine eachAfter_append_singleton.mpr
        ⟨h.justified, review, run.state, replies.clientToken, hmem, hschema, rfl, hrequest, ?_⟩
      obtain ⟨_, artifactId, kind, hpayload⟩ := proposeBusinessAction_eq_ok hrequest
      rw [hpayload, get_review_result hreview]
  | executeApprovedAction =>
    simp only [runNode]
    rcases @execute_events wiring replies run.state with hevents | ⟨approval, happroval, hevents⟩
    · rw [hevents]
      exact hnone
    · rw [hevents]
      exact eachAfter_append_singleton.mpr ⟨h.justified, hready.2 approval happroval⟩
  | _ => exact hnone

/-- A node that does not go through has reviewed and repaired nothing. -/
theorem uncounted_of_error {stop : Stop} (h : (runNode wiring replies state node).2 = .error stop) :
    (runNode wiring replies state node).1.countP isReviewed = 0 ∧
      (runNode wiring replies state node).1.countP isRepaired = 0 := by
  have hagents : ∀ {events : List Event}, AgentsOnly events →
      events.countP isReviewed = 0 ∧ events.countP isRepaired = 0 := by
    intro events hagents
    exact ⟨hagents.countP fun _ _ => rfl, hagents.countP fun _ _ => rfl⟩
  cases node with
  | councilDeliberationGraph => exact hagents agentsOnly_council
  | business route =>
    cases route with
    | askUserForMissingInfo | rejectWithReason | saveAsCaseData => exact ⟨rfl, rfl⟩
    | _ =>
      simp only [runNode, businessSubgraph]
      exact hagents (agentsOnly_business _)
  | reviewGate =>
    simp only [runNode, reviewLatest] at h ⊢
    split at h
    · exact ⟨rfl, rfl⟩
    · cases h
  | repairArtifact =>
    simp only [runNode] at h ⊢
    unfold repairLatest at h ⊢
    cases hrepair : repairArtifactForReview (latestBusinessArtifact wiring.crypto state) with
    | none => exact ⟨rfl, rfl⟩
    | some repaired => simp [hrepair] at h
  | interruptHumanApproval =>
    simp only [runNode]
    rcases @interrupt_events wiring replies state with hevents | ⟨_, _, _, _, hevents⟩ <;>
      rw [hevents] <;> exact ⟨rfl, rfl⟩
  | executeApprovedAction =>
    simp only [runNode]
    rcases @execute_events wiring replies state with hevents | ⟨_, _, hevents⟩ <;>
      rw [hevents] <;> exact ⟨rfl, rfl⟩
  | _ => exact ⟨rfl, rfl⟩

theorem Ready.reviews {node : Option Node} (h : Ready wiring state log node) :
    log.countP isReviewed ≤ 2 ∧ log.countP isRepaired ≤ 1 := by
  rcases node with _ | node
  · exact h
  · cases node <;> simp only [Ready] at h <;> omega

theorem reviewLatest_eq_ok (h : (reviewLatest wiring replies state).2 = .ok next) :
    ∃ review, (reviewLatest wiring replies state).1 =
        [.reviewed (latestBusinessArtifact wiring.crypto state) review] ∧
      next = { state with reviewResult := some review } := by
  unfold reviewLatest at h ⊢
  cases hcontext : reviewContextFromState wiring.crypto state with
  | none => simp [hcontext] at h
  | some context =>
    simp only [hcontext, Except.ok.injEq] at h ⊢
    exact ⟨_, rfl, h.symm⟩

theorem repairLatest_eq_ok (h : (repairLatest wiring state).2 = .ok next) :
    ∃ repaired, (repairLatest wiring state).1 = [.repaired repaired] ∧
      next = state.withRepair repaired := by
  unfold repairLatest at h ⊢
  cases hrepair : repairArtifactForReview (latestBusinessArtifact wiring.crypto state) with
  | none => simp [hrepair] at h
  | some repaired =>
    simp only [hrepair, Except.ok.injEq] at h ⊢
    exact ⟨repaired, rfl, h.symm⟩

/-- A review leads to a repair, to the gate with a valid artifact, or out. -/
theorem ready_of_review {review : StoredReview} (hid : ∃ id : UUID, state.threadId = id.str)
    (hcounts : log.countP isReviewed = 0 ∧ log.countP isRepaired = 0 ∨
      log.countP isReviewed = 1 ∧ log.countP isRepaired = 1 ∧ 1 ≤ state.repairAttempts) :
    let next := { state with reviewResult := some review }
    Ready wiring next (log ++ [.reviewed (latestBusinessArtifact wiring.crypto state) review])
      (nextNode next .reviewGate) := by
  have hreviews : (log ++ [Event.reviewed (latestBusinessArtifact wiring.crypto state)
      review]).countP isReviewed = log.countP isReviewed + 1 := by
    rw [List.countP_append]
    rfl
  have hrepairs : (log ++ [Event.reviewed (latestBusinessArtifact wiring.crypto state)
      review]).countP isRepaired = log.countP isRepaired := by
    rw [List.countP_append]
    rfl
  simp only [nextNode, routeFromReviewGate]
  split_ifs with hschema hfix
  · simp only [Ready, hreviews, hrepairs]
    omega
  · -- the attempts rule out that this is the second review
    have hattempts : state.repairAttempts < 1 := hfix.2
    refine ⟨hid, hattempts, ?_⟩
    rw [hreviews, hrepairs]
    omega
  · refine ⟨hid, ?_, review, rfl, by simpa using hschema, ?_⟩
    · rw [hreviews, hrepairs]
      omega
    · exact List.mem_append_right _ (List.mem_singleton_self _)

/-- What holds after a node has gone through, with the end nearer than before. -/
structure GoesOn (wiring : Wiring) (state next : RecruitmentState) (log : List Event)
    (node : Node) : Prop where
  attempts : 0 ≤ next.repairAttempts
  noApproval : wiring.actionGate = false → next.humanApproval = none
  ready : Ready wiring next log (nextNode next node)
  rank : ((nextNode next node).map (nodeRank next)).getD 0 < nodeRank state node

theorem GoesOn.of_kept (hattempts : 0 ≤ state.repairAttempts)
    (happroval : wiring.actionGate = false → state.humanApproval = none)
    (hfix : next.reviewFixAttempts = state.reviewFixAttempts)
    (happ : next.humanApproval = state.humanApproval)
    (hready : Ready wiring next log (nextNode next node))
    (hrank : ((nextNode next node).map (nodeRank next)).getD 0 < nodeRank state node) :
    GoesOn wiring state next log node where
  attempts := by rwa [RecruitmentState.repairAttempts, hfix]
  noApproval := by rwa [happ]
  ready := hready
  rank := hrank

theorem reviewGate_rank_lt (state : RecruitmentState) : nodeRank state .reviewGate < 8 := by
  unfold nodeRank
  split_ifs <;> decide

theorem goes_on_council (hready : Ready wiring state log (some .councilDeliberationGraph))
    (hattempts : 0 ≤ state.repairAttempts)
    (happroval : wiring.actionGate = false → state.humanApproval = none)
    (hok : (invokeCouncilDeliberationGraph wiring replies state).2 = .ok next) :
    GoesOn wiring state next (log ++ (invokeCouncilDeliberationGraph wiring replies state).1)
      .councilDeliberationGraph := by
  obtain ⟨hthread, hfix, happ⟩ := council_eq_ok hok
  refine .of_kept hattempts happroval hfix happ ?_ (by simp [nextNode, nodeRank])
  have hnext : Ready wiring next log (some .dispatchFromCouncil) := by
    refine ⟨?_, hready.2⟩
    rw [hthread]
    exact hready.1
  exact hnext.append (agentsOnly_council.countP fun _ _ => rfl)
    (agentsOnly_council.countP fun _ _ => rfl)

theorem goes_on_business {route : BusinessRoute} {subgraph : BusinessSubgraph}
    (hready : Ready wiring state log (some (.business route)))
    (hroute : businessSubgraph route = some subgraph)
    (happroval : wiring.actionGate = false → state.humanApproval = none)
    (hok : (invokeBusinessSubgraph wiring replies subgraph state).2 = .ok next) :
    GoesOn wiring state next (log ++ (invokeBusinessSubgraph wiring replies subgraph state).1)
      (.business route) := by
  obtain ⟨hthread, hfix, happ⟩ := business_eq_ok hok
  have hedge := nextNode_business hroute next
  refine ⟨by simp [RecruitmentState.repairAttempts, hfix], by rwa [happ], ?_, ?_⟩
  · have hnext : Ready wiring next log (some .reviewGate) := by
      refine ⟨?_, .inl hready.2⟩
      rw [hthread]
      exact hready.1
    rw [hedge]
    exact hnext.append ((agentsOnly_business subgraph).countP fun _ _ => rfl)
      ((agentsOnly_business subgraph).countP fun _ _ => rfl)
  · rw [hedge]
    exact reviewGate_rank_lt next

theorem goes_on_review (hready : Ready wiring state log (some .reviewGate))
    (hattempts : 0 ≤ state.repairAttempts)
    (happroval : wiring.actionGate = false → state.humanApproval = none)
    (hok : (reviewLatest wiring replies state).2 = .ok next) :
    GoesOn wiring state next (log ++ (reviewLatest wiring replies state).1) .reviewGate := by
  obtain ⟨review, hevents, rfl⟩ := reviewLatest_eq_ok hok
  rw [hevents]
  refine ⟨hattempts, happroval, ready_of_review hready.1 hready.2, ?_⟩
  simp only [nextNode, routeFromReviewGate]
  split_ifs with hschema hfix
  · simp only [nodeRank, Option.map_some, Option.getD_some]
    split_ifs <;> omega
  · have hbefore : state.repairAttempts < 1 := hfix.2
    simp [nodeRank, hbefore]
  · simp only [nodeRank, Option.map_some, Option.getD_some]
    split_ifs <;> omega

theorem goes_on_repair (hready : Ready wiring state log (some .repairArtifact))
    (hattempts : 0 ≤ state.repairAttempts)
    (happroval : wiring.actionGate = false → state.humanApproval = none)
    (hok : (repairLatest wiring state).2 = .ok next) :
    GoesOn wiring state next (log ++ (repairLatest wiring state).1) .repairArtifact := by
  obtain ⟨repaired, hevents, rfl⟩ := repairLatest_eq_ok hok
  obtain ⟨hid, _, hreviews, hrepairs⟩ := hready
  have hnext : (state.withRepair repaired).repairAttempts = state.repairAttempts + 1 := rfl
  rw [hevents]
  refine ⟨by omega, happroval, ⟨hid, .inr ⟨?_, ?_, by omega⟩⟩, ?_⟩
  · rw [List.countP_append, hreviews]
    rfl
  · rw [List.countP_append, hrepairs]
    rfl
  · have hpositive : ¬(state.withRepair repaired).repairAttempts < 1 := by omega
    simp [nextNode, nodeRank, hpositive]

theorem goes_on_interrupt (hready : Ready wiring state log (some .interruptHumanApproval))
    (hattempts : 0 ≤ state.repairAttempts)
    (happroval : wiring.actionGate = false → state.humanApproval = none)
    (hok : (interruptHumanApproval wiring replies state).2 = .ok next) :
    GoesOn wiring state next (log ++ (interruptHumanApproval wiring replies state).1)
      .interruptHumanApproval := by
  obtain ⟨hfix, hgate⟩ := interrupt_eq_ok hready.1 hok
  have hevents : (interruptHumanApproval wiring replies state).1.countP isReviewed = 0 ∧
      (interruptHumanApproval wiring replies state).1.countP isRepaired = 0 := by
    rcases @interrupt_events wiring replies state with hevents | ⟨_, _, _, _, hevents⟩ <;>
      rw [hevents] <;> exact ⟨rfl, rfl⟩
  refine ⟨by rwa [RecruitmentState.repairAttempts, hfix], ?_, ⟨?_, ?_⟩, by simp [nextNode, nodeRank]⟩
  · intro hno
    rcases hgate with ⟨_, happ⟩ | ⟨hyes, _⟩
    · rw [happ]
      exact happroval hno
    · rw [hno] at hyes
      cases hyes
  · rw [List.countP_append, List.countP_append, hevents.1, hevents.2]
    exact hready.2.1
  · intro approval ha
    rcases hgate with ⟨hno, happ⟩ | ⟨_, kept, hkept, artifact, request, chatId, proposal, hmem,
      hdecides⟩
    · rw [happ, happroval hno] at ha
      cases ha
    · obtain rfl := Option.some.inj (hkept.symm.trans ha)
      exact ⟨artifact, request, chatId, proposal, List.mem_append_right _ hmem, hdecides⟩

theorem goes_on_execute (hready : Ready wiring state log (some .executeApprovedAction))
    (hattempts : 0 ≤ state.repairAttempts)
    (happroval : wiring.actionGate = false → state.humanApproval = none)
    (hok : (executeApproved wiring replies state).2 = .ok next) :
    GoesOn wiring state next (log ++ (executeApproved wiring replies state).1)
      .executeApprovedAction := by
  obtain ⟨hfix, happ⟩ := execute_eq_ok hok
  refine .of_kept hattempts happroval hfix happ ?_ (by simp [nextNode, nodeRank])
  have hnext : Ready wiring next log (some .recordAgentRun) := hready.1
  rcases @execute_events wiring replies state with hevents | ⟨_, _, hevents⟩ <;> rw [hevents] <;>
    exact hnext.append rfl rfl

theorem goes_on {run : GraphRun} (h : Invariant wiring run) (hnode : run.node = some node)
    (hok : (runNode wiring replies run.state node).2 = .ok next) :
    GoesOn wiring run.state next (run.log ++ (runNode wiring replies run.state node).1) node := by
  have hready := h.ready
  rw [hnode] at hready
  have hkeep : ∀ {next : RecruitmentState},
      next.reviewFixAttempts = run.state.reviewFixAttempts →
      next.humanApproval = run.state.humanApproval →
      Ready wiring next run.log (nextNode next node) →
      ((nextNode next node).map (nodeRank next)).getD 0 < nodeRank run.state node →
      GoesOn wiring run.state next (run.log ++ []) node := by
    intro next hfix happ hnext hrank
    refine .of_kept h.attempts h.noApproval hfix happ ?_ hrank
    simpa using hnext
  cases node with
  | receiveUserInput =>
    simp only [runNode, Except.ok.injEq] at hok ⊢
    subst hok
    exact hkeep rfl rfl hready (by simp [nextNode, nodeRank])
  | createTaskPlanAndPolicy =>
    simp only [runNode] at hok ⊢
    obtain ⟨hid, hfix, happ⟩ := createTaskPlanAndPolicy_eq_ok hok
    exact hkeep hfix happ ⟨hid, hready⟩ (by simp [nextNode, nodeRank])
  | councilDeliberationGraph => exact goes_on_council hready h.attempts h.noApproval hok
  | business route =>
    cases hsubgraph : businessSubgraph route with
    | some subgraph =>
      rw [runNode_business hsubgraph] at hok ⊢
      exact goes_on_business hready hsubgraph h.noApproval hok
    | none =>
      cases route with
      | askUserForMissingInfo | rejectWithReason =>
        simp only [runNode, Except.ok.injEq] at hok ⊢
        subst hok
        exact hkeep rfl rfl (Ready.reviews hready) (by simp [nextNode, nodeRank])
      | saveAsCaseData =>
        simp only [runNode, Except.ok.injEq] at hok ⊢
        subst hok
        exact hkeep rfl rfl ⟨hready.1, .inl hready.2⟩ (reviewGate_rank_lt _)
      | _ => cases hsubgraph
  | reviewGate => exact goes_on_review hready h.attempts h.noApproval hok
  | repairArtifact => exact goes_on_repair hready h.attempts h.noApproval hok
  | interruptHumanApproval => exact goes_on_interrupt hready h.attempts h.noApproval hok
  | executeApprovedAction => exact goes_on_execute hready h.attempts h.noApproval hok
  | dispatchFromCouncil | rejectReviewGate | recordAgentRun =>
    simp only [runNode, Except.ok.injEq] at hok ⊢
    subst hok
    exact hkeep rfl rfl hready (by simp [nextNode, nodeRank])

end Nodes

theorem Invariant.step {wiring : Wiring} {run next : GraphRun} {label : GraphLabel}
    (h : Invariant wiring run) (hstep : run.step wiring label = some next) :
    Invariant wiring next := by
  cases label with
  | invoke input =>
    obtain rfl := Option.some.inj hstep
    have hreceive : (run.state.receive input).reviewFixAttempts = run.state.reviewFixAttempts ∧
        (run.state.receive input).humanApproval = run.state.humanApproval := by
      unfold RecruitmentState.receive
      dsimp only
      constructor <;> split <;> split <;> rfl
    refine ⟨?_, ?_, eachAfter_nil _, ⟨rfl, rfl⟩⟩
    · rw [RecruitmentState.repairAttempts, hreceive.1]
      exact h.attempts
    · rw [hreceive.2]
      exact h.noApproval
  | node replies =>
    obtain ⟨node, hnode, hran⟩ := Option.map_eq_some_iff.mp hstep
    have hjustified := @justified_runNode wiring replies node run h hnode
    cases hresult : (runNode wiring replies run.state node).2 with
    | error stop =>
      simp only [hresult] at hran
      subst hran
      obtain ⟨hreviewed, hrepaired⟩ := uncounted_of_error hresult
      exact ⟨h.attempts, h.noApproval, hjustified, h.ready.append hreviewed hrepaired⟩
    | ok state =>
      simp only [hresult] at hran
      subst hran
      have hnext := goes_on h hnode hresult
      exact ⟨hnext.attempts, hnext.noApproval, hjustified, hnext.ready⟩

theorem invariant_fresh (wiring : Wiring) : Invariant wiring GraphRun.fresh where
  attempts := le_refl 0
  noApproval _ := rfl
  justified := eachAfter_nil _
  ready := ⟨Nat.zero_le 2, Nat.zero_le 1⟩

theorem Invariant.safe {wiring : Wiring} {run : GraphRun} (h : Invariant wiring run) :
    SafeRun wiring run where
  justified := h.justified
  reviews := h.ready.reviews.1
  repairs := h.ready.reviews.2
  ends := by
    intro replies next hstep hmoved
    obtain ⟨node, hnode, hran⟩ := Option.map_eq_some_iff.mp hstep
    cases hresult : (runNode wiring replies run.state node).2 with
    | error stop =>
      simp only [hresult] at hran
      subst hran
      exact absurd rfl hmoved
    | ok state =>
      simp only [hresult] at hran
      subst hran
      rw [GraphRun.rank, GraphRun.rank, hnode]
      exact (goes_on h hnode hresult).rank

/-- Whatever is sent in and replied, every run of the graph on a new thread is safe. -/
theorem graph_run_safe (wiring : Wiring) {labels : List GraphLabel} {run : GraphRun}
    (h : exec (GraphRun.step wiring) GraphRun.fresh labels = some run) : SafeRun wiring run := by
  refine Invariant.safe ?_
  refine exec_invariant (Invariant wiring) (P := fun _ _ => True) ?_ (invariant_fresh wiring) ?_ h
  · intro run label next hrun _ hstep
    exact hrun.step hstep
  · exact along_iff_forall.mpr fun _ _ _ _ _ _ => trivial

def mappingInput : InitialState where
  threadId := "7d444840-9dc0-41d1-b245-5ffdce74fad2"
  source := "runtime"
  sourceRef := "request:1"
  userInput := "请为企业平台负责人岗位做人才地图，包含目标公司"

def approveReply : Replies where
  threadId := .ofNat 1
  plan := ⟨.ofNat 2, .ofNat 3⟩
  decisionId := .ofNat 4
  clientToken := .ofNat 5
  reviewedAt := "2026-07-01T00:00:00Z"
  runAgent _ _ := .error "no harness"
  proposeAction _ _ := .ok ⟨.ofNat 6, .ofNat 7, "artifact://payload", "action:1"⟩
  resume := some (.obj
    [("thread_id", .str "7d444840-9dc0-41d1-b245-5ffdce74fad2"),
      ("action_id", .str (UUID.ofNat 6).str), ("interrupt_id", .str (UUID.ofNat 7).str),
      ("idempotency_key", .str "action:1"), ("decision", .str "approve")])
  execute _ := .ok [("status", .str "queued")]

def plainWiring : Wiring where
  crypto := Crypto.plain
  pydantic := exactTypes
  agentHarness := false
  actionGate := true
  actionExecutor := true
  reviewArtifact _ _ n := ⟨.pass, none, none, [], n⟩

/-- The run of nine nodes reviews, proposes and executes. -/
theorem graph_run_safe_approvedMapping : ∃ run,
    exec (GraphRun.step plainWiring) GraphRun.fresh
      (.invoke mappingInput :: List.replicate 9 (.node approveReply)) = some run ∧
    run.log.length = 3 ∧ SafeRun plainWiring run := by
  have hlength : (exec (GraphRun.step plainWiring) GraphRun.fresh
      (.invoke mappingInput :: List.replicate 9 (.node approveReply))).map
        (fun run => run.log.length) = some 3 := by decide +kernel
  obtain ⟨run, hrun, hlog⟩ := Option.map_eq_some_iff.mp hlength
  exact ⟨run, hrun, hlog, graph_run_safe plainWiring hrun⟩

end Headhunt.Graphs
