import Headhunt.Graphs.RunSafety
import Headhunt.Runtime.GraphDispatch

/-! The graph runs of a confirmed task: whatever holds in each of them, and one that goes as far
as its proposal. -/
namespace Headhunt.Graphs
open Headhunt.Feishu Headhunt.Policy Headhunt.Runtime Headhunt.Storage Py Transition

/-- The graph as `RuntimeGraphFactory` builds it: with all of its collaborators. -/
def runtimeWiring (crypto : Crypto) (pydantic : Pydantic) : Wiring where
  crypto := crypto
  pydantic := pydantic
  agentHarness := true
  actionGate := true
  actionExecutor := true
  reviewArtifact := reviewArtifact pydantic

/-- A run on the thread of the task: each attempt invokes the graph with the input of its item. -/
def RunOf {crypto : Crypto} (pydantic : Pydantic) (task : ConfirmedTask crypto) (run : GraphRun) :
    Prop :=
  ∃ labels, (∀ input, GraphLabel.invoke input ∈ labels → input = task.input) ∧
    exec (GraphRun.step (runtimeWiring crypto pydantic)) GraphRun.fresh labels = some run

section Runs

variable {crypto : Crypto} {pydantic : Pydantic} {task : ConfirmedTask crypto} {run : GraphRun}

theorem RunOf.induct (Inv : GraphRun → Prop) (hfresh : Inv GraphRun.fresh)
    (hinvoke : ∀ run : GraphRun, Inv run →
      Inv ⟨some .receiveUserInput, run.state.receive task.input, []⟩)
    (hnode : ∀ (run : GraphRun) node replies, Inv run → run.node = some node →
      (∀ next, (runNode (runtimeWiring crypto pydantic) replies run.state node).2 = .ok next →
        Inv ⟨nextNode next node, next,
          run.log ++ (runNode (runtimeWiring crypto pydantic) replies run.state node).1⟩) ∧
      Inv { run with
        log := run.log ++ (runNode (runtimeWiring crypto pydantic) replies run.state node).1 })
    (h : RunOf pydantic task run) : Inv run := by
  obtain ⟨labels, hinput, hrun⟩ := h
  refine exec_invariant Inv (P := fun _ label => label ∈ labels) ?_ hfresh ?_ hrun
  · intro run label next hinv hlabel hstep
    cases label with
    | invoke input =>
      obtain rfl := Option.some.inj hstep
      rw [hinput input hlabel]
      exact hinvoke run hinv
    | node replies =>
      obtain ⟨node, hnext, hran⟩ := Option.map_eq_some_iff.mp hstep
      obtain ⟨hok, herror⟩ := hnode run node replies hinv hnext
      cases hresult : (runNode (runtimeWiring crypto pydantic) replies run.state node).2 with
      | error stop =>
        simp only [hresult] at hran
        subst hran
        exact herror
      | ok state =>
        simp only [hresult] at hran
        subst hran
        exact hok state hresult
  · refine along_iff_forall.mpr ?_
    intro pre label post _ heq _
    rw [heq]
    exact List.mem_append_right _ List.mem_cons_self

theorem receive_input (state : RecruitmentState) :
    (state.receive task.input).feishuContext = state.feishuContext ∧
      (state.receive task.input).userInput = some task.plan.requestText := by
  simp [RecruitmentState.receive, ConfirmedTask.input]

theorem textOrDefault_some {text : String} (h : text ≠ "") {default : String} :
    textOrDefault (some text) default = text := by
  simp [textOrDefault, Option.filter, h]

theorem RunOf.append (label : GraphLabel) {next : GraphRun} (h : RunOf pydantic task run)
    (hlabel : ∀ input, label = .invoke input → input = task.input)
    (hstep : run.step (runtimeWiring crypto pydantic) label = some next) :
    RunOf pydantic task next := by
  obtain ⟨labels, hinput, hrun⟩ := h
  refine ⟨labels ++ [label], ?_, exec_append_eq_some.mpr ⟨run, hrun, ?_⟩⟩
  · intro input hmem
    rcases List.mem_append.mp hmem with hmem | hmem
    · exact hinput input hmem
    · exact hlabel input (List.mem_singleton.mp hmem).symm
  · exact exec_cons_eq_some.mpr ⟨next, hstep, rfl⟩

theorem RunOf.goesOn {state next : RecruitmentState} {node : Node} {log events : List Event}
    (replies : Replies) (h : RunOf pydantic task ⟨some node, state, log⟩)
    (hnode : runNode (runtimeWiring crypto pydantic) replies state node = (events, .ok next)) :
    RunOf pydantic task ⟨nextNode next node, next, log ++ events⟩ := by
  refine h.append (.node replies) (fun _ heq => by cases heq) ?_
  simp [GraphRun.step, hnode]

theorem RunOf.stops {state : RecruitmentState} {node : Node} {log events : List Event} {stop : Stop}
    (replies : Replies) (h : RunOf pydantic task ⟨some node, state, log⟩)
    (hnode : runNode (runtimeWiring crypto pydantic) replies state node = (events, .error stop)) :
    RunOf pydantic task ⟨some node, state, log ++ events⟩ := by
  refine h.append (.node replies) (fun _ heq => by cases heq) ?_
  simp [GraphRun.step, hnode]

def draftSummary : String := "按岗位要求整理完成的候选人与目标公司清单"

def agentDraft (kind : String) : Dict :=
  graphArtifact (UUID.ofNat 8).str kind draftSummary "artifact://agent-output/draft/v1" 10

def gateFresh : FreshAction := ⟨.ofNat 6, .ofNat 7, 0⟩

def draftReplies : Replies where
  threadId := .ofNat 1
  plan := ⟨.ofNat 2, .ofNat 3⟩
  decisionId := .ofNat 4
  clientToken := .ofNat 5
  reviewedAt := "2026-07-01T00:00:00Z"
  runAgent _ call := .ok ⟨.ofNat 9, agentDraft call.outputArtifactType⟩
  proposeAction request _ := .ok (proposedAction (proposalRow gateFresh request))
  resume := none
  execute _ := .ok []

theorem orElse_int (n : Int) : (Json.int n).orElse (.int 0) = .int n := by
  by_cases h : n = 0 <;> simp [Json.orElse, Json.truthy, h]

theorem sizeTokensEstimate_graphArtifact (artifactId kind summary ref : String) (tokens : Nat) :
    sizeTokensEstimate (graphArtifact artifactId kind summary ref tokens) = some (tokens : Int) := by
  have hget : (graphArtifact artifactId kind summary ref tokens).get "size_tokens_estimate" =
      .int tokens := by
    simp [graphArtifact, Dict.get_ofList, Dict.get_cons]
  rw [sizeTokensEstimate, hget, orElse_int]
  rfl

/-- Every artifact of the state says how long it is. -/
def Sized (artifacts : List Dict) : Prop :=
  ∀ artifact ∈ artifacts, (sizeTokensEstimate artifact).isSome

theorem Sized.total {artifacts : List Dict} (h : Sized artifacts) :
    ∃ total, totalTokensEstimate artifacts = some total := by
  induction artifacts with
  | nil => exact ⟨0, rfl⟩
  | cons artifact artifacts ih =>
    obtain ⟨size, hsize⟩ := Option.isSome_iff_exists.mp (h artifact List.mem_cons_self)
    obtain ⟨total, htotal⟩ := ih fun a ha => h a (List.mem_cons_of_mem _ ha)
    obtain ⟨sizes, hsizes, _⟩ := Option.map_eq_some_iff.mp htotal
    exact ⟨size + sizes.sum, by simp [totalTokensEstimate, List.mapM_cons, hsize, hsizes]⟩

/-- The thread and the model of the task, whose plan is made. -/
structure OnTask (task : ConfirmedTask crypto) (state : RecruitmentState) : Prop where
  threadId : state.threadId = task.plan.threadId.str
  feishuContext : state.feishuContext = .null
  modelProfileId : state.modelProfileId = some task.modelProfileId.str
  embeddingProfileId : state.embeddingProfileId = task.embeddingProfileId.map UUID.str

theorem optionalUuid_str (id : Option UUID) : ∃ found, optionalUuid (id.map UUID.str) = .ok found := by
  cases id with
  | none => exact ⟨none, rfl⟩
  | some id =>
    refine ⟨some id, ?_⟩
    simp [optionalUuid, Option.filter, str_ne_nil, UUID.parse_str]

/-- A task of an agent can be built. -/
theorem OnTask.call {state : RecruitmentState} (h : OnTask task state) (plan : TaskPlan)
    (agentName nodeName nodeGoal outputArtifactType : String) (artifactRefs : List ArtifactRef) :
    ∃ call, agentTaskFromState state plan agentName nodeName nodeGoal outputArtifactType
      artifactRefs = .ok call ∧ call.outputArtifactType = outputArtifactType := by
  have hchat : chatIdOf state = .null := by
    rw [chatIdOf, h.feishuContext]
    rfl
  obtain ⟨modelProfileId, hmodel⟩ := optionalUuid_str (some task.modelProfileId)
  obtain ⟨embeddingProfileId, hembedding⟩ := optionalUuid_str task.embeddingProfileId
  rw [Option.map_some, ← h.modelProfileId] at hmodel
  rw [← h.embeddingProfileId] at hembedding
  simp only [agentTaskFromState, hchat, hmodel, hembedding, bind, Except.bind]
  exact ⟨_, rfl, rfl⟩

/-- The council comes to its end, with an artifact of each of its agents. -/
theorem OnTask.runCouncil {scope : RecruitmentState} (h : OnTask task scope) (plan : TaskPlan)
    (n : Nat) (agents : List String) :
    ∃ opinions, (Graphs.runCouncil draftReplies scope plan n agents).2 = .ok opinions ∧
      Sized (opinions.map Prod.fst) ∧
      (agents ≠ [] → ∃ call result,
        .ranAgent call (.ok result) ∈ (Graphs.runCouncil draftReplies scope plan n agents).1) := by
  induction agents generalizing n with
  | nil => exact ⟨[], rfl, by simp [Sized], fun hne => absurd rfl hne⟩
  | cons agentName agents ih =>
    obtain ⟨call, hcall, _⟩ := h.call plan agentName "collect_council_opinions"
      s!"{agentName} 生成会审意见" "CouncilOpinion" []
    obtain ⟨opinions, hopinions, hsized, _⟩ := ih (n + 1)
    simp only [Graphs.runCouncil, hcall, draftReplies] at hopinions ⊢
    rw [hopinions]
    refine ⟨_, rfl, ?_, fun _ => ⟨call, _, List.mem_cons_self⟩⟩
    intro artifact hartifact
    rcases List.mem_cons.mp hartifact with rfl | hartifact
    · simp [agentDraft, sizeTokensEstimate_graphArtifact]
    · exact hsized artifact hartifact

/-- The plan of the run is that of the task. -/
structure SamePlan (task : ConfirmedTask crypto) (plan : TaskPlan) : Prop where
  taskType : plan.taskType = task.plan.taskType
  councilMode : plan.councilMode = task.plan.councilMode
  requiredAgents : plan.requiredAgents = task.plan.requiredAgents

theorem OnTask.createTaskPlan {state : RecruitmentState} (h : OnTask task state)
    (htext : state.userInput = some task.plan.requestText) :
    ∃ next plan, createTaskPlanAndPolicy draftReplies state = .ok next ∧ OnTask task next ∧
      next.artifacts = state.artifacts ∧ next.taskPlan = some plan ∧ SamePlan task plan := by
  obtain ⟨hne, _, htype, hmode, _, hagents, _⟩ := task.plan_eq
  have hparse : UUID.parse state.threadId = some task.plan.threadId := by
    rw [h.threadId, UUID.parse_str]
  have hrequest : textOrDefault state.userInput emptyTask = task.plan.requestText := by
    rw [htext]
    exact textOrDefault_some hne
  unfold createTaskPlanAndPolicy
  rw [hparse]
  refine ⟨_, _, rfl, ⟨rfl, h.feishuContext, h.modelProfileId, h.embeddingProfileId⟩, rfl, rfl, ?_⟩
  refine ⟨?_, ?_, ?_⟩
  · change classifyTask (textOrDefault state.userInput emptyTask) = _
    rw [hrequest, htype]
  · change (selectCouncil (textOrDefault state.userInput emptyTask)).mode = _
    rw [hrequest, hmode]
  · change (selectCouncil (textOrDefault state.userInput emptyTask)).requiredAgents = _
    rw [hrequest, hagents]

theorem councilAgents_ne {plan : TaskPlan} (h : SamePlan task plan) : councilAgents plan ≠ [] := by
  obtain ⟨_, _, _, _, _, hagents, _⟩ := task.plan_eq
  rw [councilAgents, h.requiredAgents, hagents, selectCouncil]
  split_ifs <;> decide

/-- The run of a task comes to its plan. -/
theorem planned_run (pydantic : Pydantic) (task : ConfirmedTask crypto) :
    ∃ state plan, RunOf pydantic task ⟨some .councilDeliberationGraph, state, []⟩ ∧
      OnTask task state ∧ state.artifacts = [] ∧ state.taskPlan = some plan ∧
      SamePlan task plan := by
  have hinvoke : RunOf pydantic task
      ⟨some .receiveUserInput, GraphRun.fresh.state.receive task.input, []⟩ := by
    refine RunOf.append (.invoke task.input) ⟨[], by simp, rfl⟩ ?_ rfl
    intro input heq
    exact (GraphLabel.invoke.inj heq).symm
  have hreceive := hinvoke.goesOn draftReplies rfl
  generalize hstate : receiveUserInput draftReplies (GraphRun.fresh.state.receive task.input) =
    state at hreceive
  have hon : OnTask task state := by
    subst hstate
    constructor <;>
      simp [receiveUserInput, RecruitmentState.receive, GraphRun.fresh, ConfirmedTask.input,
        str_ne_nil]
  have htext : state.userInput = some task.plan.requestText := by
    subst hstate
    simp [receiveUserInput, RecruitmentState.receive, ConfirmedTask.input]
  have hartifacts : state.artifacts = [] := by
    subst hstate
    simp [receiveUserInput, RecruitmentState.receive, GraphRun.fresh, ConfirmedTask.input]
  obtain ⟨next, plan, hnext, honNext, hkept, hplan, hsame⟩ := hon.createTaskPlan htext
  have hnode : runNode (runtimeWiring crypto pydantic) draftReplies state .createTaskPlanAndPolicy =
      ([], .ok next) := by
    simp [runNode, hnext]
  have hcreate := hreceive.goesOn draftReplies hnode
  exact ⟨next, plan, hcreate, honNext, hkept.trans hartifacts, hplan, hsame⟩

/-- It comes to its council, whose agents show their results. -/
theorem council_run (pydantic : Pydantic) (task : ConfirmedTask crypto) :
    ∃ state log, RunOf pydantic task ⟨some .dispatchFromCouncil, state, log⟩ ∧
      (∃ call result, Event.ranAgent call (.ok result) ∈ log) ∧ OnTask task state ∧
      Sized state.artifacts ∧ (∃ plan, state.taskPlan = some plan) ∧
      (task.plan.councilMode ≠ .triage → state.humanQuestions = []) ∧
      (state.councilDecision.map (·.recommendedBusinessSubgraph)).getD "" = task.plan.taskType := by
  obtain ⟨state, plan, hrun, hon, hartifacts, hplan, hsame⟩ := planned_run pydantic task
  have hscope : OnTask task (subgraphRuntimeScope state) := ⟨hon.1, hon.2, hon.3, hon.4⟩
  obtain ⟨opinions, hopinions, hsized, hran⟩ := hscope.runCouncil plan 0 (councilAgents plan)
  obtain ⟨call, result, hmem⟩ := hran (councilAgents_ne hsame)
  have hcollect : collectCouncilOpinions (runtimeWiring crypto pydantic) draftReplies
      (subgraphRuntimeScope state) plan =
        ((Graphs.runCouncil draftReplies (subgraphRuntimeScope state) plan 0
          (councilAgents plan)).1, .ok opinions.unzip) := by
    simp [collectCouncilOpinions, runtimeWiring, hopinions, Except.map]
  have hnode := hrun.goesOn draftReplies (by
    simp only [runNode, invokeCouncilDeliberationGraph, hplan, hcollect, Except.map]
    rfl)
  refine ⟨_, _, hnode, ⟨call, result, List.mem_append_right _ hmem⟩, ⟨hon.1, hon.2, hon.3, hon.4⟩,
    ?_, ⟨plan, rfl⟩, ?_, hsame.taskType⟩
  · intro artifact hartifact
    simp only [hartifacts, List.nil_append, List.unzip_fst] at hartifact
    rcases List.mem_append.mp hartifact with hartifact | hartifact
    · exact hsized artifact hartifact
    · rw [List.mem_singleton.mp hartifact, decisionArtifact, sizeTokensEstimate_graphArtifact]
      rfl
  · intro htriage
    rw [← hsame.councilMode] at htriage
    simp [decisionOfPlan, htriage]

/-- Every type of task has a subgraph, whose artifact is not one of the council. -/
theorem businessSubgraph_classify (text : String) :
    ∃ route subgraph, routeMap.lookup (classifyTask text) = some route ∧
      businessSubgraph route = some subgraph ∧
        isBusinessArtifact (agentDraft subgraph.artifactKind) := by
  unfold classifyTask
  split_ifs
  all_goals exact ⟨_, _, rfl, rfl, by decide +kernel⟩

/-- The artifact of a task that is not only triaged is made. -/
theorem business_run (pydantic : Pydantic) (task : ConfirmedTask crypto)
    (hmode : task.plan.councilMode ≠ .triage) :
    ∃ state log kind, RunOf pydantic task ⟨some .reviewGate, state, log⟩ ∧ OnTask task state ∧
      Sized state.artifacts ∧
      latestBusinessArtifact crypto state = agentDraft kind := by
  obtain ⟨state, log, hrun, _, hon, hsized, ⟨plan, hplan⟩, hquestions, htype⟩ :=
    council_run pydantic task
  obtain ⟨route, subgraph, hroute, hsubgraph, hbusiness⟩ :=
    businessSubgraph_classify task.plan.requestText
  have hnext : nextNode state .dispatchFromCouncil = some (.business route) := by
    obtain ⟨_, _, hclass, _⟩ := task.plan_eq
    rw [← hclass, ← htype] at hroute
    simp [nextNode, routeFromCouncil, hquestions hmode, hroute]
  have hdispatch := hrun.goesOn draftReplies rfl
  rw [hnext] at hdispatch
  have hscope : OnTask task (businessScope state) := ⟨hon.1, hon.2, hon.3, hon.4⟩
  obtain ⟨call, hcall, hkind⟩ := hscope.call plan subgraph.agentName subgraph.nodeName
    s!"{subgraph.agentName} 生成 {subgraph.artifactKind}" subgraph.artifactKind
    (artifactRefsFromState pydantic state.artifacts)
  have hcreated : createBusinessArtifactRef (runtimeWiring crypto pydantic) draftReplies subgraph
      (businessScope state) =
        ([.ranAgent call (.ok ⟨.ofNat 9, agentDraft subgraph.artifactKind⟩)],
          .ok (agentDraft subgraph.artifactKind)) := by
    have hscopePlan : (businessScope state).taskPlan = some plan := hplan
    have hrefs : (businessScope state).inputArtifactRefs = state.artifacts := rfl
    simp only [createBusinessArtifactRef, runtimeWiring, hscopePlan, hrefs, hcall, if_true,
      draftReplies, hkind, Except.mapError, Except.map]
  have hnode : runNode (runtimeWiring crypto pydantic) draftReplies state (.business route) =
      ([.ranAgent call (.ok ⟨.ofNat 9, agentDraft subgraph.artifactKind⟩)], .ok
        { state with
          artifacts := state.artifacts ++ [agentDraft subgraph.artifactKind]
          reviewResult := none
          reviewFixAttempts := some 0 }) := by
    rw [runNode_business hsubgraph]
    simp only [invokeBusinessSubgraph, hcreated, Except.map]
  have hreview := hdispatch.goesOn draftReplies hnode
  rw [nextNode_business hsubgraph] at hreview
  refine ⟨_, _, subgraph.artifactKind, hreview, ⟨hon.1, hon.2, hon.3, hon.4⟩, ?_, ?_⟩
  · intro artifact hartifact
    rcases List.mem_append.mp hartifact with hartifact | hartifact
    · exact hsized artifact hartifact
    · rw [List.mem_singleton.mp hartifact, agentDraft, sizeTokensEstimate_graphArtifact]
      rfl
  · simp [latestBusinessArtifact, hbusiness]

theorem get?_graphArtifact {artifactId kind summary ref : String} {tokens : Nat} :
    let artifact := graphArtifact artifactId kind summary ref tokens
    artifact.get? "artifact_id" = some (.str artifactId) ∧ artifact.get? "kind" = some (.str kind) ∧
      artifact.get? "summary" = some (.str summary) ∧
      artifact.get? "content_ref" = some (.str ref) ∧
      artifact.get? "evidence_refs" = some (.arr []) ∧
      artifact.get? "source_refs" = some (.arr []) ∧
      artifact.get? "pii_level" = some (.str "none") ∧ artifact.get? "version" = some (.int 1) ∧
      artifact.get? "size_tokens_estimate" = some (.int tokens) := by
  simp [graphArtifact, Dict.ofList, Dict.merge]

/-- What the graph makes itself is an `ArtifactRef`. -/
theorem modelValidate_graphArtifact {id : UUID}
    (huuid : pydantic.uuid (.str id.str) = some id) (kind summary ref : String) (tokens : Nat) :
    ArtifactRef.modelValidate pydantic (graphArtifact id.str kind summary ref tokens) =
      some ⟨id, kind, summary, ref, [], [], .none, 1, tokens⟩ := by
  obtain ⟨hid, hkind, hsummary, href, hevidence, hsource, hpii, hversion, htokens⟩ :=
    @get?_graphArtifact id.str kind summary ref tokens
  refine modelValidate_eq_some_iff.mpr ⟨?_, ?_, ?_, ?_, ?_, ?_, ?_, ?_, ?_, ?_⟩
  · intro item hitem
    rcases Dict.mem_merge hitem with hitem | hitem
    · cases hitem
    · exact List.mem_map_of_mem hitem
  · rw [hid]
    exact huuid
  · rw [hkind]
    rfl
  · rw [hsummary]
    rfl
  · rw [href]
    rfl
  · rw [hevidence]
    rfl
  · rw [hsource]
    rfl
  · rw [hpii]
    rfl
  · rw [hversion]
    exact pydantic.int_int 1
  · rw [htokens]
    exact pydantic.int_int tokens

theorem modelValidate_agentDraft (huuid : pydantic.uuid (.str (UUID.ofNat 8).str) = some (.ofNat 8))
    (kind : String) : ∃ parsed, ArtifactRef.modelValidate pydantic (agentDraft kind) = some parsed ∧
      parsed.summary = draftSummary :=
  ⟨_, modelValidate_graphArtifact huuid kind draftSummary _ _, rfl⟩

theorem hasSchemaError_of_valid {artifact : Dict} {parsed : ArtifactRef}
    (h : ArtifactRef.modelValidate pydantic artifact = some parsed) {context : Dict} {attempts : Int}
    {review : StoredReview}
    (hreview : review.result = reviewArtifact pydantic artifact context attempts) :
    hasSchemaError review = false := by
  have hfindings : review.result.findings =
      evidenceFindings parsed ++ practicalityFindings parsed ++ contextBudgetFindings context ++
        safetyFindings artifact context := by
    rw [hreview]
    exact reviewFindings_eq h
  have hevidence : (evidenceFindings parsed).any (·.reviewer = "SchemaValidator") = false := by
    unfold evidenceFindings
    split_ifs <;> simp
  have hpracticality : (practicalityFindings parsed).any (·.reviewer = "SchemaValidator") = false := by
    unfold practicalityFindings
    split_ifs <;> simp
  have hbudget : (contextBudgetFindings context).any (·.reviewer = "SchemaValidator") = false := by
    unfold contextBudgetFindings
    dsimp only
    split_ifs <;> simp
  have hsafety : (safetyFindings artifact context).any (·.reviewer = "SchemaValidator") = false := by
    unfold safetyFindings
    dsimp only
    split_ifs <;> simp
  simp only [hasSchemaError, hfindings, List.any_append, hevidence, hpracticality, hbudget, hsafety,
    Bool.or_self]
/-- The reviewers may want a human for the artifact, but none of them sends it back. -/
theorem review_agentDraft (huuid : ∀ id : UUID, pydantic.uuid (.str id.str) = some id)
    {kind : String} {context : Dict} {attempts : Int} {review : StoredReview}
    (hreview : review.result = reviewArtifact pydantic (agentDraft kind) context attempts) :
    hasSchemaError review = false ∧ review.result.status ≠ .needsFix := by
  obtain ⟨parsed, hvalid, hsummary⟩ := modelValidate_agentDraft (huuid (.ofNat 8)) kind
  refine ⟨hasSchemaError_of_valid hvalid hreview, ?_⟩
  intro hfix
  rw [hreview] at hfix
  obtain ⟨read, hunobjectionable, hshort⟩ := reviewArtifact_needsFix hfix
  have hsame := Option.some.inj (hvalid.symm.trans hunobjectionable.valid)
  have hlong : 12 ≤ (strip draftSummary).length := by decide +kernel
  rw [← hsame, hsummary] at hshort
  exact absurd hshort (not_lt.mpr hlong)

/-- The artifact is reviewed and goes to the human. -/
theorem reviewed_run (huuid : ∀ id : UUID, pydantic.uuid (.str id.str) = some id)
    (task : ConfirmedTask crypto) (hmode : task.plan.councilMode ≠ .triage) :
    ∃ state log kind, RunOf pydantic task ⟨some .interruptHumanApproval, state, log⟩ ∧
      OnTask task state ∧ latestBusinessArtifact crypto state = agentDraft kind := by
  obtain ⟨state, log, kind, hrun, hon, hsized, hlatest⟩ := business_run pydantic task hmode
  obtain ⟨total, htotal⟩ := hsized.total
  have hcontext : reviewContextFromState crypto state = some (reviewContext crypto state total) := by
    rw [reviewContextFromState, htotal]
    rfl
  set review : StoredReview := ⟨reviewArtifact pydantic (agentDraft kind)
    (reviewContext crypto state total) state.repairAttempts, draftReplies.reviewedAt⟩ with hreview
  obtain ⟨hschema, hfix⟩ := @review_agentDraft pydantic huuid kind
    (reviewContext crypto state total) state.repairAttempts review rfl
  have hnode : runNode (runtimeWiring crypto pydantic) draftReplies state .reviewGate =
      ([.reviewed (agentDraft kind) review], .ok { state with reviewResult := some review }) := by
    have hcrypto : (runtimeWiring crypto pydantic).crypto = crypto := rfl
    have hgate : (runtimeWiring crypto pydantic).reviewArtifact = reviewArtifact pydantic := rfl
    simp only [runNode, reviewLatest, hcrypto, hgate, hcontext, hlatest, hreview]
  have hnext : nextNode { state with reviewResult := some review } .reviewGate =
      some .interruptHumanApproval := by
    simp [nextNode, routeFromReviewGate, hschema, hfix]
  have hinterrupt := hrun.goesOn draftReplies hnode
  rw [hnext] at hinterrupt
  exact ⟨_, _, kind, hinterrupt, ⟨hon.1, hon.2, hon.3, hon.4⟩, hlatest⟩

/-- A task that is not only triaged comes to a proposal, on a thread that has none yet. -/
theorem proposal_run (huuid : ∀ id : UUID, pydantic.uuid (.str id.str) = some id)
    (task : ConfirmedTask crypto) (hmode : task.plan.councilMode ≠ .triage) :
    ∃ run artifact request given, RunOf pydantic task run ∧
      Event.proposed artifact request given
        (.ok (proposedAction (proposalRow gateFresh request))) ∈ run.log := by
  obtain ⟨state, log, kind, hrun, hon, hlatest⟩ := reviewed_run huuid task hmode
  have hcrypto : (runtimeWiring crypto pydantic).crypto = crypto := rfl
  have hgate : (runtimeWiring crypto pydantic).actionGate = true := rfl
  have hparse : UUID.parse state.threadId = some task.plan.threadId := by
    rw [hon.threadId, UUID.parse_str]
  have hrequest : ∃ request, proposeBusinessAction (runtimeWiring crypto pydantic)
      draftReplies.clientToken state = .ok request := by
    obtain ⟨hid, hkind, hsummary, _⟩ := @get?_graphArtifact (UUID.ofNat 8).str kind draftSummary
      "artifact://agent-output/draft/v1" 10
    simp only [proposeBusinessAction, hcrypto, hlatest, requiredField, agentDraft, hid, hkind,
      hsummary, hparse, bind, Except.bind]
    exact ⟨_, rfl⟩
  obtain ⟨request, hrequest⟩ := hrequest
  have hanswer : draftReplies.proposeAction request (chatIdOf state) =
      .ok (proposedAction (proposalRow gateFresh request)) := rfl
  have hresume : draftReplies.resume = none := rfl
  have hstopped := hrun.stops draftReplies (by
    simp only [runNode, interruptHumanApproval, hgate, hrequest, hanswer, hresume, reduceCtorEq,
      if_false]
    rfl)
  exact ⟨_, _, request, _, hstopped, List.mem_append_right _ List.mem_cons_self⟩

end Runs
end Headhunt.Graphs
