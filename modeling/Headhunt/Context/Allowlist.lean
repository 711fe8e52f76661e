import Headhunt.Context.Pack
import Headhunt.Graphs.RunSafety

/-! The artifact refs of a context pack: all that the state of the graph has, whatever the policy of
the agent lets it read. -/
namespace Headhunt.Context
open Headhunt.Graphs Headhunt.Harness Headhunt.Memory Headhunt.Runtime Headhunt.Sops Py

/-- The policy lets the agent read the artifact. -/
structure ReadAllowed (policy : AgentPolicy) (artifact : ArtifactRef) : Prop where
  kind : artifact.kind ∈ policy.allowedArtifactTypesRead
  pii : piiOrder.idxOf artifact.piiLevel.value ≤ piiOrder.idxOf policy.piiAccessLevel.value

def inputArtifacts (state : RecruitmentState) : Node → List Dict
  | .business _ => state.artifacts
  | _ => []

/-- A task that `_agent_task_from_state` has built while the node runs. -/
structure BuiltAt (wiring : Wiring) (state : RecruitmentState) (node : Node) (task : AgentCall) :
    Prop where
  policy : task.policy = defaultAgentPolicy task.agentName task.outputArtifactType
  artifactRefs : task.artifactRefs =
    artifactRefsFromState wiring.pydantic (inputArtifacts state node)

section Tasks

variable {wiring : Wiring} {replies : Replies} {state : RecruitmentState} {node : Node}
  {task : AgentCall} {result : Except String AgentRunResult}

theorem agentTaskFromState_eq_ok {plan : Policy.TaskPlan}
    {agentName nodeName nodeGoal outputArtifactType : String} {refs : List ArtifactRef}
    (h : agentTaskFromState state plan agentName nodeName nodeGoal outputArtifactType refs =
      .ok task) :
    task.policy = defaultAgentPolicy task.agentName task.outputArtifactType ∧
      task.artifactRefs = refs := by
  unfold agentTaskFromState at h
  dsimp only at h
  split at h
  all_goals
    simp only [Except.bind_eq_ok] at h
    obtain ⟨feishuChatId, hchat, modelProfileId, _, embeddingProfileId, _, h⟩ := h
    first
      | cases hchat; done
      | obtain rfl := Except.ok.inj h
        exact ⟨rfl, rfl⟩

theorem ranAgent_runCouncil {plan : Policy.TaskPlan} {n : Nat} {agents : List String}
    (h : Event.ranAgent task result ∈ (runCouncil replies state plan n agents).1) :
    task.policy = defaultAgentPolicy task.agentName task.outputArtifactType ∧
      task.artifactRefs = [] := by
  induction agents generalizing n with
  | nil => simp [runCouncil] at h
  | cons agentName agents ih =>
    unfold runCouncil at h
    cases hcall : agentTaskFromState state plan agentName "collect_council_opinions"
        s!"{agentName} 生成会审意见" "CouncilOpinion" [] with
    | error message => simp [hcall] at h
    | ok call =>
      cases hrun : replies.runAgent n call with
      | error message =>
        simp only [hcall, hrun, List.mem_singleton, Event.ranAgent.injEq] at h
        rw [h.1]
        exact agentTaskFromState_eq_ok hcall
      | ok reply =>
        simp only [hcall, hrun, List.mem_cons, Event.ranAgent.injEq] at h
        rcases h with ⟨rfl, _⟩ | h
        · exact agentTaskFromState_eq_ok hcall
        · exact ih h

theorem ranAgent_council
    (h : Event.ranAgent task result ∈ (invokeCouncilDeliberationGraph wiring replies state).1) :
    BuiltAt wiring state .councilDeliberationGraph task := by
  unfold invokeCouncilDeliberationGraph at h
  cases hplan : state.taskPlan with
  | none => simp [hplan] at h
  | some plan =>
    simp only [hplan, collectCouncilOpinions] at h
    split_ifs at h with hharness
    · obtain ⟨hpolicy, hrefs⟩ := ranAgent_runCouncil h
      exact ⟨hpolicy, hrefs⟩
    · cases h

theorem ranAgent_business {subgraph : BusinessSubgraph} {route : BusinessRoute}
    (h : Event.ranAgent task result ∈
      (invokeBusinessSubgraph wiring replies subgraph state).1) :
    BuiltAt wiring state (.business route) task := by
  simp only [invokeBusinessSubgraph, createBusinessArtifactRef] at h
  split_ifs at h with hharness
  · cases hplan : (businessScope state).taskPlan with
    | none => simp [hplan] at h
    | some plan =>
      simp only [hplan] at h
      cases hcall : agentTaskFromState (businessScope state) plan subgraph.agentName
          subgraph.nodeName s!"{subgraph.agentName} 生成 {subgraph.artifactKind}"
          subgraph.artifactKind
          (artifactRefsFromState wiring.pydantic (businessScope state).inputArtifactRefs) with
      | error message => simp [hcall] at h
      | ok call =>
        simp only [hcall, List.mem_singleton, Event.ranAgent.injEq] at h
        rw [h.1]
        obtain ⟨hpolicy, hrefs⟩ := agentTaskFromState_eq_ok hcall
        exact ⟨hpolicy, hrefs⟩
  · cases h

/-- The council and the business subgraphs are the nodes that run agents. -/
theorem ranAgent_runNode
    (h : Event.ranAgent task result ∈ (runNode wiring replies state node).1) :
    BuiltAt wiring state node task := by
  cases node with
  | councilDeliberationGraph => exact ranAgent_council h
  | business route =>
    cases hsubgraph : businessSubgraph route with
    | none => cases route <;> first | (cases hsubgraph; done) | simp [runNode] at h
    | some subgraph =>
      rw [runNode_business hsubgraph] at h
      exact ranAgent_business h
  | reviewGate =>
    simp only [runNode, reviewLatest] at h
    split at h
    · cases h
    · cases List.mem_singleton.mp h
  | repairArtifact =>
    unfold runNode repairLatest at h
    dsimp only at h
    split at h
    · cases h
    · cases List.mem_singleton.mp h
  | interruptHumanApproval =>
    have hevents := @interrupt_events wiring replies state
    rcases hevents with hnone | ⟨request, chatId, reply, _, hproposed⟩
    · simp [runNode, hnone] at h
    · simp [runNode, hproposed] at h
  | executeApprovedAction =>
    have hevents := @execute_events wiring replies state
    rcases hevents with hnone | ⟨approval, _, hexecuted⟩
    · simp [runNode, hnone] at h
    · simp [runNode, hexecuted] at h
  | _ => simp [runNode] at h

end Tasks

/-- The agent may read the artifact: one of the seven kinds, of at most its own level. -/
structure Cleared (agentName : String) (artifact : ArtifactRef) : Prop where
  kind : artifact.kind ∈ readableArtifactTypes
  pii : artifact.piiLevel = .none ∨ artifact.piiLevel = .low ∨
    artifact.piiLevel = .medium ∧ agentName = "CandidateJudgementAgent"

/-- Every artifact of a state that an agent would be handed is one it may read. -/
def InputsCleared (wiring : Wiring) (state : RecruitmentState) (node : Node)
    (agentName : String) : Prop :=
  ∀ artifact ∈ inputArtifacts state node, ∀ parsed,
    ArtifactRef.modelValidate wiring.pydantic artifact = some parsed → Cleared agentName parsed

/-- Every pack of every agent of the graph shows only what the agent may read. -/
def PacksAllowed : Prop :=
  ∀ (wiring : Wiring) (replies : Replies) (state : RecruitmentState) (node : Node)
    (task : AgentCall) (result : Except String AgentRunResult) (registry : AgentSOPRegistry)
    (contextPackId : UUID) (memoryRefs : List MemoryRef) (pack : ContextPack),
    Event.ranAgent task result ∈ (runNode wiring replies state node).1 →
    buildContextPack registry contextPackId task memoryRefs = .ok pack →
    ∀ artifact ∈ pack.artifactRefs, ReadAllowed task.policy artifact

theorem readAllowed_defaultAgentPolicy {agentName outputArtifactType : String}
    {artifact : ArtifactRef} :
    ReadAllowed (defaultAgentPolicy agentName outputArtifactType) artifact ↔
      Cleared agentName artifact := by
  have hlevel : piiOrder.idxOf artifact.piiLevel.value ≤
      piiOrder.idxOf (defaultAgentPolicy agentName outputArtifactType).piiAccessLevel.value ↔
        artifact.piiLevel = .none ∨ artifact.piiLevel = .low ∨
          artifact.piiLevel = .medium ∧ agentName = "CandidateJudgementAgent" := by
    by_cases hagent : agentName = "CandidateJudgementAgent"
    · simp only [defaultAgentPolicy, hagent, if_true, and_true]
      cases artifact.piiLevel <;> decide
    · simp only [defaultAgentPolicy, hagent, if_false, and_false, or_false]
      cases artifact.piiLevel <;> decide
  constructor
  · intro h
    exact ⟨h.kind, hlevel.mp h.pii⟩
  · intro h
    exact ⟨h.kind, hlevel.mpr h.pii⟩

section Packs

variable {wiring : Wiring} {replies : Replies} {state : RecruitmentState} {node : Node}
  {task : AgentCall} {result : Except String AgentRunResult} {registry : AgentSOPRegistry}
  {contextPackId : UUID} {memoryRefs : List MemoryRef} {pack : ContextPack}

/-- A pack keeps to the policy of its agent when the state of the graph does already. -/
theorem packAllowed_iff
    (hran : Event.ranAgent task result ∈ (runNode wiring replies state node).1)
    (hbuild : buildContextPack registry contextPackId task memoryRefs = .ok pack) :
    (∀ artifact ∈ pack.artifactRefs, ReadAllowed task.policy artifact) ↔
      InputsCleared wiring state node task.agentName := by
  have hbuilt := ranAgent_runNode hran
  rw [(buildContextPack_eq_ok hbuild).artifacts, hbuilt.artifactRefs, hbuilt.policy]
  constructor
  · intro h artifact hartifact parsed hparsed
    apply readAllowed_defaultAgentPolicy.mp
    apply h
    exact List.mem_filterMap.mpr ⟨artifact, hartifact, hparsed⟩
  · intro h parsed hmem
    obtain ⟨artifact, hartifact, hparsed⟩ := List.mem_filterMap.mp hmem
    apply readAllowed_defaultAgentPolicy.mpr
    exact h artifact hartifact parsed hparsed

/-- The council is handed nothing, so that its packs always do. -/
theorem inputsCleared_council (agentName : String) :
    InputsCleared wiring state .councilDeliberationGraph agentName := by
  intro artifact hartifact
  cases hartifact

end Packs

def candidateOpinion : Dict := Dict.ofList
  [("artifact_id", .str "7d444840-9dc0-41d1-b245-5ffdce74fad2"), ("kind", .str "CouncilOpinion"),
    ("summary", .str "候选人有五年同类岗位经验"),
    ("content_ref", .str "artifact://agent-output/opinion/v1"), ("pii_level", .str "medium"),
    ("version", .int 1), ("size_tokens_estimate", .int 10)]

def mappingPlan : Policy.TaskPlan := Policy.createTaskPlan ⟨.ofNat 2, .ofNat 1⟩
  { requestText := "完整会审 Mapping", source := "feishu", threadId := some (.ofNat 1),
    nonempty := by decide }

def mappingState : RecruitmentState :=
  { threadId := (UUID.ofNat 1).str
    taskPlan := some mappingPlan
    artifacts := [candidateOpinion] }

def mappingWiring : Wiring where
  crypto := Crypto.plain
  pydantic := exactTypes
  agentHarness := true
  actionGate := true
  actionExecutor := true
  reviewArtifact := reviewArtifact exactTypes

def mappingReplies : Replies where
  threadId := .ofNat 1
  plan := ⟨.ofNat 2, .ofNat 1⟩
  decisionId := .ofNat 4
  clientToken := .ofNat 5
  reviewedAt := "2026-07-01T00:00:00Z"
  runAgent _ _ := .error "LLM gateway unavailable"
  proposeAction _ _ := .error ""
  resume := none
  execute _ := .ok []

theorem ran_mapping : ∃ task result, task.agentName = "SourcingMappingAgent" ∧
    Event.ranAgent task result ∈
      (runNode mappingWiring mappingReplies mappingState (.business .talentMappingGraph)).1 :=
  ⟨_, _, rfl, List.mem_cons_self⟩

theorem modelValidate_candidateOpinion :
    ∃ parsed, ArtifactRef.modelValidate exactTypes candidateOpinion = some parsed ∧
      parsed.piiLevel = .medium ∧ parsed.sizeTokensEstimate = 10 := by
  have hfields : (ArtifactRef.modelValidate exactTypes candidateOpinion).map
      (fun parsed => (parsed.piiLevel, parsed.sizeTokensEstimate)) = some (.medium, 10) := by
    decide +kernel
  obtain ⟨parsed, hparsed, hfields⟩ := Option.map_eq_some_iff.mp hfields
  obtain ⟨hlevel, hsize⟩ := Prod.mk.inj hfields
  exact ⟨parsed, hparsed, hlevel, hsize⟩

theorem not_inputsCleared_mapping :
    ¬InputsCleared mappingWiring mappingState (.business .talentMappingGraph)
      "SourcingMappingAgent" := by
  intro hcleared
  obtain ⟨parsed, hparsed, hlevel, _⟩ := modelValidate_candidateOpinion
  have hclear := hcleared candidateOpinion List.mem_cons_self parsed hparsed
  rcases hclear.pii with hpii | hpii | ⟨_, hagent⟩
  · rw [hlevel] at hpii
    cases hpii
  · rw [hlevel] at hpii
    cases hpii
  · revert hagent
    decide

/-- The pack of the mapping is built. -/
theorem mapping_pack : ∃ task result pack, task.agentName = "SourcingMappingAgent" ∧
    Event.ranAgent task result ∈
      (runNode mappingWiring mappingReplies mappingState (.business .talentMappingGraph)).1 ∧
    buildContextPack ⟨[], 1, 2⟩ (.ofNat 6) task [] = .ok pack := by
  obtain ⟨task, result, hagent, hran⟩ := ran_mapping
  obtain ⟨parsed, hparsed, _, hsize⟩ := modelValidate_candidateOpinion
  have hrefs : task.artifactRefs = [parsed] := by
    rw [(ranAgent_runNode hran).artifactRefs]
    have hvalid : ArtifactRef.modelValidate mappingWiring.pydantic candidateOpinion =
      some parsed := hparsed
    simp [artifactRefsFromState, inputArtifacts, mappingState, hvalid]
  have hestimate : 0 ≤ estimateContextTokens task.taskBrief task.artifactRefs [] []
      task.sourceRefs := by
    simp only [estimateContextTokens, hrefs, List.map_cons, List.map_nil, List.sum_cons,
      List.sum_nil, hsize]
    omega
  obtain ⟨pack, hpack⟩ := buildContextPack_of_nonneg ⟨[], 1, 2⟩ (.ofNat 6) rfl hestimate
  exact ⟨task, result, pack, hagent, hran, hpack⟩

theorem not_packsAllowed : ¬PacksAllowed := by
  intro hall
  obtain ⟨task, result, pack, hagent, hran, hpack⟩ := mapping_pack
  have hallowed := hall _ _ _ _ task result _ _ _ pack hran hpack
  rw [(buildContextPack_eq_ok hpack).artifacts] at hallowed
  have hbuilt := ranAgent_runNode hran
  apply not_inputsCleared_mapping
  intro artifact hartifact parsed hparsed
  have hmem : parsed ∈ task.artifactRefs := by
    rw [hbuilt.artifactRefs]
    exact List.mem_filterMap.mpr ⟨artifact, hartifact, hparsed⟩
  have hread := hallowed parsed hmem
  rw [hbuilt.policy, hagent] at hread
  exact readAllowed_defaultAgentPolicy.mp hread

theorem packAllowed_iff_mapping : ∃ task result pack,
    Event.ranAgent task result ∈
      (runNode mappingWiring mappingReplies mappingState (.business .talentMappingGraph)).1 ∧
    buildContextPack ⟨[], 1, 2⟩ (.ofNat 6) task [] = .ok pack ∧
    ((∀ artifact ∈ pack.artifactRefs, ReadAllowed task.policy artifact) ↔
      InputsCleared mappingWiring mappingState (.business .talentMappingGraph) task.agentName) := by
  obtain ⟨task, result, pack, _, hran, hpack⟩ := mapping_pack
  exact ⟨task, result, pack, hran, hpack, packAllowed_iff hran hpack⟩

end Headhunt.Context
