import Headhunt.Graphs.WarRoom
import Headhunt.Memory.Selection
import Headhunt.Sops.Registry

/-! `AgentHarness.build_context_pack`: what an agent is shown, and the estimate of its tokens. Of
the refs only the memories are cut to the budget. -/
namespace Headhunt.Context
open Headhunt.Graphs Headhunt.Harness Headhunt.Memory Headhunt.Runtime Headhunt.Sops
  Headhunt.Storage Py

/-- `policy_matches_agent`: what the schema of a task checks. -/
structure PolicyMatchesAgent (task : AgentCall) : Prop where
  agentName : task.policy.agentName = task.agentName
  outputArtifactType : task.outputArtifactType ∈ task.policy.allowedArtifactTypesWrite

structure BudgetRemaining where
  maxContextTokens : Nat
  estimatedContextTokens : Nat

structure ContextPack where
  contextPackId : UUID
  threadId : UUID
  agentName : String
  taskBrief : String
  nodeGoal : String
  councilMode : String
  modeReason : String
  artifactRefs : List ArtifactRef
  memoryRefs : List MemoryRef
  sopRefs : List SOPRef
  sourceRefs : List String
  budgetRemaining : BudgetRemaining
  excludedContextReason : List String

def estimateTextTokens (text : String) : Nat :=
  if text = "" then 0 else max 1 (text.length / 4)

/-- `_estimate_context_tokens`; the size of an artifact may be any integer. -/
def estimateContextTokens (taskBrief : String) (artifactRefs : List ArtifactRef)
    (memoryRefs : List MemoryRef) (sopRefs : List SOPRef) (sourceRefs : List String) : Int :=
  estimateTextTokens taskBrief + (artifactRefs.map ArtifactRef.sizeTokensEstimate).sum +
    (memoryRefs.map MemoryRef.tokensEstimate).sum + (sopRefs.map SOPRef.tokensEstimate).sum +
    (sourceRefs.map estimateTextTokens).sum

def excludedContextReason : String :=
  "full chat history, raw RecruitmentState, node_history, AgentRuns, full artifacts, " ++
    "full SOP documents, and all long-term memories are excluded by allowlist"

def sopQuery (task : AgentCall) : SOPQuery where
  agentName := task.agentName
  nodeName := task.nodeName
  taskType := task.taskType
  outputArtifactType := task.outputArtifactType
  allowedArtifactTypesWrite := task.policy.allowedArtifactTypesWrite

def budgetRemaining (maxContextTokens : Nat) (estimate : Int) :
    Except RegistryError BudgetRemaining :=
  if 0 ≤ estimate then .ok ⟨maxContextTokens, estimate.toNat⟩
  else .error (.other "BudgetRemaining estimated_context_tokens")

def buildContextPack (registry : AgentSOPRegistry) (contextPackId : UUID) (task : AgentCall)
    (memoryRefs : List MemoryRef) : Except RegistryError ContextPack := do
  let sopRefs ← registry.resolve (sopQuery task)
  let tokensEstimate := estimateContextTokens task.taskBrief task.artifactRefs memoryRefs sopRefs
    task.sourceRefs
  let budget ← budgetRemaining task.policy.maxContextTokens tokensEstimate
  .ok
    { contextPackId := contextPackId
      threadId := task.threadId
      agentName := task.agentName
      taskBrief := task.taskBrief
      nodeGoal := task.nodeGoal
      councilMode := task.councilMode
      modeReason := task.modeReason
      artifactRefs := task.artifactRefs
      memoryRefs := memoryRefs
      sopRefs := sopRefs
      sourceRefs := task.sourceRefs
      budgetRemaining := budget
      excludedContextReason := [excludedContextReason] }

section Build

variable {registry : AgentSOPRegistry} {contextPackId : UUID} {task : AgentCall}
  {memoryRefs : List MemoryRef} {pack : ContextPack}

structure PackOf (registry : AgentSOPRegistry) (task : AgentCall) (memoryRefs : List MemoryRef)
    (pack : ContextPack) : Prop where
  artifacts : pack.artifactRefs = task.artifactRefs
  memories : pack.memoryRefs = memoryRefs
  sources : pack.sourceRefs = task.sourceRefs
  sops : registry.resolve (sopQuery task) = .ok pack.sopRefs
  maxTokens : pack.budgetRemaining.maxContextTokens = task.policy.maxContextTokens
  tokens : (pack.budgetRemaining.estimatedContextTokens : Int) =
    estimateContextTokens task.taskBrief task.artifactRefs memoryRefs pack.sopRefs task.sourceRefs

theorem budgetRemaining_eq_ok {maxContextTokens : Nat} {estimate : Int} {budget : BudgetRemaining}
    (h : budgetRemaining maxContextTokens estimate = .ok budget) :
    budget.maxContextTokens = maxContextTokens ∧ (budget.estimatedContextTokens : Int) = estimate := by
  unfold budgetRemaining at h
  split_ifs at h with hsign
  obtain rfl := Except.ok.inj h
  exact ⟨rfl, Int.toNat_of_nonneg hsign⟩

theorem buildContextPack_eq_ok
    (h : buildContextPack registry contextPackId task memoryRefs = .ok pack) :
    PackOf registry task memoryRefs pack := by
  unfold buildContextPack at h
  cases hsops : registry.resolve (sopQuery task) with
  | error exc => simp [hsops, bind, Except.bind] at h
  | ok sopRefs =>
    cases hbudget : budgetRemaining task.policy.maxContextTokens (estimateContextTokens
        task.taskBrief task.artifactRefs memoryRefs sopRefs task.sourceRefs) with
    | error exc => simp [hsops, hbudget, bind, Except.bind] at h
    | ok budget =>
      simp only [hsops, hbudget, bind, Except.bind, Except.ok.injEq] at h
      obtain ⟨hmax, htokens⟩ := budgetRemaining_eq_ok hbudget
      subst h
      exact ⟨rfl, rfl, rfl, hsops, hmax, htokens⟩

theorem buildContextPack_of_nonneg (registry : AgentSOPRegistry) (contextPackId : UUID)
    {sopRefs : List SOPRef} (hsops : registry.resolve (sopQuery task) = .ok sopRefs)
    (h : 0 ≤ estimateContextTokens task.taskBrief task.artifactRefs memoryRefs sopRefs
      task.sourceRefs) :
    ∃ pack, buildContextPack registry contextPackId task memoryRefs = .ok pack := by
  simp only [buildContextPack, hsops, budgetRemaining, h, if_true, bind, Except.bind]
  exact ⟨_, rfl⟩

end Build

/-- The tokens of everything a pack shows, the SOPs as the records of the registry have them. -/
def shownTokens (registry : AgentSOPRegistry) (task : AgentCall) (memoryRefs : List MemoryRef) :
    Int :=
  estimateTextTokens task.taskBrief + (task.artifactRefs.map ArtifactRef.sizeTokensEstimate).sum +
    totalTokens memoryRefs + ((registry.chosen (sopQuery task)).map estimateRefTokens).sum +
    (task.sourceRefs.map estimateTextTokens).sum

/-- No pack is estimated at more tokens than the policy allows. -/
def BudgetHolds : Prop :=
  ∀ (registry : AgentSOPRegistry) (contextPackId : UUID) (task : AgentCall)
    (memoryRefs : List MemoryRef) (pack : ContextPack), PolicyMatchesAgent task →
    buildContextPack registry contextPackId task memoryRefs = .ok pack →
    pack.budgetRemaining.estimatedContextTokens ≤ task.policy.maxContextTokens

section Budget

variable {registry : AgentSOPRegistry} {contextPackId : UUID} {task : AgentCall}
  {memoryRefs : List MemoryRef} {pack : ContextPack}

theorem sopTokens_eq {query : SOPQuery} {records : List SOPRecord} {refs : List SOPRef}
    (h : List.Forall₂ (RefOf query) records refs) :
    refs.map SOPRef.tokensEstimate = records.map estimateRefTokens := by
  induction h with
  | nil => rfl
  | cons href _ ih => rw [List.map_cons, List.map_cons, href.tokensEstimate, ih]

/-- The estimate of a pack is the sum of what it shows: nothing is left out of it. -/
theorem PackOf.estimated (h : PackOf registry task memoryRefs pack) :
    (pack.budgetRemaining.estimatedContextTokens : Int) = shownTokens registry task memoryRefs := by
  rw [h.tokens, estimateContextTokens, sopTokens_eq (resolve_chosen h.sops)]
  rfl

/-- A pack keeps to its budget when the task, the SOPs and the memories fit into it as they are. -/
theorem withinBudget_iff
    (h : buildContextPack registry contextPackId task memoryRefs = .ok pack) :
    pack.budgetRemaining.estimatedContextTokens ≤ task.policy.maxContextTokens ↔
      shownTokens registry task memoryRefs ≤ task.policy.maxContextTokens := by
  rw [← (buildContextPack_eq_ok h).estimated]
  exact Int.ofNat_le.symm

/-- The memories alone are cut to the budget by the retrieval. -/
theorem totalTokens_retrieve_le {V : Type} (gateway : Gateway V) (now : Time)
    (memories : List MemoryItem) (embeddings : List (MemoryEmbedding V)) :
    totalTokens (retrieve gateway (contextRetrieval task.toAgentTask task.policy) now memories
      embeddings).1 ≤ task.policy.maxContextTokens := by
  have hmax : (contextRetrieval task.toAgentTask task.policy).effectiveMaxTokens =
      task.policy.maxContextTokens := by
    simp [RetrieveRequest.effectiveMaxTokens, contextRetrieval, AgentPolicy.dump]
  rw [retrieve_eq]
  split_ifs with hexit
  · exact Nat.zero_le _
  · simp only [not_or] at hexit
    calc totalTokens (selectRefs _ _ _ _ _).selected
        ≤ (contextRetrieval task.toAgentTask task.policy).effectiveMaxTokens :=
          (selectRefs_sound _ _ _ _ _ (Nat.pos_of_ne_zero hexit.1)).budget
      _ = task.policy.maxContextTokens := hmax

/-- So a pack of the gateway is over its budget by no more than what is not cut. -/
theorem estimated_le_of_retrieve {V : Type} {gateway : Gateway V} {now : Time}
    {memories : List MemoryItem} {embeddings : List (MemoryEmbedding V)}
    (h : buildContextPack registry contextPackId task (retrieve gateway
      (contextRetrieval task.toAgentTask task.policy) now memories embeddings).1 = .ok pack) :
    (pack.budgetRemaining.estimatedContextTokens : Int) ≤
      task.policy.maxContextTokens + shownTokens registry task [] := by
  have hmemories := @totalTokens_retrieve_le task V gateway now memories embeddings
  have hempty : totalTokens [] = 0 := rfl
  rw [(buildContextPack_eq_ok h).estimated, shownTokens, shownTokens, hempty]
  omega

end Budget

def longArtifact : ArtifactRef where
  artifactId := .ofNat 3
  kind := "TalentMapDraft"
  summary := "人才地图草稿"
  contentRef := "artifact://agent-output/draft/v1"
  evidenceRefs := []
  sourceRefs := []
  piiLevel := .none
  version := 1
  sizeTokensEstimate := 4000

def longTask : AgentCall where
  threadId := .ofNat 1
  nodeName := "followup_review_graph"
  agentName := "DataAutomationAgent"
  taskBrief := "复盘"
  councilMode := "lite"
  modeReason := ""
  outputArtifactType := "FollowupReviewDraft"
  source := "feishu"
  sourceRef := "feishu:om_1"
  taskType := "review"
  feishuChatId := none
  sourceRefs := []
  modelProfileId := none
  modelOwnerUserId := none
  modelGuildId := none
  modelTenantId := none
  policyModelProfileId := none
  nodeGoal := "DataAutomationAgent 生成 FollowupReviewDraft"
  artifactRefs := [longArtifact]
  policy := defaultAgentPolicy "DataAutomationAgent" "FollowupReviewDraft"

theorem longTask_policy : PolicyMatchesAgent longTask where
  agentName := rfl
  outputArtifactType := List.mem_cons_self

theorem shownTokens_longTask : shownTokens ⟨[], 1, 2⟩ longTask [] = 4001 := by decide

theorem longPack : ∃ pack, buildContextPack ⟨[], 1, 2⟩ (.ofNat 2) longTask [] = .ok pack := ⟨_, rfl⟩

theorem not_budgetHolds : ¬BudgetHolds := by
  intro hall
  obtain ⟨pack, hpack⟩ := longPack
  have hwithin := hall _ _ _ _ pack longTask_policy hpack
  have hestimate := (buildContextPack_eq_ok hpack).estimated
  rw [shownTokens_longTask] at hestimate
  have hmax : longTask.policy.maxContextTokens = 3500 := rfl
  omega

theorem withinBudget_iff_longTask : ∃ pack,
    buildContextPack ⟨[], 1, 2⟩ (.ofNat 2) longTask [] = .ok pack ∧
      (pack.budgetRemaining.estimatedContextTokens ≤ longTask.policy.maxContextTokens ↔
        shownTokens ⟨[], 1, 2⟩ longTask [] ≤ longTask.policy.maxContextTokens) := by
  obtain ⟨pack, hpack⟩ := longPack
  exact ⟨pack, hpack, withinBudget_iff hpack⟩

end Headhunt.Context
