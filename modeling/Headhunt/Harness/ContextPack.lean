import Headhunt.Harness.AgentHarness
import Headhunt.Memory.Isolation

/-! The retrieval of `AgentHarness.build_context_pack`. Its filters name the thread and no
boundary, so that no memory beyond the thread passes them. -/
namespace Headhunt.Harness
open Headhunt.Memory Headhunt.Storage Py

/-- An `AgentPolicy`, as far as a context pack depends on it. -/
structure AgentPolicy where
  agentName : String
  allowedArtifactTypesRead : List String := []
  allowedArtifactTypesWrite : List String := []
  allowedMemoryScopes : List MemoryScope := [.run]
  maxMemoryItems : Nat := 3
  maxContextTokens : Nat := 3000
  piiAccessLevel : PiiLevel := .none

/-- `policy.model_dump(mode="json")`. -/
def AgentPolicy.dump (policy : AgentPolicy) : Policy where
  agentName := some policy.agentName
  allowedMemoryScopes := policy.allowedMemoryScopes.map MemoryScope.value
  maxMemoryItems := some policy.maxMemoryItems
  maxContextTokens := some policy.maxContextTokens
  piiAccessLevel := some policy.piiAccessLevel.value

/-- The call of `memory_gateway.retrieve`. The task type among the filters is read by nobody. -/
def contextRetrieval (task : AgentTask) (policy : AgentPolicy) : RetrieveRequest where
  agentName := task.agentName
  taskBrief := task.taskBrief
  memoryScopes := policy.allowedMemoryScopes.map MemoryScope.value
  filters := { threadId := some task.threadId }
  topK := policy.maxMemoryItems
  maxTokens := policy.maxContextTokens
  policy := policy.dump

def AgentTask.boundary (task : AgentTask) : Boundary → Option String
  | .tenantId => task.modelTenantId
  | .guildId => task.modelGuildId
  | .userId => task.modelOwnerUserId
  | _ => none

/-- A long-term memory that has been approved for what the task carries. -/
structure ApprovedFor (task : AgentTask) (policy : AgentPolicy) (now : Time) (row : MemoryItem) :
    Prop where
  carries : ∃ b, task.boundary b ≠ none
  longTerm : row.scope ≠ .run
  allowed : row.scope ∈ policy.allowedMemoryScopes
  active : row.status = .active
  unexpired : ∀ e ∈ row.expiresAt, now < e
  noThread : row.threadId = none
  pii : piiOrder.idxOf row.piiLevel.value ≤ piiOrder.idxOf policy.piiAccessLevel.value
  boundary : ∀ b, row.boundary b = none ∨ row.boundary b = task.boundary b
  bounded : ∃ b, row.boundary b ≠ none

def contextScopes (task : AgentTask) (policy : AgentPolicy) : List String :=
  (scopesAllowedByFilters (contextRetrieval task policy).allowedScopes
    (contextRetrieval task policy).filters).1

/-- The memory passes the pre-filter and the search filter of the retrieval. -/
structure ReachedBy (task : AgentTask) (policy : AgentPolicy) (now : Time) (row : MemoryItem) :
    Prop where
  scope : row.scope.value ∈ contextScopes task policy
  search : matchesQuery ((contextRetrieval task policy).storeFilters
    (contextScopes task policy) now) row = true

/-- The pre-filter leaves no scope but that of the thread. -/
theorem mem_contextScopes {task : AgentTask} {policy : AgentPolicy} {scope : String}
    (h : scope ∈ contextScopes task policy) : scope = MemoryScope.run.value := by
  obtain ⟨_, hguard⟩ := mem_scopesAllowedByFilters.mp h
  by_contra hscope
  have hscope : scope ≠ "RunMemory" := hscope
  rw [if_neg hscope] at hguard
  have hnone : hasLongTermBoundary (contextRetrieval task policy).filters = false := by
    simp [hasLongTermBoundary, contextRetrieval]
  rw [hnone] at hguard
  cases hguard

/-- The search lets no row with a boundary through either. -/
theorem matchesQuery_contextRetrieval {task : AgentTask} {policy : AgentPolicy} {now : Time}
    {scopes : List String} {row : MemoryItem}
    (h : matchesQuery ((contextRetrieval task policy).storeFilters scopes now) row = true)
    (b : Boundary) : row.boundary b = none := by
  simp only [matchesQuery, Bool.and_eq_true] at h
  have hboundary := boundaryAllows_iff.mp (boundaries_all.mp h.1.2 b)
  rcases hboundary with hnone | heq
  · exact hnone
  · exact heq

theorem scopeValue_injective : Function.Injective MemoryScope.value := by
  intro a b h
  cases a <;> cases b <;> first | rfl | (revert h; decide)

/-- No agent is ever given a memory that outlives its thread. -/
theorem scope_of_mem_retrieve {V : Type} {gateway : Gateway V} {task : AgentTask}
    {policy : AgentPolicy} {now : Time} {memories : List MemoryItem}
    {embeddings : List (MemoryEmbedding V)} {ref : MemoryRef}
    (h : ref ∈ (retrieve gateway (contextRetrieval task policy) now memories embeddings).1) :
    ref.scope = .run := by
  rw [retrieve_eq] at h
  split_ifs at h with hexit
  · cases h
  · simp only [not_or] at hexit
    obtain ⟨htaken, _⟩ := selectRefs_taken (contextScopes task policy)
      (policyPiiLevel (contextRetrieval task policy).policy)
      (contextRetrieval task policy).effectiveMaxTokens _ (Nat.pos_of_ne_zero hexit.1)
    exact scopeValue_injective (mem_contextScopes (htaken.mem ref h).2.1)

/-- No approved memory is reached. -/
theorem not_reachedBy {task : AgentTask} {policy : AgentPolicy} {now : Time} {row : MemoryItem}
    (h : ApprovedFor task policy now row) : ¬ReachedBy task policy now row := by
  intro hreached
  have hrun : row.scope = .run := scopeValue_injective (mem_contextScopes hreached.scope)
  exact h.longTerm hrun

/-- Every approved memory is reached by the retrieval of every task it is approved for. -/
def ApprovedReachable : Prop :=
  ∀ (task : AgentTask) (policy : AgentPolicy) (now : Time) (row : MemoryItem),
    ApprovedFor task policy now row → ReachedBy task policy now row

def tenantTask : AgentTask where
  threadId := Py.UUID.ofNat 1
  nodeName := "sales_bd"
  agentName := "SalesBDAgent"
  taskBrief := "compensation band"
  councilMode := "standard"
  modeReason := "business task"
  outputArtifactType := "sales_brief"
  source := "runtime"
  sourceRef := "source"
  taskType := "Mapping"
  feishuChatId := none
  sourceRefs := []
  modelProfileId := none
  modelOwnerUserId := some "ou_1"
  modelGuildId := some "oc_1"
  modelTenantId := some "tenant"
  policyModelProfileId := none

def tenantPolicy : AgentPolicy where
  agentName := "SalesBDAgent"
  allowedMemoryScopes := [.run, .agent]

def tenantMemory : MemoryItem where
  id := Py.UUID.ofNat 2
  scope := .agent
  ownerAgent := some "SalesBDAgent"
  summary := "compensation band"
  contentRef := "memory://agent/1"
  sourceRunId := none
  boundary b := if b = .tenantId then some "tenant" else none
  threadId := none
  piiLevel := .none
  status := .active
  confidence := some 5000
  confidence_lt := by simp
  version := 1
  expiresAt := none
  metadata := []

theorem tenantMemory_approved : ApprovedFor tenantTask tenantPolicy 0 tenantMemory where
  carries := ⟨.tenantId, by decide⟩
  longTerm := by decide
  allowed := by decide
  active := rfl
  unexpired := by simp [tenantMemory]
  noThread := rfl
  pii := by decide
  boundary b := by cases b <;> decide
  bounded := ⟨.tenantId, by decide⟩

/-- The tenant is not among the filters, so the scope of the memory is left out. -/
theorem not_approvedReachable : ¬ApprovedReachable := by
  intro hall
  have hreached := hall tenantTask tenantPolicy 0 tenantMemory tenantMemory_approved
  have hscope := mem_contextScopes hreached.scope
  revert hscope
  decide

theorem not_reachedBy_tenantMemory : ¬ReachedBy tenantTask tenantPolicy 0 tenantMemory :=
  not_reachedBy tenantMemory_approved

end Headhunt.Harness
