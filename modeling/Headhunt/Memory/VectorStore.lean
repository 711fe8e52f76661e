import Mathlib.Data.List.Sort
import Headhunt.Lib.Jsonb
import Headhunt.Storage.Models

/-! `PostgresVectorMemoryStore.search`: the rows of the memory table a query may see. -/
namespace Headhunt.Memory
open Headhunt.Storage Py

inductive MemoryScope
  | run
  | project
  | agent
  | case
  | userCorrection
deriving DecidableEq, Repr

def MemoryScope.value : MemoryScope → String
  | .run => "RunMemory"
  | .project => "ProjectMemory"
  | .agent => "AgentMemory"
  | .case => "CaseMemory"
  | .userCorrection => "UserCorrectionMemory"

inductive PiiLevel
  | none
  | low
  | medium
  | high
deriving DecidableEq, Repr

def PiiLevel.value : PiiLevel → String
  | .none => "none"
  | .low => "low"
  | .medium => "medium"
  | .high => "high"

def piiOrder : List String := [PiiLevel.none, .low, .medium, .high].map PiiLevel.value

inductive MemoryStatus
  | draft
  | pendingReview
  | active
  | revoked
  | expired
deriving DecidableEq, Repr

/-- The columns of `LONG_TERM_SCOPE_FILTER_FIELDS`. -/
inductive Boundary
  | tenantId
  | guildId
  | userId
  | projectId
  | requisitionId
  | candidateId
deriving DecidableEq, Repr

def boundaries : List Boundary :=
  [.tenantId, .guildId, .userId, .projectId, .requisitionId, .candidateId]

/-- A row of `memory_items`. The confidence is a numeric with four decimals, kept here
in ten-thousandths. -/
structure MemoryItem where
  id : UUID
  scope : MemoryScope
  ownerAgent : Option String
  summary : String
  contentRef : String
  sourceRunId : Option UUID
  boundary : Boundary → Option String
  threadId : Option UUID
  piiLevel : PiiLevel
  status : MemoryStatus
  confidence : Option Int
  confidence_lt : ∀ c ∈ confidence, c.natAbs ≤ 99999
  version : Int
  expiresAt : Option Time
  metadata : Dict

structure MemoryEmbedding (V : Type) where
  memoryId : UUID
  embedding : V

structure MemoryRef where
  memoryId : UUID
  scope : MemoryScope
  summary : String
  contentRef : String
  sourceRunId : Option UUID
  boundary : Boundary → Option String
  threadId : Option UUID
  relevanceScore : Rat
  tokensEstimate : Nat
  piiLevel : PiiLevel

/-- The filters of a caller; `None` and a missing key are one value. -/
structure Filters where
  boundary : Boundary → Option String := fun _ => none
  threadId : Option UUID := none
  now : Option Time := none
  ownerAgent : Option String := none
  minConfidence : Option Rat := none
  metadataContains : Option Dict := none

structure StoreFilters extends Filters where
  allowedScopes : List String
  maxPiiLevel : String
  agentMemoryOwner : String
  queryNow : Time

def allowedPiiLevels (maxPiiLevel : String) : List String :=
  if maxPiiLevel ∈ piiOrder then piiOrder.take (piiOrder.idxOf maxPiiLevel + 1) else ["none"]

/-- `column = value OR column IS NULL`, and only the latter without a value. -/
def boundaryAllows (column value : Option String) : Bool := column = none || column = value

def threadAllows (filters : StoreFilters) (row : MemoryItem) : Bool :=
  match filters.threadId with
  | some threadId => row.threadId = some threadId || row.scope ≠ .run && row.threadId = none
  | none => row.threadId = none

/-- The WHERE clauses of `build_memory_search_query`. Those on an empty value are left out. -/
def matchesQuery (filters : StoreFilters) (row : MemoryItem) : Bool :=
  row.status = .active &&
  (row.expiresAt.all fun e => filters.queryNow < e) &&
  (filters.allowedScopes = [] || row.scope.value ∈ filters.allowedScopes) &&
  (filters.maxPiiLevel = "" || row.piiLevel.value ∈ allowedPiiLevels filters.maxPiiLevel) &&
  ((filters.ownerAgent.filter (· ≠ "")).all fun owner =>
    row.ownerAgent = none || row.ownerAgent = some owner) &&
  (filters.agentMemoryOwner = "" || row.scope ≠ .agent || row.ownerAgent = none ||
    row.ownerAgent = some filters.agentMemoryOwner) &&
  (filters.minConfidence.all fun least => row.confidence.any fun c => least * 10000 ≤ (c : Rat)) &&
  ((filters.metadataContains.filter (· ≠ [])).all fun data =>
    Json.contains (.obj row.metadata) (.obj data)) &&
  (boundaries.all fun b => boundaryAllows (row.boundary b) (filters.boundary b)) &&
  threadAllows filters row

/-- `max(1, len(text) // 4)`. -/
def estimateTokens (text : String) : Nat := max 1 (text.length / 4)

def clampScore (score : Rat) : Rat := max 0 (min 1 score)

def toRef (row : MemoryItem) (distance : Rat) : MemoryRef where
  memoryId := row.id
  scope := row.scope
  summary := row.summary
  contentRef := row.contentRef
  sourceRunId := row.sourceRunId
  boundary := row.boundary
  threadId := row.threadId
  relevanceScore := clampScore (1 - distance)
  tokensEstimate := estimateTokens row.summary
  piiLevel := row.piiLevel

section Search

variable {V : Type} (cosineDistance : V → V → Rat)

/-- The join of the matching rows with their embeddings, with the distance of each. -/
def joinEmbeddings (queryEmbedding : V) (filters : StoreFilters) (memories : List MemoryItem)
    (embeddings : List (MemoryEmbedding V)) : List (MemoryItem × Rat) :=
  (memories.filter (matchesQuery filters)).flatMap fun row =>
    (embeddings.filter fun e => e.memoryId = row.id).map fun e =>
      (row, cosineDistance e.embedding queryEmbedding)

/-- Nearest first; rows at one distance stay in table order, which SQL leaves open. -/
def search (queryEmbedding : V) (filters : StoreFilters) (topK : Nat)
    (memories : List MemoryItem) (embeddings : List (MemoryEmbedding V)) : List MemoryRef :=
  let hits := joinEmbeddings cosineDistance queryEmbedding filters memories embeddings
  ((hits.insertionSort fun a b => a.2 ≤ b.2).take topK).map fun hit => toRef hit.1 hit.2

end Search

theorem mem_search {V : Type} {cosineDistance : V → V → Rat} {queryEmbedding : V}
    {filters : StoreFilters} {topK : Nat} {memories : List MemoryItem}
    {embeddings : List (MemoryEmbedding V)} {ref : MemoryRef}
    (h : ref ∈ search cosineDistance queryEmbedding filters topK memories embeddings) :
    ∃ row ∈ memories, matchesQuery filters row = true ∧ ∃ d, ref = toRef row d := by
  obtain ⟨⟨row, d⟩, hhit, rfl⟩ := List.mem_map.mp h
  have hjoin := (List.mem_insertionSort _).mp (List.mem_of_mem_take hhit)
  obtain ⟨row', hrow, hpair⟩ := List.mem_flatMap.mp hjoin
  obtain ⟨e, _, heq⟩ := List.mem_map.mp hpair
  obtain rfl : row' = row := congrArg Prod.fst heq
  obtain ⟨hmem, hmatch⟩ := List.mem_filter.mp hrow
  exact ⟨row', hmem, hmatch, d, rfl⟩

theorem boundaryAllows_iff {column value : Option String} :
    boundaryAllows column value = true ↔ column = none ∨ column = value := by
  simp [boundaryAllows]

theorem boundaries_all {p : Boundary → Bool} : boundaries.all p = true ↔ ∀ b, p b = true := by
  constructor
  · intro h b
    exact List.all_eq_true.mp h b (by cases b <;> decide)
  · intro h
    exact List.all_eq_true.mpr fun b _ => h b

end Headhunt.Memory
