import Headhunt.Memory.VectorStore

/-! `PostgresMemoryGateway.retrieve`: policy, scope boundaries and budgets around the
search. -/
namespace Headhunt.Memory
open Headhunt.Storage Py

/-- The policy of the agent, as far as a retrieval reads it. An explicit null counts as
zero for the limits. -/
structure Policy where
  agentName : Option String := none
  allowedMemoryScopes : List String := []
  maxMemoryItems : Option Int := none
  maxContextTokens : Option Int := none
  piiAccessLevel : Option String := none
  maxPiiLevel : Option String := none

structure RetrievalAudit where
  agentName : String
  allowedScopes : List String
  candidateMemoryIds : List UUID
  selectedMemoryRefs : List MemoryRef
  excludedReason : List String
  tokenEstimate : Nat

/-- The first value that is not empty, for `a or b`. -/
def orText (a : Option String) (b : String) : String := (a.filter (· ≠ "")).getD b

def intersectScopes (requested allowed : List String) : List String :=
  requested.filter (· ∈ allowed)

def hasLongTermBoundary (filters : Filters) : Bool :=
  boundaries.any fun b => (filters.boundary b).any (· ≠ "")

/-- `_scopes_allowed_by_filters` of one scope; the error is the reason for leaving it out. -/
def scopeAllowedByFilters (filters : Filters) (scope : String) : Except String String :=
  if scope = "RunMemory" then
    if filters.threadId.isSome then .ok scope
    else .error "RunMemory:missing_thread_id_scope_filter"
  else if hasLongTermBoundary filters then .ok scope
  else .error s!"{scope}:missing_tenant_or_business_scope_filter"

def scopesAllowedByFilters (allowedScopes : List String) (filters : Filters) :
    List String × List String :=
  (allowedScopes.filterMap fun scope => (scopeAllowedByFilters filters scope).toOption,
    allowedScopes.filterMap fun scope =>
      match scopeAllowedByFilters filters scope with
      | .ok _ => none
      | .error reason => some reason)

def policyPiiLevel (policy : Policy) : String :=
  orText policy.piiAccessLevel (orText policy.maxPiiLevel "none")

def piiAllowed (actual maxPiiLevel : String) : Bool :=
  if actual ∉ piiOrder ∨ maxPiiLevel ∉ piiOrder then actual = "none"
  else piiOrder.idxOf actual ≤ piiOrder.idxOf maxPiiLevel

structure Selection where
  selected : List MemoryRef := []
  excluded : List String := []
  seen : List String := []
  tokenTotal : Nat := 0

section Select

variable (allowedScopes : List String) (maxPiiLevel : String) (topK maxTokens : Nat)

def exclusion (s : Selection) (ref : MemoryRef) : Option String :=
  if ref.scope.value ∉ allowedScopes then some "scope_not_allowed"
  else if !piiAllowed ref.piiLevel.value maxPiiLevel then some "pii_not_allowed"
  else if ref.contentRef ∈ s.seen then some "duplicate"
  else if maxTokens < s.tokenTotal + ref.tokensEstimate then some "token_budget_exceeded"
  else none

def Selection.take (s : Selection) (ref : MemoryRef) : Selection where
  selected := s.selected ++ [ref]
  excluded := s.excluded
  seen := ref.contentRef :: s.seen
  tokenTotal := s.tokenTotal + ref.tokensEstimate

def selectLoop : List MemoryRef → Selection → Selection
  | [], s => s
  | ref :: refs, s =>
    match exclusion allowedScopes maxPiiLevel maxTokens s ref with
    | some reason =>
      selectLoop refs { s with excluded := s.excluded ++ [s!"{ref.memoryId.str}:{reason}"] }
    | none =>
      if topK ≤ (s.take ref).selected.length then s.take ref else selectLoop refs (s.take ref)

/-- `_select_refs`: the most relevant first, in the order of the search where equal. -/
def selectRefs (candidates : List MemoryRef) : Selection :=
  selectLoop allowedScopes maxPiiLevel topK maxTokens
    (candidates.insertionSort fun a b => b.relevanceScore ≤ a.relevanceScore) {}

end Select

structure Gateway (V : Type) where
  embedText : (purpose text : String) → V
  cosineDistance : V → V → Rat

structure RetrieveRequest where
  agentName : String
  taskBrief : String
  memoryScopes : List String
  filters : Filters
  topK : Int
  maxTokens : Int
  policy : Policy

namespace RetrieveRequest

variable (request : RetrieveRequest)

def allowedScopes : List String :=
  intersectScopes request.memoryScopes request.policy.allowedMemoryScopes

def effectiveTopK : Nat :=
  (min request.topK (request.policy.maxMemoryItems.getD request.topK)).toNat

def effectiveMaxTokens : Nat :=
  (min request.maxTokens (request.policy.maxContextTokens.getD request.maxTokens)).toNat

/-- `policy.get("agent_name") or agent_name`. -/
def agentMemoryOwner : String := orText request.policy.agentName request.agentName

def queryNow (now : Time) : Time := request.filters.now.getD now

def storeFilters (scopedAllowedScopes : List String) (now : Time) : StoreFilters where
  toFilters := request.filters
  allowedScopes := scopedAllowedScopes
  maxPiiLevel := policyPiiLevel request.policy
  agentMemoryOwner := request.agentMemoryOwner
  queryNow := request.queryNow now

end RetrieveRequest

def retrieve {V : Type} (gateway : Gateway V) (request : RetrieveRequest) (now : Time)
    (memories : List MemoryItem) (embeddings : List (MemoryEmbedding V)) :
    List MemoryRef × RetrievalAudit :=
  let audit (scopes : List String) (candidates selected : List MemoryRef) (reasons : List String) :
      RetrievalAudit :=
    { agentName := request.agentName
      allowedScopes := scopes
      candidateMemoryIds := candidates.map MemoryRef.memoryId
      selectedMemoryRefs := selected
      excludedReason := reasons
      tokenEstimate := (selected.map MemoryRef.tokensEstimate).sum }
  let topK := request.effectiveTopK
  let maxTokens := request.effectiveMaxTokens
  if request.allowedScopes = [] ∨ topK = 0 ∨ maxTokens = 0 then
    ([], audit request.allowedScopes [] [] ["no_allowed_scope_or_budget"])
  else
    let (scopedAllowed, exclusions) := scopesAllowedByFilters request.allowedScopes request.filters
    if scopedAllowed = [] then ([], audit request.allowedScopes [] [] exclusions)
    else
      let queryEmbedding := gateway.embedText s!"memory_retrieval:{request.agentName}"
        request.taskBrief
      let candidates := search gateway.cosineDistance queryEmbedding
        (request.storeFilters scopedAllowed now) (max (topK * 3) topK) memories embeddings
      let s := selectRefs scopedAllowed (policyPiiLevel request.policy) topK maxTokens candidates
      (s.selected, audit scopedAllowed candidates s.selected (exclusions ++ s.excluded))

end Headhunt.Memory
