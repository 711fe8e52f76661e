import Headhunt.Memory.Gateway

/-! Which memories an agent sees. The boundaries of scope, thread, tenant and PII hold of
every retrieval; the owner of an agent's own memories is compared only with a name that
is not empty. -/
namespace Headhunt.Memory
open Headhunt.Storage Py

def PiiLevel.rank : PiiLevel → Nat
  | .none => 0
  | .low => 1
  | .medium => 2
  | .high => 3

/-- Within the level, and only `none` where the level is unknown. -/
def PiiWithin (actual : PiiLevel) (level : String) : Prop :=
  ∃ least : PiiLevel, actual.rank ≤ least.rank ∧
    (level = least.value ∨ level ∉ piiOrder ∧ least = .none)

structure Visible (request : RetrieveRequest) (now : Time) (row : MemoryItem) : Prop where
  active : row.status = .active
  unexpired : ∀ e ∈ row.expiresAt, request.queryNow now < e
  requested : row.scope.value ∈ request.memoryScopes
  allowed : row.scope.value ∈ request.policy.allowedMemoryScopes
  runThread : row.scope = .run → ∃ t, request.filters.threadId = some t ∧ row.threadId = some t
  thread : row.scope ≠ .run → row.threadId = none ∨ row.threadId = request.filters.threadId
  boundary : ∀ b, row.boundary b = none ∨ row.boundary b = request.filters.boundary b
  owner : row.scope = .agent →
    row.ownerAgent = none ∨ row.ownerAgent = some request.agentMemoryOwner
  pii : PiiWithin row.piiLevel (policyPiiLevel request.policy)

structure Isolated (request : RetrieveRequest) (now : Time) (memories : List MemoryItem)
    (refs : List MemoryRef) : Prop where
  rows : ∀ ref ∈ refs, ∃ row ∈ memories, ref.memoryId = row.id ∧ ref.contentRef = row.contentRef ∧
    Visible request now row
  distinct : (refs.map MemoryRef.contentRef).Nodup
  length_le : refs.length ≤ request.effectiveTopK
  tokens_le : (refs.map MemoryRef.tokensEstimate).sum ≤ request.effectiveMaxTokens

/-- Memories of other agents can be reached and no owner is asked for. -/
structure OwnerUnchecked (request : RetrieveRequest) : Prop where
  noOwner : request.agentMemoryOwner = ""
  requested : MemoryScope.agent.value ∈ request.memoryScopes
  allowed : MemoryScope.agent.value ∈ request.policy.allowedMemoryScopes
  boundary : hasLongTermBoundary request.filters = true
  topK : 0 < request.effectiveTopK
  maxTokens : 0 < request.effectiveMaxTokens
  confidence : ∀ least ∈ request.filters.minConfidence, least * 10000 ≤ 99999

theorem piiAllowed_iff {actual : PiiLevel} {level : String} :
    piiAllowed actual.value level = true ↔ PiiWithin actual level := by
  have hactual : actual.value ∈ piiOrder := by cases actual <;> decide
  by_cases hlevel : level ∈ piiOrder
  · obtain ⟨l, _, rfl⟩ := List.mem_map.mp hlevel
    have hinj : ∀ m : PiiLevel, l.value = m.value ↔ m = l := by
      intro m
      cases l <;> cases m <;> decide
    simp only [PiiWithin, hlevel, not_true_eq_false, false_and, or_false, hinj,
      exists_eq_right]
    cases actual <;> cases l <;> decide
  · have hno : ∀ m : PiiLevel, level ≠ m.value := by
      rintro m rfl
      exact hlevel (by cases m <;> decide)
    simp only [piiAllowed, hactual, hlevel, not_true_eq_false, not_false_eq_true, or_true,
      if_true, PiiWithin, hno, false_or, true_and, exists_eq_right]
    cases actual <;> decide

section Select

variable {allowedScopes : List String} {maxPiiLevel : String} {topK maxTokens : Nat}

/-- The loop has taken admissible candidates only, each content once, within budget. -/
structure Taken (allowedScopes : List String) (maxPiiLevel : String) (maxTokens : Nat)
    (candidates : List MemoryRef) (s : Selection) : Prop where
  mem : ∀ ref ∈ s.selected, ref ∈ candidates ∧ ref.scope.value ∈ allowedScopes ∧
    piiAllowed ref.piiLevel.value maxPiiLevel = true
  seen : ∀ c, c ∈ s.seen ↔ c ∈ s.selected.map MemoryRef.contentRef
  distinct : (s.selected.map MemoryRef.contentRef).Nodup
  tokens : s.tokenTotal = (s.selected.map MemoryRef.tokensEstimate).sum
  budget : s.tokenTotal ≤ maxTokens

theorem exclusion_eq_none {s : Selection} {ref : MemoryRef} :
    exclusion allowedScopes maxPiiLevel maxTokens s ref = none ↔
      ref.scope.value ∈ allowedScopes ∧ piiAllowed ref.piiLevel.value maxPiiLevel = true ∧
        ref.contentRef ∉ s.seen ∧ s.tokenTotal + ref.tokensEstimate ≤ maxTokens := by
  unfold exclusion
  split_ifs with h1 h2 h3 h4 <;> simp_all

theorem Taken.take {candidates : List MemoryRef} {s : Selection} {ref : MemoryRef}
    (h : Taken allowedScopes maxPiiLevel maxTokens candidates s) (hmem : ref ∈ candidates)
    (hno : exclusion allowedScopes maxPiiLevel maxTokens s ref = none) :
    Taken allowedScopes maxPiiLevel maxTokens candidates (s.take ref) := by
  obtain ⟨hscope, hpii, hseen, hbudget⟩ := exclusion_eq_none.mp hno
  refine ⟨?_, ?_, ?_, ?_, hbudget⟩
  · intro r hr
    rcases List.mem_append.mp hr with hr | hr
    · exact h.mem r hr
    · obtain rfl := List.mem_singleton.mp hr
      exact ⟨hmem, hscope, hpii⟩
  · intro c
    simp only [Selection.take, List.map_append, List.map_cons, List.map_nil, List.mem_append,
      List.mem_cons, List.not_mem_nil, or_false, h.seen c]
    exact or_comm
  · simp only [Selection.take, List.map_append, List.map_cons, List.map_nil]
    refine List.Nodup.append h.distinct (List.nodup_singleton _) ?_
    simpa only [List.disjoint_singleton, ← h.seen] using hseen
  · simp [Selection.take, h.tokens]

/-- The loop rule, by induction on the candidates still to be looked at. -/
theorem Taken.selectLoop {candidates refs : List MemoryRef} {s : Selection}
    (h : Taken allowedScopes maxPiiLevel maxTokens candidates s)
    (hrefs : ∀ ref ∈ refs, ref ∈ candidates) (hroom : s.selected.length < topK) :
    Taken allowedScopes maxPiiLevel maxTokens candidates
        (selectLoop allowedScopes maxPiiLevel topK maxTokens refs s) ∧
      (Memory.selectLoop allowedScopes maxPiiLevel topK maxTokens refs s).selected.length ≤ topK := by
  induction refs generalizing s with
  | nil => exact ⟨h, hroom.le⟩
  | cons ref refs ih =>
    have hrest : ∀ r ∈ refs, r ∈ candidates := fun r hr => hrefs r (List.mem_cons_of_mem ref hr)
    unfold Memory.selectLoop
    cases hex : exclusion allowedScopes maxPiiLevel maxTokens s ref with
    | some reason => exact ih ⟨h.mem, h.seen, h.distinct, h.tokens, h.budget⟩ hrest hroom
    | none =>
      have htake := h.take (hrefs ref List.mem_cons_self) hex
      have hlen : (s.take ref).selected.length = s.selected.length + 1 := by
        simp [Selection.take]
      by_cases hfull : topK ≤ (s.take ref).selected.length
      · simp only [hfull, if_true]
        exact ⟨htake, by omega⟩
      · simp only [hfull, if_false]
        exact ih htake hrest (by omega)

theorem selectRefs_taken (allowedScopes : List String) (maxPiiLevel : String) (maxTokens : Nat)
    (candidates : List MemoryRef) (htopK : 0 < topK) :
    Taken allowedScopes maxPiiLevel maxTokens candidates
        (selectRefs allowedScopes maxPiiLevel topK maxTokens candidates) ∧
      (selectRefs allowedScopes maxPiiLevel topK maxTokens candidates).selected.length ≤ topK := by
  refine Taken.selectLoop ⟨by simp, by simp, by simp, by simp, Nat.zero_le _⟩ ?_ htopK
  intro ref href
  exact (List.mem_insertionSort _).mp href

end Select

theorem mem_scopesAllowedByFilters {allowedScopes : List String} {filters : Filters}
    {scope : String} :
    scope ∈ (scopesAllowedByFilters allowedScopes filters).1 ↔ scope ∈ allowedScopes ∧
      (if scope = "RunMemory" then filters.threadId.isSome = true
        else hasLongTermBoundary filters = true) := by
  have hone : ∀ other, (scopeAllowedByFilters filters other).toOption = some scope ↔
      other = scope ∧ (if scope = "RunMemory" then filters.threadId.isSome = true
        else hasLongTermBoundary filters = true) := by
    intro other
    unfold scopeAllowedByFilters
    split_ifs <;> simp_all [Except.toOption]
    all_goals
      rintro rfl
      simp_all
  simp only [scopesAllowedByFilters, List.mem_filterMap, hone]
  constructor
  · rintro ⟨other, hmem, rfl, h⟩
    exact ⟨hmem, h⟩
  · rintro ⟨hmem, h⟩
    exact ⟨scope, hmem, rfl, h⟩

theorem mem_allowedScopes {request : RetrieveRequest} {scope : String} :
    scope ∈ request.allowedScopes ↔
      scope ∈ request.memoryScopes ∧ scope ∈ request.policy.allowedMemoryScopes := by
  simp [RetrieveRequest.allowedScopes, intersectScopes]

theorem orText_ne_empty {a : Option String} {b : String} (hb : b ≠ "") : orText a b ≠ "" := by
  unfold orText
  cases h : a.filter (· ≠ "") with
  | none => exact hb
  | some t =>
    have := (Option.filter_eq_some_iff.mp h).2
    simpa using this

/-- The query matches visible rows only, up to the owner of an agent's memory. -/
theorem visible_of_matchesQuery {request : RetrieveRequest} {now : Time} {row : MemoryItem}
    {scopes : List String}
    (hscopes : scopes = (scopesAllowedByFilters request.allowedScopes request.filters).1)
    (hne : scopes ≠ [])
    (h : matchesQuery (request.storeFilters scopes now) row = true)
    (howner : row.scope = .agent → request.agentMemoryOwner = "" →
      row.ownerAgent = none ∨ row.ownerAgent = some request.agentMemoryOwner)
    (hpii : piiAllowed row.piiLevel.value (policyPiiLevel request.policy) = true) :
    Visible request now row := by
  simp only [matchesQuery, Bool.and_eq_true, Bool.or_eq_true, decide_eq_true_eq, boundaries_all,
    boundaryAllows_iff] at h
  obtain ⟨⟨⟨⟨⟨⟨⟨⟨⟨hactive, hexp⟩, hscope⟩, _⟩, _⟩, hown⟩, _⟩, _⟩, hbound⟩, hthread⟩ := h
  have hin : row.scope.value ∈ scopes := hscope.resolve_left hne
  rw [hscopes] at hin
  obtain ⟨hallowed, hguard⟩ := mem_scopesAllowedByFilters.mp hin
  obtain ⟨hreq, hpol⟩ := mem_allowedScopes.mp hallowed
  refine ⟨hactive, ?_, hreq, hpol, ?_, ?_, hbound, ?_, piiAllowed_iff.mp hpii⟩
  · intro e he
    rw [Option.mem_def.mp he] at hexp
    exact of_decide_eq_true hexp
  · intro hrun
    rw [if_pos (by rw [hrun]; rfl)] at hguard
    obtain ⟨t, ht⟩ := Option.isSome_iff_exists.mp hguard
    have hft : (request.storeFilters scopes now).threadId = some t := ht
    refine ⟨t, ht, ?_⟩
    simpa [threadAllows, hft, hrun] using hthread
  · intro hnot
    cases ht : request.filters.threadId with
    | none =>
      have hft : (request.storeFilters scopes now).threadId = none := ht
      simpa [threadAllows, hft] using hthread
    | some t =>
      have hft : (request.storeFilters scopes now).threadId = some t := ht
      have hor : row.threadId = some t ∨ row.threadId = none := by
        simpa [threadAllows, hft, hnot] using hthread
      exact hor.symm
  · intro hagent
    by_cases hempty : request.agentMemoryOwner = ""
    · exact howner hagent hempty
    · rcases hown with ((h | h) | h) | h
      · exact absurd h hempty
      · exact absurd hagent h
      · exact Or.inl h
      · exact Or.inr h

section Retrieve

variable {V : Type} (gateway : Gateway V) (request : RetrieveRequest) (now : Time)

/-- What the gateway returns past its two early exits, and on them. -/
theorem retrieve_eq (memories : List MemoryItem) (embeddings : List (MemoryEmbedding V)) :
    let scopes := (scopesAllowedByFilters request.allowedScopes request.filters).1
    let candidates := search gateway.cosineDistance
      (gateway.embedText s!"memory_retrieval:{request.agentName}" request.taskBrief)
      (request.storeFilters scopes now)
      (max (request.effectiveTopK * 3) request.effectiveTopK) memories embeddings
    (retrieve gateway request now memories embeddings).1 =
      if request.effectiveTopK = 0 ∨ request.effectiveMaxTokens = 0 ∨ scopes = [] then []
      else (selectRefs scopes (policyPiiLevel request.policy) request.effectiveTopK
        request.effectiveMaxTokens candidates).selected := by
  intro scopes candidates
  have hempty : request.allowedScopes = [] → scopes = [] := by
    intro h
    simp [scopes, h, scopesAllowedByFilters]
  unfold retrieve
  dsimp only
  by_cases h1 : scopes = []
  · rw [if_pos (Or.inr (Or.inr h1))]
    split_ifs
    · rfl
    · rfl
  · have hallowed : request.allowedScopes ≠ [] := fun h => h1 (hempty h)
    simp only [hallowed, false_or, h1, or_false]
    split_ifs
    · rfl
    · rfl

def otherAgentsMemory : MemoryItem where
  id := UUID.ofNat 1
  scope := .agent
  ownerAgent := some (orText request.filters.ownerAgent "OtherAgent")
  summary := ""
  contentRef := "memory://1"
  sourceRunId := none
  boundary := fun _ => none
  threadId := none
  piiLevel := .none
  status := .active
  confidence := some 99999
  confidence_lt := by simp
  version := 1
  expiresAt := none
  metadata := request.filters.metadataContains.getD []

variable {gateway request now}

theorem piiAllowed_none (level : String) : piiAllowed PiiLevel.none.value level = true := by
  by_cases h : level ∈ piiOrder
  · obtain ⟨l, _, rfl⟩ := List.mem_map.mp h
    exact piiAllowed_iff.mpr ⟨l, Nat.zero_le _, Or.inl rfl⟩
  · exact piiAllowed_iff.mpr ⟨.none, le_rfl, Or.inr ⟨h, rfl⟩⟩

theorem none_mem_allowedPiiLevels (level : String) :
    PiiLevel.none.value ∈ allowedPiiLevels level := by
  unfold allowedPiiLevels
  split_ifs
  · simp [piiOrder]
  · simp [PiiLevel.value]

theorem orText_filter (a : Option String) (b owner : String) (h : a.filter (· ≠ "") = some owner) :
    orText a b = owner := by
  unfold orText
  rw [h]
  rfl

/-- Nothing in the query holds the other agent's memory back. -/
theorem matchesQuery_otherAgentsMemory (hopen : OwnerUnchecked request) {scopes : List String}
    (hscopes : MemoryScope.agent.value ∈ scopes) :
    matchesQuery (request.storeFilters scopes now) (otherAgentsMemory request) = true := by
  simp only [matchesQuery, Bool.and_eq_true, Bool.or_eq_true, decide_eq_true_eq, boundaries_all,
    boundaryAllows_iff]
  refine ⟨⟨⟨⟨⟨⟨⟨⟨⟨rfl, rfl⟩, Or.inr hscopes⟩, Or.inr (none_mem_allowedPiiLevels _)⟩, ?_⟩,
    Or.inl (Or.inl (Or.inl hopen.noOwner))⟩, ?_⟩, ?_⟩, fun _ => Or.inl rfl⟩, ?_⟩
  · cases ho : request.filters.ownerAgent.filter (· ≠ "") with
    | none =>
      have hn : (request.storeFilters scopes now).ownerAgent.filter (· ≠ "") = none := ho
      rw [hn]
      rfl
    | some owner =>
      have hs : (request.storeFilters scopes now).ownerAgent.filter (· ≠ "") = some owner := ho
      rw [hs]
      simp [otherAgentsMemory, orText_filter _ _ _ ho]
  · refine Option.all_eq_true _ _ |>.mpr ?_
    intro least hleast
    simpa [otherAgentsMemory] using hopen.confidence least hleast
  · refine Option.all_eq_true _ _ |>.mpr ?_
    intro data hdata
    have hfilter : request.filters.metadataContains = some data :=
      (Option.filter_eq_some_iff.mp hdata).1
    have hmeta : (otherAgentsMemory request).metadata = data := by
      simp [otherAgentsMemory, hfilter]
    rw [hmeta]
    exact Json.contains_self _
  · cases ht : request.filters.threadId with
    | none =>
      have hft : (request.storeFilters scopes now).threadId = none := ht
      simp [threadAllows, hft, otherAgentsMemory]
    | some t =>
      have hft : (request.storeFilters scopes now).threadId = some t := ht
      simp [threadAllows, hft, otherAgentsMemory]

theorem agent_mem_scopes (hopen : OwnerUnchecked request) : MemoryScope.agent.value ∈
    (scopesAllowedByFilters request.allowedScopes request.filters).1 := by
  refine mem_scopesAllowedByFilters.mpr
    ⟨mem_allowedScopes.mpr ⟨hopen.requested, hopen.allowed⟩, ?_⟩
  rw [if_neg (by decide)]
  exact hopen.boundary

theorem insertionSort_singleton {α : Type*} (r : α → α → Prop) [DecidableRel r] (a : α) :
    [a].insertionSort r = [a] := rfl

/-- One candidate within every limit is selected. -/
theorem selectRefs_singleton {scopes : List String} {level : String} {topK maxTokens : Nat}
    {ref : MemoryRef} (hscope : ref.scope.value ∈ scopes)
    (hpii : piiAllowed ref.piiLevel.value level = true) (htokens : ref.tokensEstimate ≤ maxTokens) :
    (selectRefs scopes level topK maxTokens [ref]).selected = [ref] := by
  have hno : exclusion scopes level maxTokens {} ref = none :=
    exclusion_eq_none.mpr ⟨hscope, hpii, by simp, by simpa using htokens⟩
  simp only [selectRefs, insertionSort_singleton, selectLoop, hno]
  split_ifs
  · rfl
  · rfl

/-- The request returns the other agent's memory. -/
theorem retrieve_otherAgentsMemory (gateway : Gateway V) (now : Time)
    (hopen : OwnerUnchecked request) :
    ∃ d, (retrieve gateway request now [otherAgentsMemory request]
      [⟨(otherAgentsMemory request).id, gateway.embedText "" ""⟩]).1 =
        [toRef (otherAgentsMemory request) d] := by
  rw [retrieve_eq]
  have hscopes := agent_mem_scopes hopen
  generalize (scopesAllowedByFilters request.allowedScopes request.filters).1 = scopes at hscopes
  have hne : ¬(request.effectiveTopK = 0 ∨ request.effectiveMaxTokens = 0 ∨ scopes = []) := by
    rintro (h | h | h)
    · exact hopen.topK.ne' h
    · exact hopen.maxTokens.ne' h
    · simp [h] at hscopes
  have hjoin : ∀ q : V, joinEmbeddings gateway.cosineDistance q (request.storeFilters scopes now)
      [otherAgentsMemory request] [⟨(otherAgentsMemory request).id, gateway.embedText "" ""⟩] =
        [(otherAgentsMemory request, gateway.cosineDistance (gateway.embedText "" "") q)] := by
    intro q
    simp [joinEmbeddings, matchesQuery_otherAgentsMemory hopen hscopes]
  have htake : ∀ hit : MemoryItem × Rat,
      [hit].take (max (request.effectiveTopK * 3) request.effectiveTopK) = [hit] := by
    intro hit
    refine List.take_of_length_le ?_
    have := hopen.topK
    simp only [List.length_cons, List.length_nil]
    omega
  simp only [if_neg hne, search, hjoin, insertionSort_singleton, htake, List.map_cons,
    List.map_nil]
  have htokens : estimateTokens "" ≤ request.effectiveMaxTokens := by
    rw [show estimateTokens "" = 1 by decide]
    exact hopen.maxTokens
  exact ⟨_, selectRefs_singleton hscopes (piiAllowed_none _) htokens⟩

theorem isolated_nil (request : RetrieveRequest) (now : Time) (memories : List MemoryItem) :
    Isolated request now memories [] :=
  ⟨by simp, by simp, Nat.zero_le _, Nat.zero_le _⟩

/-- Retrieval is isolated over every memory table exactly when it asks for an owner
wherever memories of other agents are in reach. -/
theorem retrieve_isolated_iff (gateway : Gateway V) (request : RetrieveRequest) (now : Time) :
    (∀ memories embeddings,
      Isolated request now memories (retrieve gateway request now memories embeddings).1) ↔
      ¬OwnerUnchecked request := by
  constructor
  · intro hiso hopen
    obtain ⟨d, hrefs⟩ := retrieve_otherAgentsMemory gateway now hopen
    have h := hiso [otherAgentsMemory request]
      [⟨(otherAgentsMemory request).id, gateway.embedText "" ""⟩]
    rw [hrefs] at h
    obtain ⟨row, hrow, _, _, hvisible⟩ := h.rows _ List.mem_cons_self
    obtain rfl := List.mem_singleton.mp hrow
    rcases hvisible.owner rfl with howner | howner
    · simp [otherAgentsMemory] at howner
    · rw [hopen.noOwner] at howner
      exact orText_ne_empty (by decide) (Option.some.inj howner)
  · intro hclosed memories embeddings
    rw [retrieve_eq]
    generalize hscopes : (scopesAllowedByFilters request.allowedScopes request.filters).1 = scopes
    split_ifs with hexit
    · exact isolated_nil request now memories
    · simp only [not_or] at hexit
      obtain ⟨htopK, hmaxTokens, hne⟩ := hexit
      generalize hcand : search gateway.cosineDistance _ (request.storeFilters scopes now) _
        memories embeddings = candidates
      obtain ⟨htaken, hlen⟩ := selectRefs_taken scopes (policyPiiLevel request.policy)
        request.effectiveMaxTokens candidates (Nat.pos_of_ne_zero htopK)
      refine ⟨?_, htaken.distinct, hlen, htaken.tokens ▸ htaken.budget⟩
      intro ref href
      obtain ⟨hmem, hscope, hpii⟩ := htaken.mem ref href
      rw [← hcand] at hmem
      obtain ⟨row, hrow, hmatch, d, rfl⟩ := mem_search hmem
      refine ⟨row, hrow, rfl, rfl, visible_of_matchesQuery hscopes.symm hne hmatch ?_ hpii⟩
      intro hagent hempty
      -- an agent's memory is in reach and no owner is asked for
      have hin : MemoryScope.agent.value ∈
          (scopesAllowedByFilters request.allowedScopes request.filters).1 := by
        rw [hscopes, ← hagent]
        exact hscope
      obtain ⟨hallowed, hguard⟩ := mem_scopesAllowedByFilters.mp hin
      rw [if_neg (by decide)] at hguard
      obtain ⟨hreq, hpol⟩ := mem_allowedScopes.mp hallowed
      refine absurd ⟨hempty, hreq, hpol, hguard, Nat.pos_of_ne_zero htopK,
        Nat.pos_of_ne_zero hmaxTokens, ?_⟩ hclosed
      intro least hleast
      simp only [matchesQuery, Bool.and_eq_true] at hmatch
      obtain ⟨⟨⟨⟨_, hconf⟩, _⟩, _⟩, _⟩ := hmatch
      have hany := (Option.all_eq_true _ _).mp hconf least hleast
      obtain ⟨c, hc, hle⟩ : ∃ c, row.confidence = some c ∧ least * 10000 ≤ (c : Rat) := by
        cases hconf' : row.confidence with
        | none => simp [hconf'] at hany
        | some c => exact ⟨c, rfl, by simpa [hconf'] using hany⟩
      have hbound : c ≤ 99999 := by
        have := row.confidence_lt c hc
        omega
      exact hle.trans (by exact_mod_cast hbound)

end Retrieve

def RetrievalIsolation : Prop :=
  ∀ (V : Type) (gateway : Gateway V) (request : RetrieveRequest) (now : Time)
    (memories : List MemoryItem) (embeddings : List (MemoryEmbedding V)),
    Isolated request now memories (retrieve gateway request now memories embeddings).1

/-- An agent without a name, of a tenant and allowed to read agent memories, is given the
memory of another agent. -/
theorem not_retrievalIsolation : ¬RetrievalIsolation := by
  intro hiso
  let request : RetrieveRequest :=
    { agentName := ""
      taskBrief := "brief"
      memoryScopes := ["AgentMemory"]
      filters := { boundary := fun b => if b = .tenantId then some "tenant" else none }
      topK := 3
      maxTokens := 3000
      policy := { agentName := some "", allowedMemoryScopes := ["AgentMemory"] } }
  have hopen : OwnerUnchecked request := by
    refine ⟨by decide, by decide, by decide, by decide, by decide, by decide, ?_⟩
    intro least hleast
    simp [request] at hleast
  let gateway : Gateway Unit := { embedText := fun _ _ => (), cosineDistance := fun _ _ => 0 }
  exact (retrieve_isolated_iff gateway request 0).mp (hiso Unit gateway request 0) hopen

end Headhunt.Memory
