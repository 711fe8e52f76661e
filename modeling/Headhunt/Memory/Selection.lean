import Headhunt.Memory.Isolation

/-! What `_select_refs` takes and leaves: the most relevant candidates that fit, and one reason for
each of the others it has looked at. -/
namespace Headhunt.Memory
open Headhunt.Storage Py

def byRelevance (candidates : List MemoryRef) : List MemoryRef :=
  candidates.insertionSort fun a b => b.relevanceScore ≤ a.relevanceScore

/-- A candidate the loop has looked at, with the reason if it was passed over. -/
structure Examined where
  ref : MemoryRef
  reason : Option String

def Examined.line (e : Examined) : Option String :=
  e.reason.map fun reason => s!"{e.ref.memoryId.str}:{reason}"

def exclusionReasons : List String :=
  ["scope_not_allowed", "pii_not_allowed", "duplicate", "token_budget_exceeded"]

/-- Every candidate is taken or has its one reason. -/
structure Accounts (examined : List Examined) (s : Selection) : Prop where
  selected : s.selected = (examined.filter fun e => e.reason = none).map Examined.ref
  excluded : s.excluded = examined.filterMap Examined.line
  reasons : ∀ e ∈ examined, ∀ reason ∈ e.reason, reason ∈ exclusionReasons

def totalTokens (refs : List MemoryRef) : Nat := (refs.map MemoryRef.tokensEstimate).sum

section Select

variable (allowedScopes : List String) (maxPiiLevel : String) (topK maxTokens : Nat)

def Allowed (ref : MemoryRef) : Prop :=
  ref.scope.value ∈ allowedScopes ∧ piiAllowed ref.piiLevel.value maxPiiLevel = true

/-- The selection keeps to the policy and the budgets, and no further candidate would fit. -/
structure SoundSelection (candidates : List MemoryRef) (s : Selection) : Prop where
  ordered : s.selected.Pairwise fun a b => b.relevanceScore ≤ a.relevanceScore
  count : s.selected.length ≤ topK
  distinct : (s.selected.map MemoryRef.contentRef).Nodup
  allowed : ∀ ref ∈ s.selected, ref ∈ candidates ∧ Allowed allowedScopes maxPiiLevel ref
  budget : totalTokens s.selected ≤ maxTokens
  accounts : ∃ examined rest, byRelevance candidates = examined.map Examined.ref ++ rest ∧
    Accounts examined s ∧ (s.selected.length < topK → rest = [])
  maximal : s.selected.length < topK → ∀ ref ∈ candidates,
    Allowed allowedScopes maxPiiLevel ref →
    ref.contentRef ∉ s.selected.map MemoryRef.contentRef →
    maxTokens < totalTokens s.selected + ref.tokensEstimate

structure Looked (done : List MemoryRef) (s : Selection) : Prop where
  accounts : ∃ examined, done = examined.map Examined.ref ∧ Accounts examined s
  skipped : ∀ ref ∈ done, Allowed allowedScopes maxPiiLevel ref →
    ref.contentRef ∈ s.seen ∨ maxTokens < s.tokenTotal + ref.tokensEstimate

variable {allowedScopes maxPiiLevel topK maxTokens} {candidates done refs : List MemoryRef}
  {s : Selection} {ref : MemoryRef} {reason : String}

theorem exclusion_mem (h : exclusion allowedScopes maxPiiLevel maxTokens s ref = some reason) :
    reason ∈ exclusionReasons := by
  unfold exclusion at h
  split_ifs at h <;> obtain rfl := Option.some.inj h <;> decide

theorem looked_nil (allowedScopes : List String) (maxPiiLevel : String) (maxTokens : Nat) :
    Looked allowedScopes maxPiiLevel maxTokens [] {} where
  accounts := ⟨[], rfl, rfl, rfl, by simp⟩
  skipped := by simp

/-- A candidate that is allowed is passed over for its content or for its tokens. -/
theorem Looked.exclude (h : Looked allowedScopes maxPiiLevel maxTokens done s)
    (hex : exclusion allowedScopes maxPiiLevel maxTokens s ref = some reason) :
    Looked allowedScopes maxPiiLevel maxTokens (done ++ [ref])
      { s with excluded := s.excluded ++ [s!"{ref.memoryId.str}:{reason}"] } := by
  constructor
  · obtain ⟨examined, rfl, hselected, hexcluded, hreasons⟩ := h.accounts
    refine ⟨examined ++ [⟨ref, some reason⟩], by simp, ?_, ?_, ?_⟩
    · simpa using hselected
    · simp [hexcluded, Examined.line]
    · intro e he
      rcases List.mem_append.mp he with he | he
      · exact hreasons e he
      · obtain rfl := List.mem_singleton.mp he
        intro reason' hreason
        obtain rfl := Option.some.inj hreason
        exact exclusion_mem hex
  · intro other hother hallowed
    rcases List.mem_append.mp hother with hother | hother
    · exact h.skipped other hother hallowed
    · obtain rfl := List.mem_singleton.mp hother
      by_contra hfits
      obtain ⟨hunseen, hroom⟩ := not_or.mp hfits
      have hnone : exclusion allowedScopes maxPiiLevel maxTokens s other = none :=
        exclusion_eq_none.mpr ⟨hallowed.1, hallowed.2, hunseen, not_lt.mp hroom⟩
      rw [hnone] at hex
      cases hex

/-- What did not fit before fits no more when there are more tokens. -/
theorem Looked.take (h : Looked allowedScopes maxPiiLevel maxTokens done s) :
    Looked allowedScopes maxPiiLevel maxTokens (done ++ [ref]) (s.take ref) := by
  constructor
  · obtain ⟨examined, rfl, hselected, hexcluded, hreasons⟩ := h.accounts
    refine ⟨examined ++ [⟨ref, none⟩], by simp, ?_, ?_, ?_⟩
    · simp [Selection.take, hselected]
    · rw [List.filterMap_append, ← hexcluded]
      exact (List.append_nil _).symm
    · intro e he
      rcases List.mem_append.mp he with he | he
      · exact hreasons e he
      · obtain rfl := List.mem_singleton.mp he
        simp
  · intro other hother hallowed
    rcases List.mem_append.mp hother with hother | hother
    · rcases h.skipped other hother hallowed with hseen | hroom
      · exact .inl (List.mem_cons_of_mem _ hseen)
      · right
        show maxTokens < s.tokenTotal + ref.tokensEstimate + other.tokensEstimate
        omega
    · obtain rfl := List.mem_singleton.mp hother
      exact .inl List.mem_cons_self

/-- The loop rule: the loop looks at all of them, or it ends with the last one there is room for. -/
theorem Looked.selectLoop (h : Looked allowedScopes maxPiiLevel maxTokens done s) (topK : Nat)
    (refs : List MemoryRef) : ∃ looked rest, refs = looked ++ rest ∧
      Looked allowedScopes maxPiiLevel maxTokens (done ++ looked)
        (selectLoop allowedScopes maxPiiLevel topK maxTokens refs s) ∧
      ((Memory.selectLoop allowedScopes maxPiiLevel topK maxTokens refs s).selected.length < topK →
        rest = []) := by
  induction refs generalizing s done with
  | nil => exact ⟨[], [], rfl, by simpa [Memory.selectLoop] using h, fun _ => rfl⟩
  | cons ref refs ih =>
    unfold Memory.selectLoop
    cases hex : exclusion allowedScopes maxPiiLevel maxTokens s ref with
    | some reason =>
      obtain ⟨looked, rest, rfl, hlooked, hrest⟩ := ih (h.exclude hex)
      refine ⟨ref :: looked, rest, rfl, ?_, hrest⟩
      rwa [List.append_assoc, List.singleton_append] at hlooked
    | none =>
      by_cases hfull : topK ≤ (s.take ref).selected.length
      · simp only [hfull, if_true]
        refine ⟨[ref], refs, rfl, h.take, ?_⟩
        intro hroom
        omega
      · simp only [hfull, if_false]
        have htake : Looked allowedScopes maxPiiLevel maxTokens (done ++ [ref]) (s.take ref) :=
          h.take
        obtain ⟨looked, rest, rfl, hlooked, hrest⟩ := ih htake
        refine ⟨ref :: looked, rest, rfl, ?_, hrest⟩
        rwa [List.append_assoc, List.singleton_append] at hlooked

theorem pairwise_byRelevance (candidates : List MemoryRef) :
    (byRelevance candidates).Pairwise fun a b => b.relevanceScore ≤ a.relevanceScore := by
  refine @List.pairwise_insertionSort _ (fun a b : MemoryRef => b.relevanceScore ≤ a.relevanceScore)
    _ ⟨?_⟩ ⟨?_⟩ candidates
  · intro a b
    exact le_total b.relevanceScore a.relevanceScore
  · intro a b c hab hbc
    exact le_trans hbc hab

/-- Whatever the search returns, the selection of at most `topK` refs is sound. -/
theorem selectRefs_sound (allowedScopes : List String) (maxPiiLevel : String)
    (topK maxTokens : Nat) (candidates : List MemoryRef) (htopK : 1 ≤ topK) :
    SoundSelection allowedScopes maxPiiLevel topK maxTokens candidates
      (selectRefs allowedScopes maxPiiLevel topK maxTokens candidates) := by
  obtain ⟨htaken, hcount⟩ := selectRefs_taken allowedScopes maxPiiLevel maxTokens candidates htopK
  obtain ⟨looked, rest, hsplit, hlooked, hrest⟩ :=
    (looked_nil allowedScopes maxPiiLevel maxTokens).selectLoop topK (byRelevance candidates)
  change Looked _ _ _ _ (selectRefs allowedScopes maxPiiLevel topK maxTokens candidates) at hlooked
  change (selectRefs allowedScopes maxPiiLevel topK maxTokens candidates).selected.length < topK →
    rest = [] at hrest
  obtain ⟨examined, hexamined, haccounts⟩ := hlooked.accounts
  rw [List.nil_append] at hexamined
  have hsublist : (selectRefs allowedScopes maxPiiLevel topK maxTokens candidates).selected.Sublist
      (byRelevance candidates) := by
    rw [haccounts.selected, hsplit, hexamined]
    exact (List.filter_sublist.map _).trans (List.sublist_append_left _ _)
  refine ⟨(pairwise_byRelevance candidates).sublist hsublist, hcount, htaken.distinct, htaken.mem,
    ?_, ⟨examined, rest, hexamined ▸ hsplit, haccounts, hrest⟩, ?_⟩
  · have hbudget := htaken.budget
    rwa [htaken.tokens] at hbudget
  · intro hroom ref href hallowed hunseen
    have hmem : ref ∈ looked := by
      have hsorted : ref ∈ byRelevance candidates := (List.mem_insertionSort _).mpr href
      rw [hsplit, hrest hroom, List.append_nil] at hsorted
      exact hsorted
    rcases hlooked.skipped ref hmem hallowed with hseen | hover
    · exact absurd ((htaken.seen _).mp hseen) hunseen
    · rw [htaken.tokens] at hover
      exact hover

end Select

def hit (n : Nat) (scope : MemoryScope) (contentRef : String) (tokens : Nat) : MemoryRef where
  memoryId := .ofNat n
  scope := scope
  summary := ""
  contentRef := contentRef
  sourceRunId := none
  boundary _ := none
  threadId := none
  relevanceScore := 1 / (n + 1)
  tokensEstimate := tokens
  piiLevel := .none

theorem selectRefs_sound_hits : SoundSelection ["RunMemory"] "none" 3 100
    [hit 0 .run "memory://a" 80, hit 1 .run "memory://b" 40, hit 2 .run "memory://a" 10,
      hit 3 .case "memory://d" 5, hit 4 .run "memory://c" 10]
    (selectRefs ["RunMemory"] "none" 3 100
      [hit 0 .run "memory://a" 80, hit 1 .run "memory://b" 40, hit 2 .run "memory://a" 10,
        hit 3 .case "memory://d" 5, hit 4 .run "memory://c" 10]) :=
  selectRefs_sound ["RunMemory"] "none" 3 100 _ (by decide)

end Headhunt.Memory
