import Mathlib.Data.List.Nodup

/-! Sessions of a database at the isolation level READ COMMITTED. A session sees what is committed
and what it has written itself; a write that clashes with an uncommitted one of another session
has to wait until that session ends. -/
namespace ReadCommitted

variable {ι σ ω α β κ : Type*} [DecidableEq ι]

def ofSession (i : ι) (l : List (ι × α)) : List α := (l.filter (·.1 = i)).map (·.2)

/-- What is left when a session has ended. -/
def without (i : ι) (l : List (ι × α)) : List (ι × α) := l.filter (·.1 ≠ i)

@[simp] theorem ofSession_nil (i : ι) : ofSession i ([] : List (ι × α)) = [] := rfl

theorem ofSession_append (i : ι) (l m : List (ι × α)) :
    ofSession i (l ++ m) = ofSession i l ++ ofSession i m := by
  simp [ofSession]

theorem ofSession_singleton_self (i : ι) (a : α) : ofSession i [(i, a)] = [a] := by
  simp [ofSession]

theorem ofSession_singleton_ne {i j : ι} (h : j ≠ i) (a : α) : ofSession i [(j, a)] = [] := by
  simp [ofSession, h]

theorem mem_ofSession {i : ι} {l : List (ι × α)} {a : α} : a ∈ ofSession i l ↔ (i, a) ∈ l := by
  simp [ofSession]

theorem mem_without {i : ι} {l : List (ι × α)} {p : ι × α} :
    p ∈ without i l ↔ p ∈ l ∧ p.1 ≠ i := by
  simp [without]

theorem ofSession_without_self (i : ι) (l : List (ι × α)) : ofSession i (without i l) = [] := by
  simp [ofSession, without]

theorem ofSession_without_ne {i j : ι} (h : i ≠ j) (l : List (ι × α)) :
    ofSession i (without j l) = ofSession i l := by
  rw [ofSession, without, List.filter_filter, ofSession]
  congr 1
  refine List.filter_congr ?_
  intro p _
  by_cases hp : p.1 = i
  · simp [hp, h]
  · simp [hp]

/-- A list is its part of one session and the rest. -/
theorem perm_ofSession (i : ι) (l : List (ι × α)) :
    (l.map (·.2)).Perm (ofSession i l ++ (without i l).map (·.2)) := by
  have hperm := (List.filter_append_perm (fun p : ι × α => decide (p.1 = i)) l).symm
  have hmap := hperm.map (·.2)
  rw [List.map_append] at hmap
  simpa [ofSession, without] using hmap

/-- Where a session has one element only, the rest is without it. -/
theorem perm_cons_without {i : ι} {l : List (ι × α)} {a : α} (hone : (l.map (·.1)).Nodup)
    (h : (i, a) ∈ l) : l.Perm ((i, a) :: without i l) := by
  induction l with
  | nil => cases h
  | cons p l ih =>
    obtain ⟨hnot, hrest⟩ := List.nodup_cons.mp hone
    rcases List.mem_cons.mp h with rfl | h
    · have hothers : without i l = l := by
        refine List.filter_eq_self.mpr ?_
        intro q hq
        have hne : q.1 ≠ i := fun heq => hnot (List.mem_map.mpr ⟨q, hq, heq⟩)
        simpa using hne
      have hself : without i ((i, a) :: l) = without i l := by
        simp [without]
      rw [hself, hothers]
    · have hne : p.1 ≠ i := fun heq => hnot (List.mem_map.mpr ⟨(i, a), h, heq.symm⟩)
      have hkept : without i (p :: l) = p :: without i l := by
        simp [without, hne]
      rw [hkept]
      exact ((ih hrest h).cons p).trans (List.Perm.swap _ _ _)

theorem ofSession_eq_singleton {i : ι} {l : List (ι × α)} {a : α} (hone : (l.map (·.1)).Nodup)
    (h : (i, a) ∈ l) : ofSession i l = [a] := by
  have hperm := ((perm_cons_without hone h).filter (·.1 = i)).map (·.2)
  have hrest : ofSession i (without i l) = [] := ofSession_without_self i l
  rw [ofSession] at hrest
  rw [List.filter_cons_of_pos (by simp), List.map_cons, hrest] at hperm
  exact List.perm_singleton.mp hperm

theorem without_sublist (i : ι) (l : List (ι × α)) : (without i l).Sublist l :=
  List.filter_sublist

/-- What is committed, and what the sessions have written since they began. -/
structure Store (ι σ ω : Type*) where
  committed : σ
  pending : List (ι × ω)

namespace Store

variable (apply : σ → ω → σ) (clash : ω → ω → Prop) (store : Store ι σ ω)

def view (i : ι) : σ := (ofSession i store.pending).foldl apply store.committed

/-- A session writes; `none` while it has to wait. -/
def write [DecidableRel clash] (i : ι) (w : ω) : Option (Store ι σ ω) :=
  if ∃ p ∈ store.pending, p.1 ≠ i ∧ clash p.2 w then none
  else some { store with pending := store.pending ++ [(i, w)] }

def writeAll [DecidableRel clash] (store : Store ι σ ω) (i : ι) : List ω → Option (Store ι σ ω)
  | [] => some store
  | w :: ws => (store.write clash i w).bind fun next => writeAll next i ws

def commit (i : ι) : Store ι σ ω where
  committed := store.view apply i
  pending := without i store.pending

def rollback (i : ι) : Store ι σ ω := { store with pending := without i store.pending }

/-- Uncommitted writes of two sessions do not clash. -/
def NoClash : Prop :=
  ∀ p ∈ store.pending, ∀ q ∈ store.pending, p.1 ≠ q.1 → ¬clash p.2 q.2

variable {apply clash store} {store' : Store ι σ ω} {i j : ι} {w : ω} {ws : List ω}

theorem write_eq_some [DecidableRel clash] (h : store.write clash i w = some store') :
    (∀ p ∈ store.pending, p.1 ≠ i → ¬clash p.2 w) ∧
      store' = { store with pending := store.pending ++ [(i, w)] } := by
  unfold write at h
  split_ifs at h with hwait
  refine ⟨?_, (Option.some.inj h).symm⟩
  intro p hp hne hclash
  exact hwait ⟨p, hp, hne, hclash⟩

theorem writeAll_eq_some [DecidableRel clash] (h : store.writeAll clash i ws = some store') :
    store' = { store with pending := store.pending ++ ws.map fun w => (i, w) } := by
  induction ws generalizing store with
  | nil =>
    obtain rfl := Option.some.inj h
    simp
  | cons w ws ih =>
    obtain ⟨next, hwrite, hrest⟩ := Option.bind_eq_some_iff.mp h
    obtain ⟨_, rfl⟩ := write_eq_some hwrite
    rw [ih hrest]
    simp

theorem NoClash.write [DecidableRel clash] (hsymm : ∀ a b, clash a b → clash b a)
    (h : store.NoClash clash)
    (hwrite : store.write clash i w = some store') : store'.NoClash clash := by
  obtain ⟨hfree, rfl⟩ := write_eq_some hwrite
  intro p hp q hq hne
  rcases List.mem_append.mp hp with hp | hp <;> rcases List.mem_append.mp hq with hq | hq
  · exact h p hp q hq hne
  · obtain rfl := List.mem_singleton.mp hq
    exact hfree p hp hne
  · obtain rfl := List.mem_singleton.mp hp
    exact fun hclash => hfree q hq hne.symm (hsymm _ _ hclash)
  · obtain rfl := List.mem_singleton.mp hp
    obtain rfl := List.mem_singleton.mp hq
    exact absurd rfl hne

theorem NoClash.writeAll [DecidableRel clash] (hsymm : ∀ a b, clash a b → clash b a)
    (h : store.NoClash clash)
    (hwrite : store.writeAll clash i ws = some store') : store'.NoClash clash := by
  induction ws generalizing store with
  | nil =>
    obtain rfl := Option.some.inj hwrite
    exact h
  | cons w ws ih =>
    obtain ⟨next, hfirst, hrest⟩ := Option.bind_eq_some_iff.mp hwrite
    exact ih (h.write hsymm hfirst) hrest

/-- Fewer uncommitted writes clash no more. -/
theorem NoClash.without (h : store.NoClash clash) {s : σ} :
    (⟨s, ReadCommitted.without i store.pending⟩ : Store ι σ ω).NoClash clash := by
  intro p hp q hq
  exact h p (mem_without.mp hp).1 q (mem_without.mp hq).1

theorem ofSession_append_map_self (l : List (ι × ω)) (ws : List ω) :
    ofSession i (l ++ ws.map fun w => (i, w)) = ofSession i l ++ ws := by
  rw [ofSession_append]
  congr 1
  induction ws with
  | nil => rfl
  | cons w ws ih => simpa [ofSession] using ih

theorem ofSession_append_map_ne (h : j ≠ i) (l : List (ι × ω)) (ws : List ω) :
    ofSession i (l ++ ws.map fun w => (j, w)) = ofSession i l := by
  rw [ofSession_append]
  have hnone : ofSession i (ws.map fun w => (j, w)) = [] := by
    simp [ofSession, h]
  rw [hnone, List.append_nil]

theorem view_writeAll_self [DecidableRel clash] (h : store.writeAll clash i ws = some store') :
    store'.view apply i = ws.foldl apply (store.view apply i) := by
  rw [writeAll_eq_some h, view, ofSession_append_map_self, List.foldl_append]
  rfl

theorem view_writeAll_ne [DecidableRel clash] (h : store.writeAll clash j ws = some store')
    (hij : i ≠ j) : store'.view apply i = store.view apply i := by
  rw [writeAll_eq_some h, view, ofSession_append_map_ne hij.symm]
  rfl

theorem view_rollback_ne (hij : i ≠ j) :
    (store.rollback j).view apply i = store.view apply i := by
  rw [rollback, view, ofSession_without_ne hij]
  rfl

section Rows

variable {rows : σ → List β} {new : ω → List β}

theorem rows_foldl (hrows : ∀ s w, rows (apply s w) = rows s ++ new w) (s : σ) (ws : List ω) :
    rows (ws.foldl apply s) = rows s ++ ws.flatMap new := by
  induction ws generalizing s with
  | nil => simp
  | cons w ws ih =>
    rw [List.foldl_cons, ih, hrows, List.flatMap_cons, List.append_assoc]

/-- The rows a session sees: the committed ones, and its own. -/
theorem rows_view (hrows : ∀ s w, rows (apply s w) = rows s ++ new w) (i : ι) :
    rows (store.view apply i) =
      rows store.committed ++ (ofSession i store.pending).flatMap new :=
  rows_foldl hrows _ _

/-- A unique index: no session sees two rows with one key. -/
def UniqueRows (apply : σ → ω → σ) (rows : σ → List β) (key : β → κ) (store : Store ι σ ω) : Prop :=
  ∀ i, ((rows (store.view apply i)).map key).Nodup

variable {key : β → κ}

theorem UniqueRows.committed (hrows : ∀ s w, rows (apply s w) = rows s ++ new w) (i : ι)
    (h : UniqueRows apply rows key store) : ((rows store.committed).map key).Nodup := by
  have hview := h i
  rw [rows_view hrows, List.map_append] at hview
  exact hview.of_append_left

/-- A commit of one session leaves the index of the others unique, since their own rows clash with
none of its rows. -/
theorem UniqueRows.commit (hrows : ∀ s w, rows (apply s w) = rows s ++ new w)
    (hclash : ∀ w w' b b', b ∈ new w → b' ∈ new w' → key b = key b' → clash w w')
    (hfree : store.NoClash clash) (h : UniqueRows apply rows key store) (j : ι) :
    UniqueRows apply rows key (store.commit apply j) := by
  intro i
  have hj := h j
  rw [rows_view hrows, Store.commit, rows_view hrows]
  by_cases hij : i = j
  · subst hij
    rw [rows_view hrows] at hj
    simp only [ofSession_without_self, List.flatMap_nil, List.append_nil]
    exact hj
  · have hi := h i
    rw [rows_view hrows] at hi hj
    rw [ofSession_without_ne hij, List.map_append]
    rw [List.map_append] at hi hj ⊢
    refine List.Nodup.append hj hi.of_append_right ?_
    intro k hk hki
    rcases List.mem_append.mp hk with hk | hk
    · exact (List.disjoint_of_nodup_append hi) hk hki
    · obtain ⟨b, hb, rfl⟩ := List.mem_map.mp hk
      obtain ⟨b', hb', hkey⟩ := List.mem_map.mp hki
      obtain ⟨w, hw, hbw⟩ := List.mem_flatMap.mp hb
      obtain ⟨w', hw', hbw'⟩ := List.mem_flatMap.mp hb'
      exact hfree _ (mem_ofSession.mp hw) _ (mem_ofSession.mp hw') (Ne.symm hij)
        (hclash w w' b b' hbw hbw' hkey.symm)

theorem UniqueRows.rollback (hrows : ∀ s w, rows (apply s w) = rows s ++ new w)
    (h : UniqueRows apply rows key store) (j : ι) :
    UniqueRows apply rows key (store.rollback j) := by
  intro i
  have hi := h i
  rw [rows_view hrows] at hi ⊢
  rw [Store.rollback]
  by_cases hij : i = j
  · subst hij
    rw [ofSession_without_self]
    rw [List.map_append] at hi
    simpa using hi.of_append_left
  · rwa [ofSession_without_ne hij]

end Rows

section Look

variable {look : σ → Option β} {new : ω → Option β}

theorem look_foldl (hlook : ∀ s w, look (apply s w) = (look s).or (new w)) (s : σ)
    (ws : List ω) : look (ws.foldl apply s) = (look s).or (ws.findSome? new) := by
  induction ws generalizing s with
  | nil => simp
  | cons w ws ih =>
    rw [List.foldl_cons, ih, hlook, List.findSome?_cons]
    cases hs : look s <;> cases hw : new w <;> simp

theorem look_view (hlook : ∀ s w, look (apply s w) = (look s).or (new w)) (i : ι) :
    look (store.view apply i) =
      (look store.committed).or ((ofSession i store.pending).findSome? new) :=
  look_foldl hlook _ _

/-- What a session has found it finds again after another one has committed. -/
theorem look_commit_ne (hlook : ∀ s w, look (apply s w) = (look s).or (new w))
    (hclash : ∀ w w', (new w).isSome → (new w').isSome → clash w w') (hfree : store.NoClash clash)
    (hij : i ≠ j) {b : β} (h : look (store.view apply i) = some b) :
    look ((store.commit apply j).view apply i) = some b := by
  rw [look_view hlook] at h ⊢
  rw [commit, look_view hlook, ofSession_without_ne hij]
  rcases Option.or_eq_some_iff.mp h with hb | ⟨hnone, hb⟩
  · simp [hb]
  · have hother : (ofSession j store.pending).findSome? new = none := by
      refine List.findSome?_eq_none_iff.mpr ?_
      intro w hw
      obtain ⟨w', hw', hnew⟩ := List.exists_of_findSome?_eq_some hb
      by_contra hsome
      exact hfree _ (mem_ofSession.mp hw') _ (mem_ofSession.mp hw) hij
        (hclash w' w (by simp [hnew]) (Option.ne_none_iff_isSome.mp hsome))
    simp [hnone, hother, hb]

end Look

end Store
end ReadCommitted
