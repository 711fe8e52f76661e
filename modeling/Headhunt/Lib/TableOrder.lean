import Mathlib.Algebra.GroupWithZero.Nat
import Headhunt.Lib.Table

/-! Tables a loop works through: the row `ORDER BY ... LIMIT 1` selects, what an update of
one row does to a sum over the table, and the order in which such a loop takes the rows. -/
namespace Table

theorem keyBefore_irrefl (a : List Int) : keyBefore a a = false := by
  induction a with
  | nil => rfl
  | cons x a ih => simp [keyBefore, ih]

/-- What comes before one of two keys but not before the other lies between them. -/
theorem keyBefore_split {n : Nat} {a b c : List Int} (ha : a.length = n) (hb : b.length = n)
    (hc : c.length = n) (hac : keyBefore a c = true) :
    keyBefore a b = true ∨ keyBefore b c = true := by
  induction n generalizing a b c with
  | zero =>
    obtain rfl := List.length_eq_zero_iff.mp ha
    simp [keyBefore] at hac
  | succ n ih =>
    obtain ⟨x, a, rfl⟩ := List.exists_cons_of_length_eq_add_one ha
    obtain ⟨y, b, rfl⟩ := List.exists_cons_of_length_eq_add_one hb
    obtain ⟨z, c, rfl⟩ := List.exists_cons_of_length_eq_add_one hc
    simp only [List.length_cons, Nat.add_right_cancel_iff] at ha hb hc
    simp only [keyBefore, Bool.or_eq_true, Bool.and_eq_true, decide_eq_true_eq] at hac ⊢
    rcases hac with hxz | ⟨rfl, hac⟩
    · by_cases hxy : x < y
      · exact .inl (.inl hxy)
      · exact .inr (.inl (by omega))
    · by_cases hxy : x < y
      · exact .inl (.inl hxy)
      · by_cases hyx : y < x
        · exact .inr (.inl hyx)
        · have heq : x = y := by omega
          rcases ih ha hb hc hac with h | h
          · exact .inl (.inr ⟨heq, h⟩)
          · exact .inr (.inr ⟨heq.symm, h⟩)

theorem keyBefore_asymm {n : Nat} {a b : List Int} (ha : a.length = n) (hb : b.length = n)
    (hab : keyBefore a b = true) : keyBefore b a = false := by
  rw [← Bool.not_eq_true]
  intro hba
  induction n generalizing a b with
  | zero =>
    obtain rfl := List.length_eq_zero_iff.mp ha
    simp [keyBefore] at hab
  | succ n ih =>
    obtain ⟨x, a, rfl⟩ := List.exists_cons_of_length_eq_add_one ha
    obtain ⟨y, b, rfl⟩ := List.exists_cons_of_length_eq_add_one hb
    simp only [List.length_cons, Nat.add_right_cancel_iff] at ha hb
    simp only [keyBefore, Bool.or_eq_true, Bool.and_eq_true, decide_eq_true_eq] at hab hba
    rcases hab with hxy | ⟨_, hab⟩
    · rcases hba with hyx | ⟨hyx, _⟩ <;> omega
    · rcases hba with hyx | ⟨_, hba⟩
      · omega
      · exact ih ha hb hab hba

variable {ρ : Type*} {rank : ρ → List Int}

@[simp] theorem first?_eq_none {t : List ρ} : first? rank t = none ↔ t = [] := by
  cases t with
  | nil => simp [first?]
  | cons r t =>
    simp only [first?, List.cons_ne_nil, iff_false]
    cases first? rank t with
    | none => simp
    | some s =>
      dsimp only
      split_ifs <;> simp

/-- No row comes before the one that is selected. -/
theorem first?_least {n : Nat} {t : List ρ} {r : ρ} (hn : ∀ s, (rank s).length = n)
    (h : first? rank t = some r) : ∀ s ∈ t, keyBefore (rank s) (rank r) = false := by
  induction t generalizing r with
  | nil => simp [first?] at h
  | cons a t ih =>
    intro s hs
    simp only [first?] at h
    cases hf : first? rank t with
    | none =>
      obtain rfl : t = [] := first?_eq_none.mp hf
      obtain rfl : a = r := by simpa [hf] using h
      obtain rfl : s = a := by simpa using hs
      exact keyBefore_irrefl _
    | some m =>
      simp only [hf] at h
      split_ifs at h with hm
      · obtain rfl := Option.some.inj h
        rcases List.mem_cons.mp hs with rfl | hs
        · exact keyBefore_asymm (hn m) (hn s) hm
        · exact ih hf s hs
      · obtain rfl := Option.some.inj h
        rcases List.mem_cons.mp hs with rfl | hs
        · exact keyBefore_irrefl _
        · by_contra hlt
          have hsa : keyBefore (rank s) (rank a) = true := by simpa using hlt
          rcases keyBefore_split (hn s) (hn m) (hn a) hsa with hsm | hma
          · have hleast := ih hf s hs
            rw [hsm] at hleast
            contradiction
          · exact hm hma

section Update

variable {κ : Type*} [DecidableEq κ] {key : ρ → κ}

theorem modify_modify {k : κ} {f g : ρ → ρ} (hf : ∀ r, key (f r) = key r) (t : List ρ) :
    modify key k g (modify key k f t) = modify key k (fun r => g (f r)) t := by
  simp only [modify, List.map_map]
  apply List.map_congr_left
  intro r _
  dsimp only [Function.comp_apply]
  by_cases hr : key r = k
  · simp only [if_pos hr, hf r]
  · simp only [if_neg hr]

theorem modify_of_ne {k : κ} {f : ρ → ρ} {t : List ρ} (h : ∀ r ∈ t, key r ≠ k) :
    modify key k f t = t :=
  modify_eq_self fun r hr hk => absurd hk (h r hr)

/-- An update of one row changes a sum over the rows by what it changes that row. -/
theorem sum_modify {k : κ} {f : ρ → ρ} {t : List ρ} {r : ρ} (w : ρ → Nat) (hu : Unique key t)
    (hr : find key k t = some r) :
    ((modify key k f t).map w).sum + w r = (t.map w).sum + w (f r) := by
  induction t with
  | nil => simp at hr
  | cons a t ih =>
    have hnodup : key a ∉ t.map key ∧ (t.map key).Nodup := by
      simpa [Unique, List.nodup_cons] using hu
    have hcons : modify key k f (a :: t) = (if key a = k then f a else a) :: modify key k f t := rfl
    rw [hcons]
    by_cases hk : key a = k
    · obtain rfl : a = r := by simpa [find, hk] using hr
      have hrest : modify key k f t = t := by
        apply modify_of_ne
        intro b hb he
        exact hnodup.1 (hk.trans he.symm ▸ List.mem_map_of_mem hb)
      simp only [if_pos hk, hrest, List.map_cons, List.sum_cons]
      omega
    · have hr' : find key k t = some r := by simpa [find, hk] using hr
      have hsum := ih hnodup.2 hr'
      simp only [if_neg hk, List.map_cons, List.sum_cons]
      omega

end Update

section Drain

variable {κ : Type*} [DecidableEq κ] {key : ρ → κ}

theorem perm_cons_filter_ne {t : List ρ} {r : ρ} (hu : Unique key t) (hr : r ∈ t) :
    (r :: t.filter fun s => key s ≠ key r).Perm t := by
  induction t with
  | nil => simp at hr
  | cons a t ih =>
    have hnodup : key a ∉ t.map key ∧ (t.map key).Nodup := by
      simpa [Unique, List.nodup_cons] using hu
    rcases List.mem_cons.mp hr with rfl | hr
    · have hrest : (t.filter fun s => key s ≠ key r) = t := by
        apply List.filter_eq_self.mpr
        intro s hs
        have hne : key s ≠ key r := fun he => hnodup.1 (he ▸ List.mem_map_of_mem hs)
        simpa using hne
      have hhead : ((r :: t).filter fun s => key s ≠ key r) = t.filter fun s => key s ≠ key r := by
        simp
      rw [hhead, hrest]
    · have hne : key a ≠ key r := fun he => hnodup.1 (he ▸ List.mem_map_of_mem hr)
      have hhead : ((a :: t).filter fun s => key s ≠ key r) =
          a :: t.filter fun s => key s ≠ key r := by
        simp [hne]
      rw [hhead]
      exact (List.Perm.swap a r _).trans ((ih hnodup.2 hr).cons a)

/-- A row that an update takes out of the selected ones. -/
theorem filter_modify {k : κ} {f : ρ → ρ} {p : ρ → Bool} {t : List ρ}
    (hf : ∀ r ∈ t, key r = k → p (f r) = false) :
    (modify key k f t).filter p = (t.filter p).filter fun r => key r ≠ k := by
  induction t with
  | nil => rfl
  | cons a t ih =>
    have hcons : modify key k f (a :: t) = (if key a = k then f a else a) :: modify key k f t := rfl
    have hrest := ih fun r hr => hf r (List.mem_cons_of_mem a hr)
    rw [hcons]
    by_cases hk : key a = k
    · have hgone : p (f a) = false := hf a List.mem_cons_self hk
      rw [if_pos hk, List.filter_cons_of_neg (by simp [hgone]), hrest]
      by_cases hp : p a = true
      · rw [List.filter_cons_of_pos hp, List.filter_cons_of_neg (by simp [hk])]
      · rw [List.filter_cons_of_neg hp]
    · rw [if_neg hk]
      by_cases hp : p a = true
      · rw [List.filter_cons_of_pos hp, List.filter_cons_of_pos hp, hrest,
          List.filter_cons_of_pos (by simp [hk])]
      · rw [List.filter_cons_of_neg hp, List.filter_cons_of_neg hp, hrest]

/-- Round `n` chooses the first waiting row, which waits no more, or finds none. -/
structure Drains (key : ρ → κ) (rank : ρ → List Int) (waiting : Nat → List ρ)
    (chosen : Nat → Option ρ) (n : Nat) : Prop where
  first : chosen n = first? rank (waiting n)
  rest : ∀ r, chosen n = some r → waiting (n + 1) = (waiting n).filter fun s => key s ≠ key r
  idle : chosen n = none → waiting (n + 1) = waiting n

/-- Rounds that always choose the first waiting row take each one at most once and in order,
and none of them is idle while rows wait. -/
theorem drains {rank : ρ → List Int} {waiting : Nat → List ρ} {chosen : Nat → Option ρ} {m : Nat}
    (hrank : ∀ s, (rank s).length = m) {k a : Nat}
    (h : ∀ n, a ≤ n → n < a + k → Drains key rank waiting chosen n)
    (hu : Unique key (waiting a)) :
    (((List.range' a k).filterMap chosen) ++ waiting (a + k)).Perm (waiting a) ∧
      ((List.range' a k).filterMap chosen).Pairwise
        (fun r s => keyBefore (rank s) (rank r) = false) ∧
      ((List.range' a k).filterMap chosen).length = min k (waiting a).length := by
  induction k generalizing a with
  | zero => simp
  | succ k ih =>
    have hround := h a (Nat.le_refl a) (by omega)
    have hlater : ∀ n, a + 1 ≤ n → n < a + 1 + k → Drains key rank waiting chosen n := by
      intro n hn hk
      exact h n (by omega) (by omega)
    have hend : a + (k + 1) = a + 1 + k := by omega
    rw [List.range'_succ, hend]
    cases hc : chosen a with
    | none =>
      have hempty : waiting a = [] := first?_eq_none.mp (hround.first.symm.trans hc)
      have hsame : waiting (a + 1) = waiting a := hround.idle hc
      obtain ⟨hperm, hsorted, hlength⟩ := ih hlater (hsame ▸ hu)
      rw [List.filterMap_cons_none hc, ← hsame]
      refine ⟨hperm, hsorted, ?_⟩
      rw [hlength, hsame, hempty]
      simp
    | some r =>
      have hfirst : first? rank (waiting a) = some r := hround.first.symm.trans hc
      have hmem : r ∈ waiting a := first?_mem hfirst
      have hrest := hround.rest r hc
      have hu' : Unique key (waiting (a + 1)) := by
        rw [hrest]
        exact List.Nodup.sublist (List.Sublist.map key List.filter_sublist) hu
      obtain ⟨hperm, hsorted, hlength⟩ := ih hlater hu'
      have hcons : (r :: waiting (a + 1)).Perm (waiting a) := by
        rw [hrest]
        exact perm_cons_filter_ne hu hmem
      rw [List.filterMap_cons_some hc]
      refine ⟨?_, ?_, ?_⟩
      · rw [List.cons_append]
        exact (hperm.cons r).trans hcons
      · apply List.Pairwise.cons _ hsorted
        intro s hs
        have hlate : s ∈ waiting (a + 1) := hperm.subset (List.mem_append_left _ hs)
        exact first?_least hrank hfirst s (hcons.subset (List.mem_cons_of_mem r hlate))
      · have hsize := hcons.length_eq
        rw [List.length_cons] at hsize
        rw [List.length_cons, hlength]
        omega

end Drain

end Table
