import Mathlib.Data.List.Nodup
import Mathlib.Data.List.Perm.Subperm

/-! Tables as lists of rows with a unique key: lookup, update in place and the
three ways a row is inserted under a unique constraint. -/
namespace Table

variable {ρ κ : Type*} [DecidableEq κ] (key : ρ → κ)

def find (k : κ) (t : List ρ) : Option ρ := t.find? fun r => key r = k

/-- `UPDATE ... WHERE key = k`. -/
def modify (k : κ) (f : ρ → ρ) (t : List ρ) : List ρ :=
  t.map fun r => if key r = k then f r else r

/-- `INSERT ... ON CONFLICT DO NOTHING`. -/
def insertOrIgnore (r : ρ) (t : List ρ) : List ρ :=
  if (find key (key r) t).isSome then t else t ++ [r]

/-- `INSERT ... ON CONFLICT (key) DO UPDATE`. -/
def upsert (r : ρ) (values : ρ → ρ) (t : List ρ) : List ρ :=
  if (find key (key r) t).isSome then modify key (key r) values t else t ++ [r]

/-- Lexicographic order of two sort keys. -/
def keyBefore : List Int → List Int → Bool
  | a :: as, b :: bs => a < b || a = b && keyBefore as bs
  | _, _ => false

/-- `ORDER BY rank LIMIT 1`. -/
def first? (rank : ρ → List Int) : List ρ → Option ρ
  | [] => none
  | r :: t =>
    match first? rank t with
    | none => some r
    | some s => if keyBefore (rank s) (rank r) then some s else some r

def Unique (t : List ρ) : Prop := (t.map key).Nodup

variable {key}

theorem find_eq_some_iff {k : κ} {t : List ρ} {r : ρ} (hu : Unique key t) :
    find key k t = some r ↔ r ∈ t ∧ key r = k := by
  constructor
  · intro h
    exact ⟨List.mem_of_find?_eq_some h, by simpa using List.find?_some h⟩
  · rintro ⟨hm, rfl⟩
    induction t with
    | nil => simp at hm
    | cons a t ih =>
      have hnd : key a ∉ t.map key ∧ (t.map key).Nodup := by
        simpa [Unique, List.nodup_cons] using hu
      rcases List.mem_cons.mp hm with rfl | hm
      · simp [find]
      · have hne : key a ≠ key r := by
          intro he
          exact hnd.1 (he ▸ List.mem_map_of_mem hm)
        simpa [find, hne] using ih hnd.2 hm

theorem find_eq_none_iff {k : κ} {t : List ρ} :
    find key k t = none ↔ ∀ r ∈ t, key r ≠ k := by
  simp [find]

theorem find_key {k : κ} {t : List ρ} {r : ρ} (h : find key k t = some r) : key r = k := by
  simpa using List.find?_some h

theorem find_mem {k : κ} {t : List ρ} {r : ρ} (h : find key k t = some r) : r ∈ t :=
  List.mem_of_find?_eq_some h

@[simp] theorem find_nil (k : κ) : find key k ([] : List ρ) = none := rfl

omit [DecidableEq κ] in
theorem first?_mem {rank : ρ → List Int} {t : List ρ} {r : ρ} (h : first? rank t = some r) :
    r ∈ t := by
  induction t generalizing r with
  | nil => simp [first?] at h
  | cons a t ih =>
    unfold first? at h
    cases hf : first? rank t with
    | none =>
      obtain rfl : a = r := by simpa [hf] using h
      exact List.mem_cons_self
    | some s =>
      simp only [hf] at h
      split_ifs at h
      · obtain rfl := Option.some.inj h
        exact List.mem_cons_of_mem _ (ih hf)
      · obtain rfl := Option.some.inj h
        exact List.mem_cons_self

theorem map_modify {κ' : Type*} {g : ρ → κ'} {k : κ} {f : ρ → ρ} (hg : ∀ r, g (f r) = g r)
    (t : List ρ) : (modify key k f t).map g = t.map g := by
  simp only [modify, List.map_map]
  apply List.map_congr_left
  intro r _
  dsimp only [Function.comp_apply]
  split_ifs
  · exact hg r
  · rfl

theorem Unique.modify {κ' : Type*} {g : ρ → κ'} {k : κ} {f : ρ → ρ} (hg : ∀ r, g (f r) = g r)
    {t : List ρ} (hu : Unique g t) : Unique g (modify key k f t) := by
  rw [Unique, map_modify hg]
  exact hu

theorem find_modify {k j : κ} {f : ρ → ρ} (hf : ∀ r, key (f r) = key r) (t : List ρ) :
    find key j (modify key k f t) =
      (find key j t).map fun r => if key r = k then f r else r := by
  have hkey : ∀ r, key (if key r = k then f r else r) = key r := by
    intro r
    split_ifs
    · exact hf r
    · rfl
  simp only [find, Table.modify, List.find?_map, Function.comp_def, hkey]

theorem find_modify_self {k : κ} {f : ρ → ρ} (hf : ∀ r, key (f r) = key r) (t : List ρ) :
    find key k (modify key k f t) = (find key k t).map f := by
  rw [find_modify hf]
  cases h : find key k t with
  | none => rfl
  | some r => simp [find_key h]

theorem find_modify_ne {k j : κ} {f : ρ → ρ} (hf : ∀ r, key (f r) = key r) (t : List ρ)
    (hjk : j ≠ k) : find key j (modify key k f t) = find key j t := by
  rw [find_modify hf]
  cases h : find key j t with
  | none => rfl
  | some r => simp [find_key h, hjk]

theorem find_append_singleton (k : κ) (t : List ρ) (r : ρ) :
    find key k (t ++ [r]) = (find key k t).or (if key r = k then some r else none) := by
  by_cases h : key r = k <;> simp [find, List.find?_append, h]

theorem find_append_of_some {k : κ} {t u : List ρ} {r : ρ} (h : find key k t = some r) :
    find key k (t ++ u) = some r := by
  unfold find at h ⊢
  simp [List.find?_append, h]

theorem exists_find_of_mem {t : List ρ} {r : ρ} (h : r ∈ t) : ∃ r', find key (key r) t = some r' := by
  rw [← Option.isSome_iff_exists]
  unfold find
  rw [List.find?_isSome]
  exact ⟨r, h, by simp⟩

omit [DecidableEq κ] in
/-- Rows with the same key are the same row. -/
theorem Unique.eq {t : List ρ} (hu : Unique key t) {r r' : ρ} (hr : r ∈ t) (hr' : r' ∈ t)
    (h : key r = key r') : r = r' :=
  List.inj_on_of_nodup_map hu hr hr' h

omit [DecidableEq κ] in
/-- At most one row has a property that fixes its key. -/
theorem Unique.length_filter_le {t : List ρ} (hu : Unique key t) (p : ρ → Bool) (k : κ)
    (hp : ∀ r ∈ t, p r = true → key r = k) : (t.filter p).length ≤ 1 := by
  have hnodup : ((t.filter p).map key).Nodup := hu.sublist (List.filter_sublist.map key)
  have hsub : (t.filter p).map key ⊆ [k] := by
    intro x hx
    obtain ⟨r, hr, rfl⟩ := List.mem_map.mp hx
    obtain ⟨hmem, hpr⟩ := List.mem_filter.mp hr
    simp [hp r hmem hpr]
  simpa using (hnodup.subperm hsub).length_le

theorem find_upsert_self {r : ρ} {values : ρ → ρ} (hvalues : ∀ r, key (values r) = key r)
    (t : List ρ) :
    find key (key r) (upsert key r values t) =
      some (((find key (key r) t).map values).getD r) := by
  unfold upsert
  cases h : find key (key r) t with
  | none => simp [find_append_singleton, h]
  | some old => simp [find_modify_self hvalues, h]

/-- Rows under other keys are as they were. -/
theorem filter_ne_modify {k : κ} {f : ρ → ρ} (hf : ∀ r, key (f r) = key r) (t : List ρ) :
    (modify key k f t).filter (fun r => key r ≠ k) = t.filter fun r => key r ≠ k := by
  induction t with
  | nil => rfl
  | cons r t ih =>
    have hcons : modify key k f (r :: t) =
        (if key r = k then f r else r) :: modify key k f t := rfl
    rw [hcons]
    by_cases h : key r = k
    · have hfr : key (f r) = k := by rw [hf, h]
      simpa [h, hfr] using ih
    · simpa [h] using ih

theorem filter_ne_upsert {r : ρ} {values : ρ → ρ} (hvalues : ∀ r, key (values r) = key r)
    (t : List ρ) :
    (upsert key r values t).filter (fun r' => key r' ≠ key r) =
      t.filter fun r' => key r' ≠ key r := by
  unfold upsert
  split_ifs with h
  · exact filter_ne_modify hvalues t
  · simp

theorem find_upsert_ne {k : κ} {r : ρ} {values : ρ → ρ} (hvalues : ∀ r, key (values r) = key r)
    (t : List ρ) (hk : k ≠ key r) : find key k (upsert key r values t) = find key k t := by
  unfold upsert
  split_ifs
  · exact find_modify_ne hvalues t hk
  · rw [find_append_singleton, if_neg (Ne.symm hk), Option.or_none]

theorem modify_eq_self {k : κ} {f : ρ → ρ} {t : List ρ} (h : ∀ r ∈ t, key r = k → f r = r) :
    modify key k f t = t := by
  unfold modify
  conv_rhs => rw [← List.map_id t]
  apply List.map_congr_left
  intro r hr
  by_cases hk : key r = k
  · rw [if_pos hk, h r hr hk, id]
  · rw [if_neg hk, id]

theorem mem_modify {k : κ} {f : ρ → ρ} {t : List ρ} {r : ρ} :
    r ∈ modify key k f t ↔ ∃ r' ∈ t, (if key r' = k then f r' else r') = r := by
  simp [modify]

theorem Unique.append_singleton {t : List ρ} {r : ρ} (hu : Unique key t)
    (hr : find key (key r) t = none) : Unique key (t ++ [r]) := by
  have hne := find_eq_none_iff.mp hr
  simp only [Unique, List.map_append, List.map_cons, List.map_nil]
  refine List.Nodup.append hu (List.nodup_singleton _) ?_
  simp only [List.disjoint_singleton, List.mem_map, not_exists, not_and]
  exact hne

theorem Unique.insertOrIgnore {t : List ρ} {r : ρ} (hu : Unique key t) :
    Unique key (insertOrIgnore key r t) := by
  unfold Table.insertOrIgnore
  cases h : find key (key r) t with
  | none => simpa using hu.append_singleton h
  | some r' => simpa using hu

theorem find_insertOrIgnore (k : κ) (t : List ρ) (r : ρ) :
    find key k (insertOrIgnore key r t) =
      (find key k t).or (if key r = k then some r else none) := by
  unfold insertOrIgnore
  cases h : find key (key r) t with
  | none => simp [find_append_singleton]
  | some r' =>
    by_cases hk : key r = k
    · subst hk
      simp [h]
    · simp [hk]

section UpsertAll

variable (key) (set : ρ → ρ → ρ)

def upsertAll (rows t : List ρ) : List ρ :=
  rows.foldl (fun t row => upsert key row (set row) t) t

/-- What the writes make of a row that is there. -/
def assign (rows : List ρ) (r : ρ) : ρ :=
  rows.foldl (fun r row => if key r = key row then set row r else r) r

variable {key set}

theorem find_upsert_isSome {k : κ} {row : ρ} {f : ρ → ρ} (hf : ∀ r, key (f r) = key r)
    {t : List ρ} (h : (find key k t).isSome ∨ key row = k) :
    (find key k (upsert key row f t)).isSome := by
  unfold upsert
  split_ifs with hrow
  · rw [find_modify hf, Option.isSome_map]
    rcases h with h | rfl
    · exact h
    · exact hrow
  · rw [find_append_singleton, Option.isSome_or]
    rcases h with h | h
    · rw [h, Bool.true_or]
    · rw [if_pos h, Option.isSome_some, Bool.or_true]

theorem find_upsertAll_isSome (hkey : ∀ row r, key (set row r) = key r) {k : κ} {rows t : List ρ}
    (h : (find key k t).isSome ∨ ∃ row ∈ rows, key row = k) :
    (find key k (upsertAll key set rows t)).isSome := by
  induction rows generalizing t with
  | nil =>
    rcases h with h | ⟨row, hrow, _⟩
    · exact h
    · cases hrow
  | cons row rows ih =>
    apply ih
    rcases h with h | ⟨row', hrow', hk⟩
    · exact Or.inl (find_upsert_isSome (hkey row) (Or.inl h))
    · rcases List.mem_cons.mp hrow' with rfl | hmem
      · exact Or.inl (find_upsert_isSome (hkey row') (Or.inr hk))
      · exact Or.inr ⟨row', hmem, hk⟩

/-- Where every key is there, the writes go through the rows. -/
theorem upsertAll_eq_map (hkey : ∀ row r, key (set row r) = key r) {rows t : List ρ}
    (h : ∀ row ∈ rows, (find key (key row) t).isSome) :
    upsertAll key set rows t = t.map (assign key set rows) := by
  induction rows generalizing t with
  | nil => exact (List.map_id t).symm
  | cons row rows ih =>
    have hrow : upsert key row (set row) t = modify key (key row) (set row) t :=
      if_pos (h row List.mem_cons_self)
    have hrest : ∀ row' ∈ rows,
        (find key (key row') (upsert key row (set row) t)).isSome := by
      intro row' hmem
      exact find_upsert_isSome (hkey row) (Or.inl (h row' (List.mem_cons_of_mem _ hmem)))
    calc upsertAll key set (row :: rows) t
        = upsertAll key set rows (upsert key row (set row) t) := rfl
      _ = (upsert key row (set row) t).map (assign key set rows) := ih hrest
      _ = t.map (assign key set (row :: rows)) := by
        rw [hrow, modify, List.map_map]
        rfl

/-- An earlier write of a row that is written again is lost. -/
theorem assign_set (hkey : ∀ row r, key (set row r) = key r)
    (hset : ∀ row row' r, set row (set row' r) = set row r) {rows : List ρ} {row r : ρ}
    (h : ∃ row' ∈ rows, key r = key row') :
    assign key set rows (set row r) = assign key set rows r := by
  induction rows generalizing r with
  | nil =>
    obtain ⟨_, hmem, _⟩ := h
    cases hmem
  | cons first rows ih =>
    change assign key set rows (if key (set row r) = key first then set first (set row r)
      else set row r) = assign key set rows (if key r = key first then set first r else r)
    rw [hkey]
    by_cases hfirst : key r = key first
    · rw [if_pos hfirst, if_pos hfirst, hset]
    · rw [if_neg hfirst, if_neg hfirst]
      obtain ⟨row', hmem, hk⟩ := h
      rcases List.mem_cons.mp hmem with rfl | hmem
      · exact absurd hk hfirst
      · exact ih ⟨row', hmem, hk⟩

theorem mem_of_mem_upsert {row r : ρ} {f : ρ → ρ} {t : List ρ} (hf : ∀ r, key (f r) = key r)
    (h : r ∈ upsert key row f t) (hne : key r ≠ key row) : r ∈ t := by
  unfold upsert at h
  split_ifs at h
  · obtain ⟨old, hold, rfl⟩ := mem_modify.mp h
    by_cases hk : key old = key row
    · rw [if_pos hk, hf] at hne
      exact absurd hk hne
    · rw [if_neg hk]
      exact hold
  · rcases List.mem_append.mp h with h | h
    · exact h
    · rw [List.mem_singleton.mp h] at hne
      exact absurd rfl hne

theorem mem_of_mem_upsertAll (hkey : ∀ row r, key (set row r) = key r) {rows t : List ρ} {r : ρ}
    (h : r ∈ upsertAll key set rows t) (hne : ∀ row ∈ rows, key r ≠ key row) : r ∈ t := by
  induction rows generalizing t with
  | nil => exact h
  | cons row rows ih =>
    have hmem : r ∈ upsert key row (set row) t :=
      ih h fun row' hmem => hne row' (List.mem_cons_of_mem _ hmem)
    exact mem_of_mem_upsert (hkey row) hmem (hne row List.mem_cons_self)

/-- A row that has just been written stays as it is when it is written again. -/
theorem set_of_mem_upsert {row r : ρ} {f : ρ → ρ} {t : List ρ} (hf : ∀ r, f (f r) = f r)
    (hrow : f row = row) (h : r ∈ upsert key row f t) (hkey : key r = key row) : f r = r := by
  unfold upsert at h
  split_ifs at h with hfind
  · obtain ⟨old, _, rfl⟩ := mem_modify.mp h
    by_cases hold : key old = key row
    · rw [if_pos hold, hf]
    · rw [if_neg hold] at hkey
      exact absurd hkey hold
  · rcases List.mem_append.mp h with h | h
    · have hnone : find key (key row) t = none := by
        simpa using hfind
      exact absurd hkey (find_eq_none_iff.mp hnone r h)
    · rw [List.mem_singleton.mp h, hrow]

/-- The rows that have been written are what the writes make of them. -/
theorem assign_of_mem_upsertAll (hkey : ∀ row r, key (set row r) = key r)
    (hset : ∀ row row' r, set row (set row' r) = set row r) (hself : ∀ row, set row row = row)
    {rows t : List ρ} {r : ρ} (h : r ∈ upsertAll key set rows t) :
    assign key set rows r = r := by
  induction rows generalizing t with
  | nil => rfl
  | cons row rows ih =>
    have hrest : assign key set rows r = r := ih h
    change assign key set rows (if key r = key row then set row r else r) = r
    by_cases hrow : key r = key row
    · rw [if_pos hrow]
      by_cases hlater : ∃ row' ∈ rows, key r = key row'
      · rw [assign_set hkey hset hlater, hrest]
      · simp only [not_exists, not_and] at hlater
        have hmem : r ∈ upsert key row (set row) t := mem_of_mem_upsertAll hkey h hlater
        have hr : set row r = r :=
          set_of_mem_upsert (hset row row) (hself row) hmem hrow
        rw [hr, hrest]
    · rw [if_neg hrow, hrest]

/-- Writing the same rows again changes nothing. -/
theorem upsertAll_again (hkey : ∀ row r, key (set row r) = key r)
    (hset : ∀ row row' r, set row (set row' r) = set row r) (hself : ∀ row, set row row = row)
    (rows t : List ρ) :
    upsertAll key set rows (upsertAll key set rows t) = upsertAll key set rows t := by
  rw [upsertAll_eq_map hkey]
  · calc (upsertAll key set rows t).map (assign key set rows)
        = (upsertAll key set rows t).map id :=
          List.map_congr_left fun r hr => assign_of_mem_upsertAll hkey hset hself hr
      _ = upsertAll key set rows t := List.map_id _
  · intro row hrow
    exact find_upsertAll_isSome hkey (Or.inr ⟨row, hrow, rfl⟩)

end UpsertAll

end Table
