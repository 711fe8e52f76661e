import Headhunt.Lib.PyJsonText

/-! JSON values whose dicts keep their items in the order they came. -/
namespace Py

/-- Induction over a JSON value, with all elements of a list and all items of a dict at once. -/
theorem Json.induct {motive : Json → Prop}
    (scalar : ∀ v, (∀ elems, v ≠ .arr elems) → (∀ items, v ≠ .obj items) → motive v)
    (arr : ∀ elems, (∀ v ∈ elems, motive v) → motive (.arr elems))
    (obj : ∀ items : Dict, (∀ item ∈ items, motive item.2) → motive (.obj items)) (v : Json) :
    motive v :=
  match v with
  | .null => scalar _ nofun nofun
  | .bool _ => scalar _ nofun nofun
  | .int _ => scalar _ nofun nofun
  | .float _ => scalar _ nofun nofun
  | .str _ => scalar _ nofun nofun
  | .arr elems => arr elems fun v hv =>
    have := List.sizeOf_lt_of_mem hv
    Json.induct scalar arr obj v
  | .obj items => obj items fun item hitem =>
    have := List.sizeOf_lt_of_mem hitem
    have : sizeOf item.2 < sizeOf item := by
      cases item
      simp
    Json.induct scalar arr obj item.2
termination_by sizeOf v

namespace Dict

/-- `d[k] = v`: a new key comes last. -/
def assign (d : Dict) (k : String) (v : Json) : Dict :=
  match d with
  | [] => [(k, v)]
  | item :: d => if item.1 = k then (k, v) :: d else item :: assign d k v

theorem get?_assign (d : Dict) (k j : String) (v : Json) :
    (d.assign k v).get? j = if k = j then some v else d.get? j := by
  induction d with
  | nil => simp [assign, get?_cons]
  | cons item d ih =>
    simp only [assign]
    split_ifs with hitem hkey hkey
    · simp [get?_cons, hkey]
    · simp [get?_cons, hitem, hkey]
    · subst hkey
      simp [get?_cons, hitem, ih]
    · simp [get?_cons, ih, hkey]

/-- Assigning what is there already. -/
theorem assign_self {d : Dict} {k : String} {v : Json} (h : d.get? k = some v) :
    d.assign k v = d := by
  induction d with
  | nil => cases h
  | cons item d ih =>
    rw [get?_cons] at h
    simp only [assign]
    split_ifs at h ⊢ with hitem
    · rw [← hitem, ← Option.some.inj h]
    · rw [ih h]

theorem keys_assign (d : Dict) (k : String) (v : Json) :
    (d.assign k v).map (·.1) =
      if k ∈ d.map (·.1) then d.map (·.1) else d.map (·.1) ++ [k] := by
  induction d with
  | nil => rfl
  | cons item d ih =>
    simp only [assign]
    split_ifs with hitem hkey hkey
    · simp [hitem]
    · exact (hkey (by simp [hitem])).elim
    · have hmem : k ∈ d.map (·.1) := by
        rcases List.mem_cons.mp hkey with heq | hmem
        · exact (hitem heq.symm).elim
        · exact hmem
      rw [List.map_cons, ih, if_pos hmem, List.map_cons]
    · have hmem : k ∉ d.map (·.1) := fun hmem => hkey (List.mem_cons_of_mem _ hmem)
      rw [List.map_cons, ih, if_neg hmem, List.map_cons, List.cons_append]

theorem nodup_keys_assign {d : Dict} (h : (d.map (·.1)).Nodup) (k : String) (v : Json) :
    ((d.assign k v).map (·.1)).Nodup := by
  rw [keys_assign]
  split_ifs with hmem
  · exact h
  · refine List.nodup_append.mpr ⟨h, by simp, ?_⟩
    intro a ha b hb heq
    rw [List.mem_singleton.mp hb] at heq
    exact hmem (heq ▸ ha)

theorem mem_assign {d : Dict} {k : String} {v : Json} {item : String × Json}
    (h : item ∈ d.assign k v) : item = (k, v) ∨ item ∈ d := by
  induction d with
  | nil => exact .inl (List.mem_singleton.mp h)
  | cons first d ih =>
    simp only [assign] at h
    split_ifs at h
    · exact (List.mem_cons.mp h).imp_right (List.mem_cons_of_mem _)
    · rcases List.mem_cons.mp h with rfl | h
      · exact .inr List.mem_cons_self
      · exact (ih h).imp_right (List.mem_cons_of_mem _)

theorem get?_eq_none_iff {d : Dict} {k : String} : d.get? k = none ↔ k ∉ d.map (·.1) := by
  rw [mem_keys_iff, Option.not_isSome_iff_eq_none]

theorem mem_of_get? {d : Dict} {k : String} {v : Json} (h : d.get? k = some v) : (k, v) ∈ d := by
  obtain ⟨item, hfound, rfl⟩ := Option.map_eq_some_iff.mp h
  have hkey := List.find?_some hfound
  rw [← of_decide_eq_true hkey]
  exact List.mem_of_find?_eq_some hfound

/-- Dicts with the same keys in the same order and the same values. -/
theorem ext_of_keys {d e : Dict} (hkeys : d.map (·.1) = e.map (·.1))
    (hnodup : (d.map (·.1)).Nodup) (h : ∀ k, d.get? k = e.get? k) : d = e := by
  induction d generalizing e with
  | nil => exact (List.map_eq_nil_iff.mp hkeys.symm).symm
  | cons item d ih =>
    cases e with
    | nil => cases hkeys
    | cons item' e =>
      obtain ⟨hfirst, hrest⟩ := List.cons.inj hkeys
      obtain ⟨hnotin, hnodup⟩ := List.nodup_cons.mp hnodup
      dsimp only at hfirst
      have hvalue := h item.1
      simp only [get?_cons, hfirst, if_true] at hvalue
      have htail : d = e := by
        refine ih hrest hnodup fun k => ?_
        by_cases hk : item.1 = k
        · subst hk
          have hd : get? d item.1 = none := get?_eq_none_iff.mpr hnotin
          have he : get? e item.1 = none := get?_eq_none_iff.mpr (hrest ▸ hnotin)
          rw [hd, he]
        · have hother := h k
          rw [get?_cons, get?_cons, if_neg hk, ← hfirst, if_neg hk] at hother
          exact hother
      rw [htail, Prod.ext hfirst (Option.some.inj hvalue)]

end Dict
end Py
