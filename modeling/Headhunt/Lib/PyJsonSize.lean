import Headhunt.Lib.PyJson
import Headhunt.Lib.Result

/-! The texts `json.loads` finds in a text are shorter than it. -/
namespace Py

mutual

/-- Every text in the value is shorter than `n`; the keys of its dicts do not count. -/
def Json.Below (n : Nat) : Json → Prop
  | .str s => s.length < n
  | .arr elems => BelowElems n elems
  | .obj items => BelowItems n items
  | _ => True

def BelowElems (n : Nat) : List Json → Prop
  | [] => True
  | v :: vs => v.Below n ∧ BelowElems n vs

def BelowItems (n : Nat) : Dict → Prop
  | [] => True
  | (_, v) :: d => v.Below n ∧ BelowItems n d

end

variable {n : Nat}

theorem belowElems_iff {vs : List Json} : BelowElems n vs ↔ ∀ v ∈ vs, v.Below n := by
  induction vs with
  | nil => simp [BelowElems]
  | cons v vs ih => simp [BelowElems, ih]

theorem BelowItems.set {d : Dict} {k : String} {v : Json} (hd : BelowItems n d) (hv : v.Below n) :
    BelowItems n (d.set k v) := by
  induction d with
  | nil => exact ⟨hv, trivial⟩
  | cons item d ih =>
    obtain ⟨k', v'⟩ := item
    obtain ⟨hv', hd⟩ := hd
    simp only [Dict.set]
    split_ifs
    · exact ⟨hv, hd⟩
    · exact ⟨hv, hv', hd⟩
    · exact ⟨hv', ih hd⟩

theorem length_dropWhile_le {α : Type*} (p : α → Bool) (cs : List α) :
    (cs.dropWhile p).length ≤ cs.length :=
  (List.dropWhile_suffix p).length_le

theorem length_skipSpace_le (cs : List Char) : (skipSpace cs).length ≤ cs.length :=
  length_dropWhile_le isJsonSpace cs

theorem hex4_length {cs rest : List Char} {n : Nat} (h : hex4 cs = some (n, rest)) :
    rest.length < cs.length := by
  unfold hex4 at h
  split_ifs at h with hfour
  obtain ⟨_, _, hpair⟩ := Option.map_eq_some_iff.mp h
  obtain rfl := (Prod.mk.inj hpair).2
  rw [List.length_take] at hfour
  rw [List.length_drop]
  omega

theorem scanUnicode_length {cs rest : List Char} {c : Char} (h : scanUnicode cs = some (c, rest)) :
    rest.length < cs.length := by
  unfold scanUnicode at h
  obtain ⟨⟨n, low⟩, hhex, h⟩ := Option.bind_eq_some_iff.mp h
  have hlow := hex4_length hhex
  dsimp only at h
  split_ifs at h with hhigh hpair
  · split at h
    · obtain ⟨⟨m, last⟩, hhex', h⟩ := Option.bind_eq_some_iff.mp h
      have hlast := hex4_length hhex'
      dsimp only at h
      split_ifs at h
      obtain rfl := (Prod.mk.inj (Option.some.inj h)).2
      simp only [List.length_cons] at hlow
      omega
    · cases h
  · obtain rfl := (Prod.mk.inj (Option.some.inj h)).2
    exact hlow

/-- Every character of the text has taken one at least, and so has the quote. -/
theorem scanString_length {fuel : Nat} {acc cs rest : List Char} {s : String}
    (h : scanString fuel acc cs = .ok (s, rest)) :
    s.length + rest.length < acc.length + cs.length := by
  induction fuel generalizing acc cs with
  | zero => cases h
  | succ fuel ih =>
    unfold scanString at h
    split at h
    · cases h
    · obtain ⟨rfl, rfl⟩ := Prod.mk.inj (Except.ok.inj h)
      simp only [String.length_ofList, List.length_reverse, List.length_cons]
      omega
    · split at h
      · rename_i c low hunicode
        have hlow := scanUnicode_length hunicode
        have hlength := ih h
        simp only [List.length_cons] at hlength ⊢
        omega
      · cases h
    · split at h
      · have hlength := ih h
        simp only [List.length_cons] at hlength ⊢
        omega
      · cases h
    · split_ifs at h
      have hlength := ih h
      simp only [List.length_cons] at hlength ⊢
      omega

theorem scanExponent_length {cs rest : List Char} {n : Int}
    (h : scanExponent cs = some (n, rest)) : rest.length ≤ cs.length := by
  unfold scanExponent at h
  split at h
  rename_i neg body hsplit
  have hbody : body.length ≤ cs.length := by
    split at hsplit
    · obtain rfl := (Prod.mk.inj hsplit).2
      simp
    · obtain rfl := (Prod.mk.inj hsplit).2
      simp
    · obtain rfl := (Prod.mk.inj hsplit).2
      exact le_rfl
  dsimp only at h
  split_ifs at h
  · obtain rfl := (Prod.mk.inj (Option.some.inj h)).2
    exact (length_dropWhile_le isDigit body).trans hbody
  · obtain rfl := (Prod.mk.inj (Option.some.inj h)).2
    exact (length_dropWhile_le isDigit body).trans hbody

theorem scanConstant_length {cs rest : List Char} {v : Json}
    (h : scanConstant cs = some (v, rest)) : v.Below n ∧ rest.length ≤ cs.length := by
  obtain ⟨c, hc, hpair⟩ := Option.map_eq_some_iff.mp h
  obtain ⟨rfl, rfl⟩ := Prod.mk.inj hpair
  have hmem := List.mem_of_find?_eq_some hc
  simp only [constants, List.mem_cons, List.not_mem_nil, or_false] at hmem
  constructor
  · rcases hmem with rfl | rfl | rfl | rfl | rfl | rfl <;> trivial
  · rw [List.length_drop]
    omega

/-- The sign, the fraction and the exponent of a number are dropped one after the other. -/
theorem scanNumber_length {cs rest : List Char} {v : Json}
    (h : scanNumber cs = .ok (v, rest)) : v.Below n ∧ rest.length ≤ cs.length := by
  unfold scanNumber at h
  split at h
  rename_i neg body hsplit
  have hbody : body.length ≤ cs.length := by
    split at hsplit
    · obtain rfl := (Prod.mk.inj hsplit).2
      simp
    · obtain rfl := (Prod.mk.inj hsplit).2
      exact le_rfl
  extract_lets whole afterWhole fraction afterFraction exponent at h
  have hwhole : afterWhole.length ≤ cs.length := (List.drop_suffix _ _).length_le.trans hbody
  have hfraction : afterFraction.length ≤ cs.length := by
    unfold afterFraction
    split
    · exact hwhole
    · exact (List.drop_suffix _ _).length_le.trans hwhole
  clear_value afterFraction
  have hexponent : ∀ found ∈ exponent, found.2.length ≤ cs.length := by
    intro found hfound
    unfold exponent at hfound
    split at hfound
    · have hlast := scanExponent_length (Option.mem_def.mp hfound)
      rw [List.length_cons] at hfraction
      omega
    · have hlast := scanExponent_length (Option.mem_def.mp hfound)
      rw [List.length_cons] at hfraction
      omega
    · cases hfound
  clear_value exponent
  split at h
  · cases h
  · split at h
    · split at h
      · cases h
      · obtain ⟨rfl, rfl⟩ := Prod.mk.inj (Except.ok.inj h)
        exact ⟨trivial, hfraction⟩
    · cases exponent with
      | none =>
        obtain ⟨rfl, rfl⟩ := Prod.mk.inj (Except.ok.inj h)
        exact ⟨trivial, hfraction⟩
      | some found =>
        obtain ⟨rfl, rfl⟩ := Prod.mk.inj (Except.ok.inj h)
        exact ⟨trivial, hexponent found rfl⟩

/-- Scanning `fuel` deep leaves no more than there was, and finds texts shorter than that. -/
structure ScansBelow (fuel : Nat) : Prop where
  value : ∀ {cs v rest}, cs.length ≤ n → scanValue fuel cs = .ok (v, rest) →
    v.Below n ∧ rest.length ≤ cs.length
  elems : ∀ {acc cs v rest}, cs.length ≤ n → BelowElems n acc →
    scanElems fuel acc cs = .ok (v, rest) → v.Below n ∧ rest.length ≤ cs.length
  items : ∀ {acc cs v rest}, cs.length ≤ n → BelowItems n acc →
    scanItems fuel acc cs = .ok (v, rest) → v.Below n ∧ rest.length ≤ cs.length

section Step

variable {fuel : Nat} {cs rest : List Char} {v : Json}

theorem ScansBelow.step_value (h : @ScansBelow n fuel) (hcs : cs.length ≤ n)
    (hscan : scanValue (fuel + 1) cs = .ok (v, rest)) : v.Below n ∧ rest.length ≤ cs.length := by
  have hnoElems : BelowElems n [] := trivial
  have hnoItems : BelowItems n [] := trivial
  unfold scanValue at hscan
  split at hscan
  · rename_i cs
    obtain ⟨⟨s, last⟩, hstring, hpair⟩ := Except.map_eq_ok.mp hscan
    obtain ⟨rfl, rfl⟩ := Prod.mk.inj hpair
    have hlength := scanString_length hstring
    simp only [List.length_nil, Nat.zero_add, List.length_cons] at hlength hcs ⊢
    constructor
    · change s.length < n
      omega
    · omega
  · rename_i cs
    have hskip := length_skipSpace_le cs
    rw [List.length_cons] at hcs ⊢
    split at hscan
    · rename_i last hlast
      obtain ⟨rfl, rfl⟩ := Prod.mk.inj (Except.ok.inj hscan)
      rw [hlast, List.length_cons] at hskip
      exact ⟨hnoElems, by omega⟩
    · obtain ⟨hv, hrest⟩ := h.elems (by omega) hnoElems hscan
      exact ⟨hv, by omega⟩
  · rename_i cs
    have hskip := length_skipSpace_le cs
    rw [List.length_cons] at hcs ⊢
    split at hscan
    · rename_i last hlast
      obtain ⟨rfl, rfl⟩ := Prod.mk.inj (Except.ok.inj hscan)
      rw [hlast, List.length_cons] at hskip
      exact ⟨hnoItems, by omega⟩
    · obtain ⟨hv, hrest⟩ := h.items (by omega) hnoItems hscan
      exact ⟨hv, by omega⟩
  · split at hscan
    · rename_i r hconstant
      obtain rfl := Except.ok.inj hscan
      exact scanConstant_length hconstant
    · exact scanNumber_length hscan

theorem ScansBelow.step_elems (h : @ScansBelow n fuel) {acc : List Json} (hcs : cs.length ≤ n)
    (hacc : BelowElems n acc) (hscan : scanElems (fuel + 1) acc cs = .ok (v, rest)) :
    v.Below n ∧ rest.length ≤ cs.length := by
  unfold scanElems at hscan
  obtain ⟨⟨w, after⟩, hvalue, hscan⟩ := Except.bind_eq_ok.mp hscan
  obtain ⟨hw, hafter⟩ := h.value hcs hvalue
  have hskip := length_skipSpace_le after
  have hmore : BelowElems n (w :: acc) := ⟨hw, hacc⟩
  dsimp only at hscan
  split at hscan
  · rename_i last hlast
    rw [hlast, List.length_cons] at hskip
    have hskip' := length_skipSpace_le last
    obtain ⟨hv, hrest⟩ := h.elems (by omega) hmore hscan
    exact ⟨hv, by omega⟩
  · rename_i last hlast
    obtain ⟨rfl, rfl⟩ := Prod.mk.inj (Except.ok.inj hscan)
    rw [hlast, List.length_cons] at hskip
    refine ⟨belowElems_iff.mpr ?_, by omega⟩
    intro u hu
    exact belowElems_iff.mp hmore u (List.mem_reverse.mp hu)
  · cases hscan

theorem ScansBelow.step_items (h : @ScansBelow n fuel) {acc : Dict} (hcs : cs.length ≤ n)
    (hacc : BelowItems n acc) (hscan : scanItems (fuel + 1) acc cs = .ok (v, rest)) :
    v.Below n ∧ rest.length ≤ cs.length := by
  unfold scanItems at hscan
  split at hscan
  · rename_i cs
    rw [List.length_cons] at hcs ⊢
    obtain ⟨⟨k, afterKey⟩, hkey, hscan⟩ := Except.bind_eq_ok.mp hscan
    have hkeyLength := scanString_length hkey
    rw [List.length_nil] at hkeyLength
    have hcolon := length_skipSpace_le afterKey
    dsimp only at hscan
    split at hscan
    · rename_i afterColon heq
      rw [heq, List.length_cons] at hcolon
      have hskip := length_skipSpace_le afterColon
      obtain ⟨⟨w, after⟩, hvalue, hscan⟩ := Except.bind_eq_ok.mp hscan
      obtain ⟨hw, hafter⟩ := h.value (by omega) hvalue
      have hend := length_skipSpace_le after
      have hmore : BelowItems n (acc.set k w) := hacc.set hw
      dsimp only at hscan
      split at hscan
      · rename_i last hlast
        rw [hlast, List.length_cons] at hend
        have hnext := length_skipSpace_le last
        obtain ⟨hv, hrest⟩ := h.items (by omega) hmore hscan
        exact ⟨hv, by omega⟩
      · rename_i last hlast
        obtain ⟨rfl, rfl⟩ := Prod.mk.inj (Except.ok.inj hscan)
        rw [hlast, List.length_cons] at hend
        exact ⟨hmore, by omega⟩
      · cases hscan
    · cases hscan
  · cases hscan

end Step

theorem scansBelow (fuel : Nat) : @ScansBelow n fuel := by
  induction fuel with
  | zero =>
    constructor
    · intro cs v rest _ hscan
      cases hscan
    · intro acc cs v rest _ _ hscan
      cases hscan
    · intro acc cs v rest _ _ hscan
      cases hscan
  | succ fuel ih =>
    constructor
    · exact ih.step_value
    · exact ih.step_elems
    · exact ih.step_items

/-- What `json.loads` finds in a text is shorter than the text. -/
theorem below_of_loads {text : String} {v : Json} (h : loads text = .ok v) :
    v.Below text.length := by
  obtain ⟨⟨w, rest⟩, hscan, h⟩ := Except.bind_eq_ok.mp h
  have hskip : (skipSpace text.toList).length ≤ text.length :=
    (length_skipSpace_le text.toList).trans (by rw [String.length_toList])
  dsimp only at h
  split_ifs at h
  obtain rfl := Except.ok.inj h
  exact ((scansBelow _).value hskip hscan).1

end Py
