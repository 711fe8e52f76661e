import Headhunt.Lib.PyJson
import Mathlib.Data.String.Basic

/-! `json.loads` gives back the value of `json.dumps`, for values without numbers. -/
namespace Py

theorem hex4_hexPair {n : Nat} (hn : n < 256) (rest : List Char) :
    hex4 ('0' :: '0' :: (hexPair n ++ rest)) = some (n, rest) := by
  have hdigit : ∀ d < 16, (Nat.digitChar d).toNat < 128 := by decide
  have hhigh : n / 16 < 16 := by omega
  have hlow : n % 16 < 16 := by omega
  have hvalue := (UUID.plain_hexDigit (n / 16) hhigh).2.2
  have hvalue' := (UUID.plain_hexDigit (n % 16) hlow).2.2
  have hzero : digitIn 16 '0' = some 0 := by decide
  simp only [hex4, hexPair, List.cons_append, List.nil_append, List.take_succ_cons, List.take_zero,
    List.length_cons, List.length_nil, List.foldlM_cons, List.foldlM_nil, hdigit _ hhigh,
    hdigit _ hlow, hvalue, hvalue', hzero, if_true, List.drop_succ_cons, List.drop_zero]
  simp
  omega

theorem scanString_escapeChar (c : Char) (fuel : Nat) (acc rest : List Char) :
    scanString (fuel + 1) acc (escapeChar c ++ rest) = scanString fuel (c :: acc) rest := by
  unfold escapeChar
  split
  · rfl
  · rfl
  · rfl
  · rfl
  · rfl
  · rfl
  · rfl
  · rename_i hquote hbackslash _ _ _ _ _
    split_ifs with hlow
    · have hhex := hex4_hexPair (n := c.toNat) (by omega) rest
      have hunicode : scanUnicode ('0' :: '0' :: (hexPair c.toNat ++ rest)) = some (c, rest) := by
        simp only [scanUnicode, hhex, bind, Option.bind]
        rw [if_neg (by omega), if_neg (by omega), Char.ofNat_toNat]
      have htext : "\\u00".toList ++ hexPair c.toNat ++ rest =
          '\\' :: 'u' :: '0' :: '0' :: (hexPair c.toNat ++ rest) := rfl
      rw [htext, scanString, hunicode]
    · rw [List.singleton_append, scanString.eq_def]
      simp only
      split
      · simp_all
      · simp_all
      · simp_all
      · simp_all
      · simp_all

theorem scanString_escaped (cs : List Char) (fuel : Nat) (acc rest : List Char) :
    scanString (fuel + cs.length) acc (cs.flatMap escapeChar ++ rest) =
      scanString fuel (cs.reverse ++ acc) rest := by
  induction cs generalizing acc with
  | nil => rfl
  | cons c cs ih =>
    rw [List.flatMap_cons, List.append_assoc, List.length_cons, ← Nat.add_assoc,
      scanString_escapeChar, ih]
    simp

theorem length_le_flatMap_escapeChar (cs : List Char) :
    cs.length ≤ (cs.flatMap escapeChar).length := by
  induction cs with
  | nil => simp
  | cons c cs ih =>
    have hne : 0 < (escapeChar c).length := by
      unfold escapeChar
      split
      all_goals first | decide | skip
      split_ifs
      · simp [hexPair]
      · simp
    simp only [List.flatMap_cons, List.length_append, List.length_cons]
    omega

/-- What follows the opening quote of a text. -/
theorem scanString_quote (s : String) (rest : List Char) :
    scanString (s.toList.flatMap escapeChar ++ '"' :: rest).length.succ []
      (s.toList.flatMap escapeChar ++ '"' :: rest) = .ok (s, rest) := by
  have hlen := length_le_flatMap_escapeChar s.toList
  obtain ⟨fuel, hfuel⟩ : ∃ fuel, (s.toList.flatMap escapeChar ++ '"' :: rest).length.succ =
      fuel + 1 + s.toList.length := by
    refine ⟨(s.toList.flatMap escapeChar ++ '"' :: rest).length - s.toList.length, ?_⟩
    simp only [List.length_append, List.length_cons]
    omega
  rw [hfuel, scanString_escaped, scanString]
  simp

theorem toList_quote (s : String) :
    (quote s).toList = '"' :: (s.toList.flatMap escapeChar ++ ['"']) := by
  simp [quote]

def Dict.Sorted (d : Dict) : Prop := (d.map (·.1)).Pairwise (· < ·)

mutual

def Json.Textual : Json → Prop
  | .int _ | .float _ => False
  | .arr elems => TextualElems elems
  | .obj items => Dict.Sorted items ∧ TextualItems items
  | _ => True

def TextualElems : List Json → Prop
  | [] => True
  | v :: vs => v.Textual ∧ TextualElems vs

def TextualItems : Dict → Prop
  | [] => True
  | (_, v) :: d => v.Textual ∧ TextualItems d

end

/-- A comma and a colon, with white space after them. -/
structure Separators.Readable (sep : Separators) : Prop where
  item : ∃ blank, sep.item.toList = ',' :: blank ∧ ∀ c ∈ blank, isJsonSpace c = true
  key : ∃ blank, sep.key.toList = ':' :: blank ∧ ∀ c ∈ blank, isJsonSpace c = true

theorem readable_compact : Separators.Readable .compact :=
  ⟨⟨[], rfl, by simp⟩, ⟨[], rfl, by simp⟩⟩

theorem skipSpace_blank {blank : List Char} (h : ∀ c ∈ blank, isJsonSpace c = true) {c : Char}
    (hc : isJsonSpace c = false) (cs : List Char) : skipSpace (blank ++ c :: cs) = c :: cs := by
  induction blank with
  | nil => simp [skipSpace, hc]
  | cons b blank ih =>
    have hb := h b List.mem_cons_self
    simpa [skipSpace, hb] using ih fun c hc => h c (List.mem_cons_of_mem b hc)

/-- A key above all others is put at the end. -/
theorem Dict.set_append {d : Dict} {k : String} (v : Json) (h : ∀ item ∈ d, item.1 < k) :
    d.set k v = d ++ [(k, v)] := by
  induction d with
  | nil => rfl
  | cons item d ih =>
    have hlt := h item List.mem_cons_self
    simp [Dict.set, hlt.ne', not_lt_of_gt hlt, ih fun i hi => h i (List.mem_cons_of_mem item hi)]

theorem scanValue_quote (fuel : Nat) (cs : List Char) : scanValue (fuel + 1) ('"' :: cs) =
    (scanString cs.length.succ [] cs).map fun r => (.str r.1, r.2) := rfl

theorem scanValue_bracket {fuel : Nat} {c : Char} {cs : List Char} (hspace : isJsonSpace c = false)
    (hc : c ≠ ']') : scanValue (fuel + 1) ('[' :: c :: cs) = scanElems fuel [] (c :: cs) := by
  have hskip : skipSpace (c :: cs) = c :: cs := by
    simp [skipSpace, hspace]
  rw [scanValue, hskip]
  split
  · rename_i heq
    exact absurd (List.cons.inj heq).1 hc
  · rfl

theorem scanValue_brace (fuel : Nat) (cs : List Char) :
    scanValue (fuel + 1) ('\x7b' :: '"' :: cs) = scanItems fuel [] ('"' :: cs) := rfl

theorem scanElems_comma {fuel : Nat} {acc : List Json} {cs rest : List Char} {v : Json}
    (h : scanValue fuel cs = .ok (v, ',' :: rest)) :
    scanElems (fuel + 1) acc cs = scanElems fuel (v :: acc) (skipSpace rest) := by
  rw [scanElems, h]
  rfl

theorem scanElems_bracket {fuel : Nat} {acc : List Json} {cs rest : List Char} {v : Json}
    (h : scanValue fuel cs = .ok (v, ']' :: rest)) :
    scanElems (fuel + 1) acc cs = .ok (.arr (v :: acc).reverse, rest) := by
  rw [scanElems, h]
  rfl

section Item

variable {fuel : Nat} {acc : Dict} {cs rest after : List Char} {k : String} {v : Json}

theorem scanItems_comma (hkey : scanString cs.length.succ [] cs = .ok (k, ':' :: rest))
    (hvalue : scanValue fuel (skipSpace rest) = .ok (v, ',' :: after)) :
    scanItems (fuel + 1) acc ('"' :: cs) = scanItems fuel (acc.set k v) (skipSpace after) := by
  change (scanString cs.length.succ [] cs >>= _) = _
  rw [hkey]
  change (scanValue fuel (skipSpace rest) >>= _) = _
  rw [hvalue]
  rfl

theorem scanItems_brace (hkey : scanString cs.length.succ [] cs = .ok (k, ':' :: rest))
    (hvalue : scanValue fuel (skipSpace rest) = .ok (v, '\x7d' :: after)) :
    scanItems (fuel + 1) acc ('"' :: cs) = .ok (.obj (acc.set k v), after) := by
  change (scanString cs.length.succ [] cs >>= _) = _
  rw [hkey]
  change (scanValue fuel (skipSpace rest) >>= _) = _
  rw [hvalue]
  rfl

end Item

section Text

variable (sep : Separators)

def elemsText (vs : List Json) : List Char :=
  sep.item.toList.intercalate ((dumpsElems sep vs).map String.toList)

def itemsText (d : Dict) : List Char :=
  sep.item.toList.intercalate ((dumpsItems sep d).map String.toList)

def itemText (k : String) (v : Json) : List Char :=
  (quote k).toList ++ (sep.key.toList ++ (dumps sep v).toList)

theorem toList_dumps_arr (vs : List Json) :
    (dumps sep (.arr vs)).toList = '[' :: (elemsText sep vs ++ [']']) := by
  simp [dumps, elemsText]

theorem toList_dumps_obj (d : Dict) :
    (dumps sep (.obj d)).toList = '\x7b' :: (itemsText sep d ++ ['\x7d']) := by
  simp [dumps, itemsText]

theorem elemsText_singleton (v : Json) : elemsText sep [v] = (dumps sep v).toList := by
  simp [elemsText, dumpsElems]

theorem elemsText_cons_cons (v w : Json) (vs : List Json) : elemsText sep (v :: w :: vs) =
    (dumps sep v).toList ++ (sep.item.toList ++ elemsText sep (w :: vs)) := by
  simp [elemsText, dumpsElems, List.intercalate_cons_cons]

theorem itemsText_singleton (k : String) (v : Json) :
    itemsText sep [(k, v)] = itemText sep k v := by
  simp [itemsText, itemText, dumpsItems]

theorem itemsText_cons_cons (k : String) (v : Json) (item : String × Json) (d : Dict) :
    itemsText sep ((k, v) :: item :: d) =
      itemText sep k v ++ (sep.item.toList ++ itemsText sep (item :: d)) := by
  obtain ⟨j, w⟩ := item
  simp [itemsText, itemText, dumpsItems, List.intercalate_cons_cons]

/-- A value's text begins with no white space and no closing bracket. -/
theorem dumps_head {v : Json} (h : v.Textual) : ∃ c cs, (dumps sep v).toList = c :: cs ∧
    isJsonSpace c = false ∧ c ≠ ']' := by
  cases v with
  | null => exact ⟨'n', "ull".toList, by rw [dumps]; rfl, by decide, by decide⟩
  | bool b =>
    cases b
    · exact ⟨'f', "alse".toList, by rw [dumps]; rfl, by decide, by decide⟩
    · exact ⟨'t', "rue".toList, by rw [dumps]; rfl, by decide, by decide⟩
  | str s => exact ⟨'"', _, toList_quote s, by decide, by decide⟩
  | arr vs => exact ⟨'[', _, toList_dumps_arr sep vs, by decide, by decide⟩
  | obj d => exact ⟨'\x7b', _, toList_dumps_obj sep d, by decide, by decide⟩
  | int n => exact h.elim
  | float x => exact h.elim

variable {sep}

omit sep in
theorem Dict.Sorted.lt_of_append {acc d : Dict} {k : String} {v : Json}
    (h : Dict.Sorted (acc ++ (k, v) :: d)) : ∀ item ∈ acc, item.1 < k := by
  intro item hitem
  unfold Dict.Sorted at h
  rw [List.map_append, List.pairwise_append] at h
  exact h.2.2 item.1 (List.mem_map_of_mem hitem) k (by simp)

theorem elemsText_head {v : Json} (h : v.Textual) (vs : List Json) : ∃ c cs,
    elemsText sep (v :: vs) = c :: cs ∧ isJsonSpace c = false ∧ c ≠ ']' := by
  obtain ⟨c, cs, htext, hspace, hc⟩ := dumps_head sep h
  cases vs with
  | nil => exact ⟨c, cs, (elemsText_singleton sep v).trans htext, hspace, hc⟩
  | cons w vs =>
    refine ⟨c, cs ++ (sep.item.toList ++ elemsText sep (w :: vs)), ?_, hspace, hc⟩
    rw [elemsText_cons_cons, htext, List.cons_append]

theorem itemText_eq (k : String) (v : Json) : itemText sep k v =
    '"' :: (k.toList.flatMap escapeChar ++ '"' :: (sep.key.toList ++ (dumps sep v).toList)) := by
  simp [itemText, toList_quote]

theorem itemsText_head (k : String) (v : Json) (d : Dict) : ∃ cs,
    itemsText sep ((k, v) :: d) = '"' :: cs := by
  cases d with
  | nil =>
    rw [itemsText_singleton, itemText_eq]
    exact ⟨_, rfl⟩
  | cons item d =>
    rw [itemsText_cons_cons, itemText_eq]
    exact ⟨_, rfl⟩

/-- The value of an item is scanned after its key, the colon and white space. -/
theorem scanValue_of_key {blank tail : List Char} (hblank : ∀ c ∈ blank, isJsonSpace c = true)
    {v : Json} (hv : v.Textual) {fuel : Nat}
    (h : scanValue fuel ((dumps sep v).toList ++ tail) = .ok (v, tail)) :
    scanValue fuel (skipSpace (blank ++ ((dumps sep v).toList ++ tail))) = .ok (v, tail) := by
  obtain ⟨c, cs, htext, hspace, _⟩ := dumps_head sep hv
  rw [htext, List.cons_append] at h ⊢
  rw [skipSpace_blank hblank hspace]
  exact h

mutual

/-- A value is scanned up to the end of its text. -/
theorem scanValue_dumps (hsep : sep.Readable) : ∀ (v : Json), v.Textual → ∀ (fuel : Nat)
    (rest : List Char), 2 * (dumps sep v).toList.length ≤ fuel →
    scanValue fuel ((dumps sep v).toList ++ rest) = .ok (v, rest)
  | .null, _, 0, _, hfuel | .bool true, _, 0, _, hfuel | .bool false, _, 0, _, hfuel => by
    rw [dumps] at hfuel
    exact absurd hfuel (by decide)
  | .null, _, _ + 1, _, _ | .bool true, _, _ + 1, _, _ | .bool false, _, _ + 1, _, _ => by
    rw [dumps]
    rfl
  | .int n, h, _, _, _ => h.elim
  | .float x, h, _, _, _ => h.elim
  | .str s, _, fuel, rest, hfuel => by
    rw [dumps, toList_quote] at hfuel ⊢
    obtain ⟨fuel, rfl⟩ : ∃ n, fuel = n + 1 := ⟨fuel - 1, by simp at hfuel; omega⟩
    rw [List.cons_append, List.append_assoc, List.singleton_append, scanValue_quote,
      scanString_quote]
    rfl
  | .arr vs, h, fuel, rest, hfuel => by
    rw [toList_dumps_arr] at hfuel ⊢
    simp only [List.length_cons, List.length_append, List.length_nil] at hfuel
    obtain ⟨fuel, rfl⟩ : ∃ n, fuel = n + 1 := ⟨fuel - 1, by omega⟩
    rw [List.cons_append, List.append_assoc, List.singleton_append]
    cases vs with
    | nil => rfl
    | cons v vs =>
      rw [Json.Textual] at h
      have helems := scanElems_elemsText hsep (v :: vs) (by simp) h fuel [] rest (by omega)
      obtain ⟨c, cs, htext, hspace, hc⟩ := @elemsText_head sep v h.1 vs
      rw [htext, List.cons_append] at helems ⊢
      rw [scanValue_bracket hspace hc, helems]
      rfl
  | .obj d, h, fuel, rest, hfuel => by
    rw [toList_dumps_obj] at hfuel ⊢
    simp only [List.length_cons, List.length_append, List.length_nil] at hfuel
    obtain ⟨fuel, rfl⟩ : ∃ n, fuel = n + 1 := ⟨fuel - 1, by omega⟩
    rw [List.cons_append, List.append_assoc, List.singleton_append]
    cases d with
    | nil => rfl
    | cons item d =>
      obtain ⟨k, v⟩ := item
      rw [Json.Textual] at h
      have hitems := scanItems_itemsText hsep ((k, v) :: d) (by simp) h.2 [] h.1 fuel rest (by omega)
      obtain ⟨cs, htext⟩ := @itemsText_head sep k v d
      rw [htext, List.cons_append] at hitems ⊢
      rw [scanValue_brace, hitems]
      rfl

/-- The elements after those already read. -/
theorem scanElems_elemsText (hsep : sep.Readable) : ∀ (vs : List Json), vs ≠ [] →
    TextualElems vs → ∀ (fuel : Nat) (acc : List Json) (rest : List Char),
    2 * (elemsText sep vs).length + 1 ≤ fuel →
    scanElems fuel acc (elemsText sep vs ++ ']' :: rest) = .ok (.arr (acc.reverse ++ vs), rest)
  | [], hne, _, _, _, _, _ => (hne rfl).elim
  | [v], _, h, fuel, acc, rest, hfuel => by
    rw [elemsText_singleton] at hfuel ⊢
    obtain ⟨fuel, rfl⟩ : ∃ n, fuel = n + 1 := ⟨fuel - 1, by omega⟩
    rw [scanElems_bracket (scanValue_dumps hsep v h.1 fuel _ (by omega))]
    simp
  | v :: w :: vs, _, h, fuel, acc, rest, hfuel => by
    obtain ⟨blank, hitem, hblank⟩ := hsep.item
    rw [elemsText_cons_cons, hitem] at hfuel ⊢
    simp only [List.length_cons, List.length_append] at hfuel
    obtain ⟨fuel, rfl⟩ : ∃ n, fuel = n + 1 := ⟨fuel - 1, by omega⟩
    obtain ⟨c, cs, htext, hspace, _⟩ := @elemsText_head sep w h.2.1 vs
    have hvalue := scanValue_dumps hsep v h.1 fuel
      (',' :: (blank ++ (elemsText sep (w :: vs) ++ ']' :: rest))) (by omega)
    have hskip : skipSpace (blank ++ (elemsText sep (w :: vs) ++ ']' :: rest)) =
        elemsText sep (w :: vs) ++ ']' :: rest := by
      rw [htext, List.cons_append]
      exact skipSpace_blank hblank hspace _
    have hrest := scanElems_elemsText hsep (w :: vs) (by simp) h.2 fuel (v :: acc) rest (by omega)
    simp only [List.append_assoc, List.cons_append]
    rw [scanElems_comma hvalue, hskip, hrest]
    simp

/-- The items after those already read, whose keys are smaller. -/
theorem scanItems_itemsText (hsep : sep.Readable) : ∀ (d : Dict), d ≠ [] →
    TextualItems d → ∀ (acc : Dict), Dict.Sorted (acc ++ d) → ∀ (fuel : Nat) (rest : List Char),
    2 * (itemsText sep d).length + 1 ≤ fuel →
    scanItems fuel acc (itemsText sep d ++ '\x7d' :: rest) = .ok (.obj (acc ++ d), rest)
  | [], hne, _ => (hne rfl).elim
  | [(k, v)], _, h => by
    intro acc hsorted fuel rest hfuel
    obtain ⟨blank, hkey, hblank⟩ := hsep.key
    rw [itemsText_singleton, itemText_eq, hkey] at hfuel ⊢
    simp only [List.length_cons, List.length_append] at hfuel
    obtain ⟨fuel, rfl⟩ : ∃ n, fuel = n + 1 := ⟨fuel - 1, by omega⟩
    have hvalue := scanValue_of_key hblank h.1
      (scanValue_dumps hsep v h.1 fuel ('\x7d' :: rest) (by omega))
    simp only [List.cons_append, List.append_assoc]
    rw [scanItems_brace (scanString_quote k _) hvalue, Dict.set_append v hsorted.lt_of_append]
  | (k, v) :: item :: d, _, h => by
    intro acc hsorted fuel rest hfuel
    obtain ⟨blank, hkey, hblank⟩ := hsep.key
    obtain ⟨blank', hitem, hblank'⟩ := hsep.item
    rw [itemsText_cons_cons, itemText_eq, hkey, hitem] at hfuel ⊢
    simp only [List.length_cons, List.length_append] at hfuel
    obtain ⟨fuel, rfl⟩ : ∃ n, fuel = n + 1 := ⟨fuel - 1, by omega⟩
    have hvalue := scanValue_of_key hblank h.1 (scanValue_dumps hsep v h.1 fuel
      (',' :: (blank' ++ (itemsText sep (item :: d) ++ '\x7d' :: rest))) (by omega))
    have hskip : skipSpace (blank' ++ (itemsText sep (item :: d) ++ '\x7d' :: rest)) =
        itemsText sep (item :: d) ++ '\x7d' :: rest := by
      obtain ⟨cs, htext⟩ := @itemsText_head sep item.1 item.2 d
      rw [htext, List.cons_append]
      exact skipSpace_blank hblank' (by decide) _
    have hsorted' : Dict.Sorted ((acc ++ [(k, v)]) ++ item :: d) := by simpa using hsorted
    have hrest := scanItems_itemsText hsep (item :: d) (by simp) h.2 (acc ++ [(k, v)]) hsorted' fuel
      rest (by omega)
    simp only [List.cons_append, List.append_assoc] at hrest ⊢
    rw [scanItems_comma (scanString_quote k _) hvalue, Dict.set_append v hsorted.lt_of_append, hskip,
      hrest]
    rfl

end

/-- What has been dumped is loaded again. -/
theorem loads_dumps (hsep : sep.Readable) {v : Json} (hv : v.Textual) :
    loads (dumps sep v) = .ok v := by
  obtain ⟨c, cs, htext, hspace, _⟩ := dumps_head sep hv
  have hskip : skipSpace (dumps sep v).toList = (dumps sep v).toList := by
    rw [htext]
    simp [skipSpace, hspace]
  have hscan := scanValue_dumps hsep v hv (2 * (dumps sep v).toList.length + 2) [] (by omega)
  rw [List.append_nil] at hscan
  simp only [loads, hskip, hscan, bind, Except.bind]
  rfl

end Text

namespace Dict

theorem mem_set {d : Dict} {k : String} {v : Json} {item : String × Json} (h : item ∈ d.set k v) :
    item = (k, v) ∨ item ∈ d := by
  induction d with
  | nil => exact .inl (List.mem_singleton.mp h)
  | cons first d ih =>
    obtain ⟨k', v'⟩ := first
    simp only [set] at h
    split_ifs at h
    · exact (List.mem_cons.mp h).imp_right (List.mem_cons_of_mem _)
    · exact List.mem_cons.mp h
    · rcases List.mem_cons.mp h with rfl | h
      · exact .inr List.mem_cons_self
      · exact (ih h).imp_right (List.mem_cons_of_mem _)

theorem Sorted.set {d : Dict} (h : Sorted d) (k : String) (v : Json) : Sorted (d.set k v) := by
  induction d with
  | nil => exact List.pairwise_singleton _ _
  | cons first d ih =>
    obtain ⟨k', v'⟩ := first
    obtain ⟨hfirst, hd⟩ := List.pairwise_cons.mp h
    simp only [Dict.set]
    split_ifs with heq hlt
    · subst heq
      exact h
    · refine List.pairwise_cons.mpr ⟨?_, h⟩
      intro j hj
      rcases List.mem_cons.mp hj with rfl | hj
      · exact hlt
      · exact hlt.trans (hfirst j hj)
    · refine List.pairwise_cons.mpr ⟨?_, ih hd⟩
      intro j hj
      obtain ⟨item, hitem, rfl⟩ := List.mem_map.mp hj
      rcases mem_set hitem with rfl | hitem
      · exact lt_of_le_of_ne (not_lt.mp hlt) (Ne.symm heq)
      · exact hfirst _ (List.mem_map_of_mem hitem)

theorem Sorted.merge {d : Dict} (h : Sorted d) (items : Dict) : Sorted (d.merge items) := by
  induction items generalizing d with
  | nil => exact h
  | cons item items ih => exact ih (h.set item.1 item.2)

theorem mem_merge {d items : Dict} {item : String × Json} (h : item ∈ d.merge items) :
    item ∈ d ∨ item ∈ items := by
  induction items generalizing d with
  | nil => exact .inl h
  | cons first items ih =>
    rcases ih h with h | h
    · rcases mem_set h with rfl | h
      · exact .inr List.mem_cons_self
      · exact .inl h
    · exact .inr (List.mem_cons_of_mem _ h)

theorem Sorted.nodup {d : Dict} (h : Sorted d) : (d.map (·.1)).Nodup := h.imp ne_of_lt

theorem mem_keys_iff {d : Dict} {k : String} : k ∈ d.map (·.1) ↔ (d.get? k).isSome := by
  simp [get?]

/-- The keys of the items, when each comes once. -/
theorem keys_ofList {items : Dict} (h : (items.map (·.1)).Nodup) :
    ((ofList items).map (·.1)).Perm (items.map (·.1)) := by
  have hnil : Dict.Sorted [] := List.Pairwise.nil
  refine (List.perm_ext_iff_of_nodup (hnil.merge items).nodup h).mpr fun k => ?_
  have hreverse : k ∈ items.map (·.1) ↔ k ∈ (items.reverse).map (·.1) := by
    rw [List.map_reverse, List.mem_reverse]
  have hget : (merge [] items).get? k = get? items.reverse k := by
    rw [get?_merge, get?_nil, Option.or_none]
  rw [hreverse, mem_keys_iff, mem_keys_iff, hget]

end Dict

theorem textualItems_iff {d : Dict} : TextualItems d ↔ ∀ item ∈ d, item.2.Textual := by
  induction d with
  | nil => simp [TextualItems]
  | cons item d ih => simp [TextualItems, ih]

theorem textual_ofList {items : Dict} (h : ∀ item ∈ items, item.2.Textual) :
    (Json.obj (Dict.ofList items)).Textual := by
  have hnil : Dict.Sorted [] := List.Pairwise.nil
  refine ⟨hnil.merge items, textualItems_iff.mpr ?_⟩
  intro item hitem
  rcases Dict.mem_merge hitem with hitem | hitem
  · cases hitem
  · exact h item hitem

theorem textual_set {d : Dict} (h : (Json.obj d).Textual) (k : String) {v : Json}
    (hv : v.Textual) : (Json.obj (d.set k v)).Textual := by
  obtain ⟨hsorted, hitems⟩ := h
  refine ⟨hsorted.set k v, textualItems_iff.mpr ?_⟩
  intro item hitem
  rcases Dict.mem_set hitem with rfl | hitem
  · exact hv
  · exact textualItems_iff.mp hitems item hitem

@[simp] theorem textual_str (s : String) : (Json.str s).Textual := trivial

@[simp] theorem textual_bool (b : Bool) : (Json.bool b).Textual := trivial

@[simp] theorem textual_null : Json.null.Textual := trivial

@[simp] theorem textual_optionalText (text : Option String) : (optionalText text).Textual := by
  cases text <;> trivial

@[simp] theorem textual_texts (texts : List String) : (Json.arr (texts.map .str)).Textual := by
  change TextualElems _
  induction texts with
  | nil => trivial
  | cons text texts ih => exact ⟨trivial, ih⟩

theorem dumps_injective (hsep : sep.Readable) {v w : Json} (hv : v.Textual) (hw : w.Textual)
    (h : dumps sep v = dumps sep w) : v = w := by
  have hload := loads_dumps hsep hv
  rw [h, loads_dumps hsep hw] at hload
  exact (Except.ok.inj hload).symm

/-- A text is its UTF-8 bytes, decoded. -/
theorem fromUTF8_toUTF8 (s : String) : String.fromUTF8? s.toUTF8 = some s := by
  have hvalid : s.toUTF8.IsValidUTF8 := s.isValidUTF8
  exact dif_pos hvalid

theorem toUTF8_of_fromUTF8 {data : ByteArray} {s : String} (h : String.fromUTF8? data = some s) :
    s.toUTF8 = data := by
  unfold String.fromUTF8? at h
  split_ifs at h
  obtain rfl := Option.some.inj h
  rfl

theorem toUTF8_injective : Function.Injective String.toUTF8 := by
  intro s t h
  have hdecoded := fromUTF8_toUTF8 s
  rw [h, fromUTF8_toUTF8] at hdecoded
  exact (Option.some.inj hdecoded).symm

end Py
