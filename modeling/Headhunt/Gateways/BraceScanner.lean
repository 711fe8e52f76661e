import Headhunt.Lib.JsonGrammar
import Mathlib.Tactic.Linarith

/-! `_extract_first_json_object_text`: the scan for the first object in the answer of a model.
Within a serialised object the scanner is never back at depth 0. -/
namespace Headhunt.Gateways
open Py

/-- The loop over the characters from the first brace on; those seen are kept in reverse. -/
def scanBraces (depth : Int) (inString escaped : Bool) (seen : List Char) :
    List Char → Option (List Char)
  | [] => none
  | char :: text =>
    if inString then
      if escaped then scanBraces depth true false (char :: seen) text
      else if char = '\\' then scanBraces depth true true (char :: seen) text
      else if char = '"' then scanBraces depth false false (char :: seen) text
      else scanBraces depth true false (char :: seen) text
    else if char = '"' then scanBraces depth true escaped (char :: seen) text
    else if char = '\x7b' then scanBraces (depth + 1) false escaped (char :: seen) text
    else if char = '\x7d' then
      if depth - 1 = 0 then some (char :: seen).reverse
      else scanBraces (depth - 1) false escaped (char :: seen) text
    else scanBraces depth false escaped (char :: seen) text

def extractFirstJsonObjectText (text : String) : Option String :=
  (scanBraces 0 false false [] (text.toList.dropWhile (· ≠ '\x7b'))).map String.ofList

theorem scanBraces_append {depth : Int} {inString escaped : Bool} {seen text found : List Char}
    (h : scanBraces depth inString escaped seen text = some found) (after : List Char) :
    scanBraces depth inString escaped seen (text ++ after) = some found := by
  induction text generalizing depth inString escaped seen with
  | nil => cases h
  | cons char text ih =>
    rw [List.cons_append]
    unfold scanBraces at h ⊢
    split_ifs at h ⊢
    all_goals first | exact ih h | exact h

/-- What is found lies within what was scanned. -/
theorem scanBraces_length {depth : Int} {inString escaped : Bool} {seen text found : List Char}
    (h : scanBraces depth inString escaped seen text = some found) :
    found.length ≤ seen.length + text.length := by
  induction text generalizing depth inString escaped seen with
  | nil => cases h
  | cons char text ih =>
    rw [List.length_cons]
    have hmore : ∀ {depth : Int} {inString escaped : Bool},
        scanBraces depth inString escaped (char :: seen) text = some found →
        found.length ≤ seen.length + (text.length + 1) := by
      intro depth inString escaped h
      have hlength := ih h
      rw [List.length_cons] at hlength
      omega
    unfold scanBraces at h
    split_ifs at h
    all_goals first
      | exact hmore h
      | obtain rfl := Option.some.inj h
        rw [List.length_reverse, List.length_cons]
        omega

/-- Inside an object the text is passed over: the depth comes back and no string is open. -/
def Neutral (cs : List Char) : Prop :=
  ∀ (depth : Int) (seen rest : List Char), 1 ≤ depth →
    scanBraces depth false false seen (cs ++ rest) =
      scanBraces depth false false (cs.reverse ++ seen) rest

theorem neutral_nil : Neutral [] := fun _ _ _ _ => rfl

theorem Neutral.append {cs ds : List Char} (hc : Neutral cs) (hd : Neutral ds) :
    Neutral (cs ++ ds) := by
  intro depth seen rest hdepth
  rw [List.append_assoc, hc depth seen _ hdepth, hd depth _ rest hdepth, List.reverse_append,
    List.append_assoc]

def isPlain (c : Char) : Bool := c != '"' && c != '\x7b' && c != '\x7d'

theorem neutral_plain {cs : List Char} (h : ∀ c ∈ cs, isPlain c) : Neutral cs := by
  induction cs with
  | nil => exact neutral_nil
  | cons c cs ih =>
    intro depth seen rest hdepth
    have hplain := h c List.mem_cons_self
    simp only [isPlain, Bool.and_eq_true, bne_iff_ne, ne_eq] at hplain
    obtain ⟨⟨hquote, hopen⟩, hclose⟩ := hplain
    have hrest := ih (fun d hd => h d (List.mem_cons_of_mem _ hd)) depth (c :: seen) rest hdepth
    rw [List.cons_append, scanBraces]
    simp only [hquote, hopen, hclose, if_false, Bool.false_eq_true]
    rw [hrest, List.reverse_cons, List.append_assoc]
    rfl

section String

variable (depth : Int) (seen rest : List Char)

theorem scanBraces_inString {c : Char} (hquote : c ≠ '"') (hslash : c ≠ '\\') :
    scanBraces depth true false seen (c :: rest) =
      scanBraces depth true false (c :: seen) rest := by
  rw [scanBraces]
  simp only [hquote, hslash, if_true, if_false, Bool.false_eq_true]

theorem scanBraces_escape (c : Char) : scanBraces depth true false seen ('\\' :: c :: rest) =
    scanBraces depth true false (c :: '\\' :: seen) rest := by
  rw [scanBraces]
  simp only [if_true, if_false, Bool.false_eq_true]
  rw [scanBraces]
  simp only [if_true]

theorem scanBraces_hexDigits {ds : List Char} (h : ∀ d ∈ ds, isHexDigit d) :
    scanBraces depth true false seen (ds ++ rest) =
      scanBraces depth true false (ds.reverse ++ seen) rest := by
  induction ds generalizing seen with
  | nil => rfl
  | cons d ds ih =>
    have hd := h d List.mem_cons_self
    have hquote : d ≠ '"' := by
      rintro rfl
      exact absurd hd (by decide)
    have hslash : d ≠ '\\' := by
      rintro rfl
      exact absurd hd (by decide)
    rw [List.cons_append, scanBraces_inString depth seen _ hquote hslash,
      ih (d :: seen) fun e he => h e (List.mem_cons_of_mem _ he), List.reverse_cons,
      List.append_assoc, List.singleton_append]

end String

/-- An open string stays open. -/
theorem scanBraces_stringBody {cs : List Char} (h : StringBody cs) (depth : Int) :
    ∀ seen rest : List Char, scanBraces depth true false seen (cs ++ rest) =
      scanBraces depth true false (cs.reverse ++ seen) rest := by
  induction h with
  | nil => exact fun _ _ => rfl
  | plain _ hquote hslash _ ih =>
    intro seen rest
    rw [List.cons_append, scanBraces_inString depth seen _ hquote hslash, ih]
    simp
  | escape _ _ ih =>
    intro seen rest
    rw [List.cons_append, List.cons_append, scanBraces_escape, ih]
    simp
  | unicode _ hds _ ih =>
    intro seen rest
    rw [List.cons_append, List.cons_append, scanBraces_escape, List.append_assoc,
      scanBraces_hexDigits depth _ _ hds, ih]
    simp

theorem neutral_string {cs : List Char} (h : StringBody cs) : Neutral ('"' :: (cs ++ ['"'])) := by
  intro depth seen rest _
  rw [List.cons_append, scanBraces, List.append_assoc, List.singleton_append]
  simp only [if_true, if_false, Bool.false_eq_true]
  rw [scanBraces_stringBody h, scanBraces]
  simp

theorem neutral_braces {cs : List Char} (h : Neutral cs) :
    Neutral ('\x7b' :: (cs ++ ['\x7d'])) := by
  intro depth seen rest hdepth
  have hinner := h (depth + 1) ('\x7b' :: seen) ('\x7d' :: rest) (by omega)
  rw [List.cons_append, scanBraces, List.append_assoc, List.singleton_append]
  simp only [Char.reduceEq, if_true, if_false, Bool.false_eq_true]
  rw [hinner, scanBraces]
  simp only [Char.reduceEq, if_true, if_false, Bool.false_eq_true]
  rw [if_neg (by omega), add_sub_cancel_right]
  simp

theorem isPlain_of_isJsonSpace {c : Char} (h : isJsonSpace c) : isPlain c := by
  simp only [isJsonSpace, Bool.or_eq_true, beq_iff_eq] at h
  rcases h with ((rfl | rfl) | rfl) | rfl <;> rfl

theorem isPlain_of_isDigit {c : Char} (h : isDigit c) : isPlain c := by
  have hne : ∀ d : Char, isDigit d = false → c ≠ d := by
    rintro d hd rfl
    rw [h] at hd
    cases hd
  simp only [isPlain, Bool.and_eq_true, bne_iff_ne]
  exact ⟨⟨hne _ (by decide), hne _ (by decide)⟩, hne _ (by decide)⟩

theorem neutral_blank {cs : List Char} (h : Blank cs) : Neutral cs :=
  neutral_plain fun c hc => isPlain_of_isJsonSpace (h c hc)

theorem neutral_digits {cs : List Char} (h : DigitsText cs) : Neutral cs :=
  neutral_plain fun c hc => isPlain_of_isDigit (h.2 c hc)

theorem neutral_char {c : Char} (h : isPlain c) {cs : List Char} (hcs : Neutral cs) :
    Neutral (c :: cs) := by
  have hsingle : Neutral [c] := neutral_plain fun d hd => List.mem_singleton.mp hd ▸ h
  exact hsingle.append hcs

theorem neutral_number {cs : List Char} (h : NumberText cs) : Neutral cs := by
  obtain ⟨sign, whole, fraction, exponent, hsign, hwhole, _, hfraction, hexponent, rfl⟩ := h
  have hsigned : ∀ s ∈ [[], ['+'], ['-']], Neutral s := by
    intro s hs
    simp only [List.mem_cons, List.not_mem_nil, or_false] at hs
    rcases hs with rfl | rfl | rfl
    · exact neutral_nil
    · exact neutral_char rfl neutral_nil
    · exact neutral_char rfl neutral_nil
  have hsignText : Neutral sign := by
    refine hsigned sign ?_
    rcases List.mem_cons.mp hsign with rfl | hsign
    · simp
    · simp [List.mem_singleton.mp hsign]
  have hfractionText : Neutral fraction := by
    rcases hfraction with rfl | ⟨ds, hds, rfl⟩
    · exact neutral_nil
    · exact neutral_char rfl (neutral_digits hds)
  have hexponentText : Neutral exponent := by
    rcases hexponent with rfl | ⟨e, s, ds, he, hs, hds, rfl⟩
    · exact neutral_nil
    · refine neutral_char ?_ ((hsigned s hs).append (neutral_digits hds))
      simp only [List.mem_cons, List.not_mem_nil, or_false] at he
      rcases he with rfl | rfl
      · rfl
      · rfl
  exact ((hsignText.append (neutral_digits hwhole)).append hfractionText).append hexponentText

theorem neutral_jsonText {kind : TextKind} {cs : List Char} (h : JsonText kind cs) :
    Neutral cs := by
  induction h with
  | constant hc =>
    refine neutral_plain ?_
    have hall : ∀ c ∈ constants, ∀ d ∈ c.1, isPlain d := by simp [constants, isPlain]
    exact hall _ hc
  | number hnumber => exact neutral_number hnumber
  | string hstring => exact neutral_string hstring
  | emptyArray hblank =>
    exact neutral_char rfl ((neutral_blank hblank).append (neutral_char rfl neutral_nil))
  | array _ ih => exact neutral_char rfl (ih.append (neutral_char rfl neutral_nil))
  | emptyObject hblank => exact neutral_braces (neutral_blank hblank)
  | object _ ih => exact neutral_braces ih
  | elem hbefore _ hafter ih =>
    exact ((neutral_blank hbefore).append ih).append (neutral_blank hafter)
  | elems _ _ ihc ihd => exact ihc.append (neutral_char rfl ihd)
  | @member before key colon colon' cs after hbefore hkey hcolon hcolon' _ hafter ih =>
    have hvalue := ((neutral_blank hcolon').append ih).append (neutral_blank hafter)
    have hitem := (neutral_string hkey).append
      ((neutral_blank hcolon).append (neutral_char (c := ':') rfl hvalue))
    have hall := (neutral_blank hbefore).append hitem
    simpa using hall
  | members _ _ ihc ihd => exact ihc.append (neutral_char rfl ihd)

/-- From the first brace to the one that closes it. -/
theorem scanBraces_object {cs : List Char} (h : Neutral cs) (rest : List Char) :
    scanBraces 0 false false [] ('\x7b' :: (cs ++ '\x7d' :: rest)) =
      some ('\x7b' :: (cs ++ ['\x7d'])) := by
  have hinner := h 1 ['\x7b'] ('\x7d' :: rest) le_rfl
  rw [scanBraces]
  simp only [Char.reduceEq, if_true, if_false, Bool.false_eq_true, zero_add]
  rw [hinner, scanBraces]
  simp

theorem neutral_objectText {s : String} (h : ObjectText s) :
    ∃ cs, Neutral cs ∧ s.toList = '\x7b' :: (cs ++ ['\x7d']) := by
  obtain ⟨cs, hblank | hmembers, hs⟩ := h
  · exact ⟨cs, neutral_blank hblank, hs⟩
  · exact ⟨cs, neutral_jsonText hmembers, hs⟩

theorem dropWhile_before {before : List Char} (h : '\x7b' ∉ before) (rest : List Char) :
    (before ++ rest).dropWhile (· ≠ '\x7b') = rest.dropWhile (· ≠ '\x7b') := by
  refine List.dropWhile_append_of_pos ?_
  intro c hc
  have hne : c ≠ '\x7b' := by
    rintro rfl
    exact h hc
  simpa using hne

theorem dropWhile_brace (cs : List Char) :
    ('\x7b' :: cs).dropWhile (· ≠ '\x7b') = '\x7b' :: cs := by
  simp

theorem extractFirst_object {before s : String} (hbefore : '\x7b' ∉ before.toList)
    (hs : ObjectText s) (after : String) :
    extractFirstJsonObjectText (before ++ s ++ after) = some s := by
  obtain ⟨cs, hcs, htext⟩ := neutral_objectText hs
  have hscan := scanBraces_object hcs
  rw [extractFirstJsonObjectText, String.toList_append, String.toList_append, List.append_assoc,
    dropWhile_before hbefore, htext, List.cons_append, dropWhile_brace, List.append_assoc,
    List.singleton_append, hscan, Option.map_some, ← htext, String.ofList_toList]

theorem extractFirst_truncated {before s t : String} (hbefore : '\x7b' ∉ before.toList)
    (hs : ObjectText s) (hcut : t.toList <+: s.toList) (hne : t ≠ s) :
    extractFirstJsonObjectText (before ++ t) = none := by
  obtain ⟨cs, hcs, htext⟩ := neutral_objectText hs
  have hscan := scanBraces_object hcs
  rw [extractFirstJsonObjectText, String.toList_append, dropWhile_before hbefore,
    Option.map_eq_none_iff]
  cases ht : t.toList with
  | nil => rfl
  | cons c rest =>
    obtain ⟨missing, hmissing⟩ := hcut
    obtain rfl : c = '\x7b' := by
      rw [ht, htext] at hmissing
      exact (List.cons.inj hmissing).1
    rw [dropWhile_brace, ← ht, Option.eq_none_iff_forall_not_mem]
    intro found hfound
    -- what is found in the truncated text is found in the whole one, and is too long
    have hwhole := scanBraces_append hfound missing
    have hfull := hscan []
    rw [hmissing, htext, hfull] at hwhole
    have hlength := scanBraces_length hfound
    rw [← Option.some.inj hwhole, ← htext, ← hmissing, List.length_append] at hlength
    have hnil : missing = [] := by
      rw [← List.length_eq_zero_iff]
      simp only [List.length_nil] at hlength
      omega
    rw [hnil, List.append_nil] at hmissing
    exact hne (String.toList_inj.mp hmissing)

/-- The scanner finds exactly the first object, and nothing in a truncated one. -/
theorem extractFirstJsonObjectText_exact (before s : String) (hbefore : '\x7b' ∉ before.toList)
    (hs : ObjectText s) :
    (∀ after : String, extractFirstJsonObjectText (before ++ s ++ after) = some s) ∧
    ∀ t : String, t.toList <+: s.toList → t ≠ s →
      extractFirstJsonObjectText (before ++ t) = none := by
  constructor
  · exact extractFirst_object hbefore hs
  · intro t hcut hne
    exact extractFirst_truncated hbefore hs hcut hne

def sampleObject : String := "\x7b\"a\":\"\x7d\"\x7d"

theorem objectText_sampleObject : ObjectText sampleObject :=
  @objectText_singleton ['a'] ['\x7d'] (by decide) (by decide)

theorem extractFirstJsonObjectText_exact_sampleObject :
    extractFirstJsonObjectText ("the \"answer: " ++ sampleObject ++ " or \x7b") =
      some sampleObject ∧
    extractFirstJsonObjectText ("the \"answer: " ++ "\x7b\"a\":\"\x7d") = none :=
  have hexact := extractFirstJsonObjectText_exact "the \"answer: " sampleObject (by decide)
    objectText_sampleObject
  ⟨hexact.1 _, hexact.2 _ (by decide) (by decide)⟩

end Headhunt.Gateways
