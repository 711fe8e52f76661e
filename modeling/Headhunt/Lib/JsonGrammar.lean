import Headhunt.Lib.PyJson
import Headhunt.Lib.Result
import Mathlib.Data.List.TakeWhile

/-! The grammar of JSON texts, with the constants Python adds, and that `json.loads` reads
nothing else. -/
namespace Py

def Blank (cs : List Char) : Prop := ∀ c ∈ cs, isJsonSpace c

def isHexDigit (c : Char) : Bool :=
  isDigit c || ('a' ≤ c && c ≤ 'f') || ('A' ≤ c && c ≤ 'F')

/-- What stands between the quotes of a string. -/
inductive StringBody : List Char → Prop
  | nil : StringBody []
  | plain {c : Char} {cs : List Char} : 32 ≤ c.toNat → c ≠ '"' → c ≠ '\\' → StringBody cs →
      StringBody (c :: cs)
  | escape {c : Char} {cs : List Char} : (escapes.lookup c).isSome → StringBody cs →
      StringBody ('\\' :: c :: cs)
  | unicode {ds cs : List Char} : ds.length = 4 → (∀ d ∈ ds, isHexDigit d) → StringBody cs →
      StringBody ('\\' :: 'u' :: (ds ++ cs))

def DigitsText (cs : List Char) : Prop := cs ≠ [] ∧ ∀ c ∈ cs, isDigit c

def FractionText (cs : List Char) : Prop := cs = [] ∨ ∃ ds, DigitsText ds ∧ cs = '.' :: ds

def ExponentText (cs : List Char) : Prop :=
  cs = [] ∨ ∃ e sign ds, e ∈ ['e', 'E'] ∧ sign ∈ [[], ['+'], ['-']] ∧ DigitsText ds ∧
    cs = e :: (sign ++ ds)

/-- The whole part has no leading zero. -/
def NumberText (cs : List Char) : Prop :=
  ∃ sign whole fraction exponent, sign ∈ [[], ['-']] ∧ DigitsText whole ∧
    (whole = ['0'] ∨ whole.head? ≠ some '0') ∧ FractionText fraction ∧ ExponentText exponent ∧
    cs = sign ++ whole ++ fraction ++ exponent

inductive TextKind
  | value
  | elems
  | members

/-- The texts of values, of the elements of an array and of the members of an object. -/
inductive JsonText : TextKind → List Char → Prop
  | constant {c : List Char × Json} : c ∈ constants → JsonText .value c.1
  | number {cs : List Char} : NumberText cs → JsonText .value cs
  | string {cs : List Char} : StringBody cs → JsonText .value ('"' :: (cs ++ ['"']))
  | emptyArray {cs : List Char} : Blank cs → JsonText .value ('[' :: (cs ++ [']']))
  | array {cs : List Char} : JsonText .elems cs → JsonText .value ('[' :: (cs ++ [']']))
  | emptyObject {cs : List Char} : Blank cs → JsonText .value ('\x7b' :: (cs ++ ['\x7d']))
  | object {cs : List Char} : JsonText .members cs → JsonText .value ('\x7b' :: (cs ++ ['\x7d']))
  | elem {before cs after : List Char} : Blank before → JsonText .value cs → Blank after →
      JsonText .elems (before ++ cs ++ after)
  | elems {cs ds : List Char} : JsonText .elems cs → JsonText .elems ds →
      JsonText .elems (cs ++ ',' :: ds)
  | member {before key colon colon' cs after : List Char} : Blank before → StringBody key →
      Blank colon → Blank colon' → JsonText .value cs → Blank after →
      JsonText .members
        (before ++ '"' :: (key ++ '"' :: (colon ++ ':' :: (colon' ++ cs ++ after))))
  | members {cs ds : List Char} : JsonText .members cs → JsonText .members ds →
      JsonText .members (cs ++ ',' :: ds)

/-- A serialised object, from brace to brace. -/
def ObjectText (s : String) : Prop :=
  ∃ cs, (Blank cs ∨ JsonText .members cs) ∧ s.toList = '\x7b' :: (cs ++ ['\x7d'])

def isLiteral (c : Char) : Bool := 32 ≤ c.toNat && c != '"' && c != '\\'

theorem stringBody_of_literal {cs : List Char} (h : cs.all isLiteral) : StringBody cs := by
  induction cs with
  | nil => exact .nil
  | cons c cs ih =>
    rw [List.all_cons, Bool.and_eq_true] at h
    obtain ⟨hc, hcs⟩ := h
    simp only [isLiteral, Bool.and_eq_true, decide_eq_true_eq, bne_iff_ne, ne_eq] at hc
    exact .plain hc.1.1 hc.1.2 hc.2 (ih hcs)

/-- An object of one text. -/
theorem objectText_singleton {key value : List Char} (hkey : key.all isLiteral)
    (hvalue : value.all isLiteral) :
    ObjectText (String.ofList
      ('\x7b' :: '"' :: (key ++ '"' :: ':' :: '"' :: (value ++ ['"', '\x7d'])))) := by
  have hblank : Blank [] := nofun
  have hmember := JsonText.member hblank (stringBody_of_literal hkey) hblank hblank
    (.string (stringBody_of_literal hvalue)) hblank
  refine ⟨_, .inr hmember, ?_⟩
  rw [String.toList_ofList]
  simp

theorem Blank.append {cs ds : List Char} (hc : Blank cs) (hd : Blank ds) : Blank (cs ++ ds) := by
  intro c hmem
  rcases List.mem_append.mp hmem with hmem | hmem
  · exact hc c hmem
  · exact hd c hmem

/-- White space in front belongs to the elements. -/
theorem JsonText.blank_elems {before cs : List Char} (hbefore : Blank before)
    (h : JsonText .elems cs) : JsonText .elems (before ++ cs) := by
  generalize hkind : TextKind.elems = kind at h
  induction h with
  | elem hb hv ha =>
    rw [← List.append_assoc, ← List.append_assoc]
    exact .elem (hbefore.append hb) hv ha
  | elems _ hds ih _ =>
    rw [← List.append_assoc]
    exact .elems (ih hkind) hds
  | _ => cases hkind

theorem JsonText.blank_members {before cs : List Char} (hbefore : Blank before)
    (h : JsonText .members cs) : JsonText .members (before ++ cs) := by
  generalize hkind : TextKind.members = kind at h
  induction h with
  | member hb hkey hcolon hcolon' hv ha =>
    rw [← List.append_assoc]
    exact .member (hbefore.append hb) hkey hcolon hcolon' hv ha
  | members _ hds ih _ =>
    rw [← List.append_assoc]
    exact .members (ih hkind) hds
  | _ => cases hkind

theorem skipSpace_split (cs : List Char) : ∃ blank, Blank blank ∧ cs = blank ++ skipSpace cs := by
  refine ⟨cs.takeWhile isJsonSpace, ?_, (List.takeWhile_append_dropWhile).symm⟩
  intro c hc
  exact List.mem_takeWhile_imp hc

theorem mem_takeWhile_isDigit {cs : List Char} : ∀ c ∈ cs.takeWhile isDigit, isDigit c :=
  fun _ hc => List.mem_takeWhile_imp hc

theorem isHexDigit_of_digitIn {c : Char} (hascii : c.toNat < 128)
    (h : (digitIn 16 c).isSome) : isHexDigit c := by
  have hall : ∀ n < 128, (digitIn 16 (Char.ofNat n)).isSome → isHexDigit (Char.ofNat n) := by
    decide +kernel
  have hc := hall c.toNat hascii
  rw [Char.ofNat_toNat] at hc
  exact hc h

theorem hexDigits_of_foldlM {ds : List Char} : ∀ {n m : Nat},
    ds.foldlM (fun n c =>
      if c.toNat < 128 then (digitIn 16 c).map (16 * n + ·) else none) n = some m →
    ∀ d ∈ ds, isHexDigit d := by
  induction ds with
  | nil => simp
  | cons d ds ih =>
    intro n m h
    rw [List.foldlM_cons] at h
    obtain ⟨k, hk, hrest⟩ := Option.bind_eq_some_iff.mp h
    intro e he
    rcases List.mem_cons.mp he with rfl | he
    · split_ifs at hk with hascii
      have hsome : (digitIn 16 e).isSome := by
        cases hdigit : digitIn 16 e with
        | none => simp [hdigit] at hk
        | some _ => rfl
      exact isHexDigit_of_digitIn hascii hsome
    · exact ih hrest e he

theorem hex4_sound {cs rest : List Char} {n : Nat} (h : hex4 cs = some (n, rest)) :
    ∃ ds, ds.length = 4 ∧ (∀ d ∈ ds, isHexDigit d) ∧ cs = ds ++ rest := by
  unfold hex4 at h
  split_ifs at h with hlength
  obtain ⟨m, hm, heq⟩ := Option.map_eq_some_iff.mp h
  obtain ⟨rfl, rfl⟩ := Prod.mk.inj heq
  exact ⟨cs.take 4, hlength, hexDigits_of_foldlM hm, (List.take_append_drop 4 cs).symm⟩

/-- What an escape with `u` reads can stand in front of the rest of a string. -/
theorem scanUnicode_sound {cs rest : List Char} {c : Char} (h : scanUnicode cs = some (c, rest)) :
    ∃ text, cs = text ++ rest ∧ ∀ {body}, StringBody body →
      StringBody ('\\' :: 'u' :: (text ++ body)) := by
  unfold scanUnicode at h
  obtain ⟨⟨n, rest₁⟩, hn, hfirst⟩ := Option.bind_eq_some_iff.mp h
  obtain ⟨ds, hlength, hds, rfl⟩ := hex4_sound hn
  dsimp only at hfirst
  split_ifs at hfirst with hhigh hlow
  · split at hfirst
    next cs₂ =>
      obtain ⟨⟨m, rest₂⟩, hm, hsecond⟩ := Option.bind_eq_some_iff.mp hfirst
      obtain ⟨es, hlength', hes, rfl⟩ := hex4_sound hm
      dsimp only at hsecond
      split_ifs at hsecond with hpair
      obtain ⟨_, rfl⟩ := Prod.mk.inj (Option.some.inj hsecond)
      refine ⟨ds ++ '\\' :: 'u' :: es, by simp, ?_⟩
      intro body hbody
      have hescaped := StringBody.unicode hlength hds (.unicode hlength' hes hbody)
      simpa using hescaped
    next => cases hfirst
  · obtain ⟨_, rfl⟩ := Prod.mk.inj (Option.some.inj hfirst)
    exact ⟨ds, rfl, fun hbody => .unicode hlength hds hbody⟩

theorem scanString_sound (fuel : Nat) : ∀ {acc cs rest : List Char} {s : String},
    scanString fuel acc cs = .ok (s, rest) →
    ∃ body, StringBody body ∧ cs = body ++ '"' :: rest := by
  induction fuel with
  | zero =>
    intro acc cs rest s h
    cases h
  | succ fuel ih =>
    intro acc cs rest s h
    unfold scanString at h
    split at h
    · cases h
    · obtain ⟨_, rfl⟩ := Prod.mk.inj (Except.ok.inj h)
      exact ⟨[], .nil, rfl⟩
    · split at h
      next c cs' hc =>
        obtain ⟨body, hbody, rfl⟩ := ih h
        obtain ⟨text, rfl, htext⟩ := scanUnicode_sound hc
        exact ⟨_, htext hbody, by simp⟩
      next => cases h
    · split at h
      next c hc =>
        obtain ⟨body, hbody, rfl⟩ := ih h
        exact ⟨_, .escape (by rw [hc]; rfl) hbody, rfl⟩
      next => cases h
    next c cs hquote hunicode hescape =>
      split_ifs at h with hcontrol
      obtain ⟨body, hbody, rfl⟩ := ih h
      -- a backslash is followed by something, the closing quote at least
      have hne : c ≠ '\\' := by
        rintro rfl
        cases body with
        | nil => exact hescape _ _ rfl rfl
        | cons d body => exact hescape _ _ rfl rfl
      exact ⟨c :: body, .plain (by omega) hquote hne hbody, rfl⟩

theorem digitsText_takeWhile {cs : List Char} (h : cs.takeWhile isDigit ≠ []) :
    DigitsText (cs.takeWhile isDigit) := ⟨h, mem_takeWhile_isDigit⟩

theorem scanExponent_sound {cs rest : List Char} {n : Int} (h : scanExponent cs = some (n, rest)) :
    ∃ sign ds, sign ∈ [[], ['+'], ['-']] ∧ DigitsText ds ∧ cs = sign ++ ds ++ rest := by
  unfold scanExponent at h
  split at h
  rename_i neg body hsplit
  have hsign : ∃ sign, sign ∈ [[], ['+'], ['-']] ∧ cs = sign ++ body := by
    split at hsplit
    · obtain rfl := (Prod.mk.inj hsplit).2
      exact ⟨['-'], by simp, rfl⟩
    · obtain rfl := (Prod.mk.inj hsplit).2
      exact ⟨['+'], by simp, rfl⟩
    · obtain rfl := (Prod.mk.inj hsplit).2
      exact ⟨[], by simp, rfl⟩
  obtain ⟨sign, hmem, rfl⟩ := hsign
  dsimp only at h
  split at h
  · cases h
  · rename_i hempty
    obtain rfl := (Prod.mk.inj (Option.some.inj h)).2
    refine ⟨sign, _, hmem, digitsText_takeWhile hempty, ?_⟩
    rw [List.append_assoc, List.takeWhile_append_dropWhile]

theorem takeWhile_append_drop (p : Char → Bool) (cs : List Char) :
    cs = cs.takeWhile p ++ cs.drop (cs.takeWhile p).length :=
  (List.prefix_iff_eq_append.mp (List.takeWhile_prefix p)).symm

/-- The sign, the whole part, the fraction and the exponent are read one after the other. -/
theorem scanNumber_sound {cs rest : List Char} {v : Json} (h : scanNumber cs = .ok (v, rest)) :
    ∃ text, NumberText text ∧ cs = text ++ rest ∧ ∀ o, v ≠ .obj o := by
  unfold scanNumber at h
  split at h
  rename_i neg body hsplit
  have hsign : ∃ sign, sign ∈ [[], ['-']] ∧ cs = sign ++ body := by
    split at hsplit
    · obtain rfl := (Prod.mk.inj hsplit).2
      exact ⟨['-'], by simp, rfl⟩
    · obtain rfl := (Prod.mk.inj hsplit).2
      exact ⟨[], by simp, rfl⟩
  obtain ⟨sign, hmem, rfl⟩ := hsign
  extract_lets whole afterWhole fraction afterFraction exponent at h
  have hwhole : whole ≠ [] → DigitsText whole ∧ (whole = ['0'] ∨ whole.head? ≠ some '0') ∧
      body = whole ++ afterWhole := by
    intro hne
    unfold afterWhole
    unfold whole at hne ⊢
    split at hne
    · exact ⟨⟨by simp, by simp [isDigit]⟩, .inl rfl, rfl⟩
    · rename_i hzero
      refine ⟨digitsText_takeWhile hne, .inr ?_, takeWhile_append_drop _ _⟩
      intro hhead
      cases body with
      | nil => cases hhead
      | cons c body =>
        obtain rfl : c = '0' := by
          simp only [List.takeWhile_cons] at hhead
          split_ifs at hhead with hdigit
          · simpa using hhead
          · cases hhead
        exact hzero _ rfl
  clear_value afterWhole
  have hfraction : ∃ text, FractionText text ∧ afterWhole = text ++ afterFraction := by
    unfold afterFraction
    split
    · exact ⟨[], .inl rfl, rfl⟩
    · rename_i hne
      unfold fraction at hne ⊢
      split at hne
      · refine ⟨'.' :: _, .inr ⟨_, digitsText_takeWhile hne, rfl⟩, ?_⟩
        rw [List.cons_append, List.drop_succ_cons, ← takeWhile_append_drop]
      · exact (hne rfl).elim
  clear_value afterFraction
  have hexponent : ∀ found ∈ exponent, ∃ text, ExponentText text ∧
      afterFraction = text ++ found.2 := by
    intro found hfound
    unfold exponent at hfound
    split at hfound
    · obtain ⟨sign', ds, hsign', hds, rfl⟩ := scanExponent_sound (Option.mem_def.mp hfound)
      exact ⟨_, .inr ⟨'e', sign', ds, by simp, hsign', hds, rfl⟩, rfl⟩
    · obtain ⟨sign', ds, hsign', hds, rfl⟩ := scanExponent_sound (Option.mem_def.mp hfound)
      exact ⟨_, .inr ⟨'E', sign', ds, by simp, hsign', hds, rfl⟩, rfl⟩
    · cases hfound
  clear_value exponent
  clear_value fraction
  obtain ⟨fractionText, hfractionText, hafter⟩ := hfraction
  split at h
  · cases h
  · rename_i hne
    obtain ⟨hdigits, hzero, hbody⟩ := hwhole hne
    have hend : ∀ exponentText, ExponentText exponentText → afterFraction = exponentText ++ rest →
        (∀ o, v ≠ .obj o) →
        ∃ text, NumberText text ∧ sign ++ body = text ++ rest ∧ ∀ o, v ≠ .obj o := by
      intro exponentText hexponentText hlast hv
      refine ⟨_, ⟨sign, whole, fractionText, exponentText, hmem, hdigits, hzero, hfractionText,
        hexponentText, rfl⟩, ?_, hv⟩
      rw [hbody, hafter, hlast]
      simp only [List.append_assoc]
    split at h
    · split at h
      · cases h
      · obtain ⟨rfl, rfl⟩ := Prod.mk.inj (Except.ok.inj h)
        exact hend [] (.inl rfl) rfl nofun
    · cases exponent with
      | none =>
        obtain ⟨rfl, rfl⟩ := Prod.mk.inj (Except.ok.inj h)
        exact hend [] (.inl rfl) rfl nofun
      | some found =>
        obtain ⟨rfl, rfl⟩ := Prod.mk.inj (Except.ok.inj h)
        obtain ⟨text, htext, hlast⟩ := hexponent found rfl
        exact hend text htext hlast nofun

theorem scanConstant_sound {cs rest : List Char} {v : Json}
    (h : scanConstant cs = some (v, rest)) :
    ∃ text, JsonText .value text ∧ cs = text ++ rest ∧ ∀ o, v ≠ .obj o := by
  obtain ⟨c, hc, hpair⟩ := Option.map_eq_some_iff.mp h
  obtain ⟨rfl, rfl⟩ := Prod.mk.inj hpair
  have hmem := List.mem_of_find?_eq_some hc
  have hfound := List.find?_some hc
  have hprefix := List.isPrefixOf_iff_prefix.mp hfound
  refine ⟨c.1, .constant hmem, (List.prefix_iff_eq_append.mp hprefix).symm, ?_⟩
  simp only [constants, List.mem_cons, List.not_mem_nil, or_false] at hmem
  rcases hmem with rfl | rfl | rfl | rfl | rfl | rfl <;> nofun

/-- Scanning `fuel` deep reads texts of the grammar. -/
structure ScansText (fuel : Nat) : Prop where
  value : ∀ {cs v rest}, scanValue fuel cs = .ok (v, rest) →
    ∃ text, JsonText .value text ∧ cs = text ++ rest ∧
      ∀ o, v = .obj o → ∃ body, (Blank body ∨ JsonText .members body) ∧
        text = '\x7b' :: (body ++ ['\x7d'])
  elems : ∀ {acc cs v rest}, scanElems fuel acc cs = .ok (v, rest) →
    ∃ text, JsonText .elems text ∧ cs = text ++ ']' :: rest ∧ ∀ o, v ≠ .obj o
  items : ∀ {acc cs v rest}, scanItems fuel acc cs = .ok (v, rest) →
    ∃ text, JsonText .members text ∧ cs = text ++ '\x7d' :: rest

section Step

variable {fuel : Nat} {cs rest : List Char} {v : Json}

theorem ScansText.step_value (h : ScansText fuel)
    (hscan : scanValue (fuel + 1) cs = .ok (v, rest)) :
    ∃ text, JsonText .value text ∧ cs = text ++ rest ∧
      ∀ o, v = .obj o → ∃ body, (Blank body ∨ JsonText .members body) ∧
        text = '\x7b' :: (body ++ ['\x7d']) := by
  unfold scanValue at hscan
  split at hscan
  · rename_i cs
    obtain ⟨⟨s, last⟩, hstring, hpair⟩ := Except.map_eq_ok.mp hscan
    obtain ⟨rfl, rfl⟩ := Prod.mk.inj hpair
    obtain ⟨body, hbody, rfl⟩ := scanString_sound _ hstring
    exact ⟨_, .string hbody, by simp, nofun⟩
  · rename_i cs
    obtain ⟨blank, hblank, hcs⟩ := skipSpace_split cs
    split at hscan
    · rename_i last hlast
      obtain ⟨rfl, rfl⟩ := Prod.mk.inj (Except.ok.inj hscan)
      rw [hlast] at hcs
      exact ⟨_, .emptyArray hblank, by simp [hcs], nofun⟩
    · obtain ⟨text, htext, heq, hv⟩ := h.elems hscan
      rw [heq] at hcs
      refine ⟨_, .array (htext.blank_elems hblank), by simp [hcs], ?_⟩
      intro o ho
      exact (hv o ho).elim
  · rename_i cs
    obtain ⟨blank, hblank, hcs⟩ := skipSpace_split cs
    split at hscan
    · rename_i last hlast
      obtain ⟨rfl, rfl⟩ := Prod.mk.inj (Except.ok.inj hscan)
      rw [hlast] at hcs
      exact ⟨_, .emptyObject hblank, by simp [hcs], fun _ _ => ⟨blank, .inl hblank, rfl⟩⟩
    · obtain ⟨text, htext, heq⟩ := h.items hscan
      rw [heq] at hcs
      have hbody := htext.blank_members hblank
      exact ⟨_, .object hbody, by simp [hcs], fun _ _ => ⟨_, .inr hbody, rfl⟩⟩
  · split at hscan
    · rename_i r hconstant
      obtain rfl := Except.ok.inj hscan
      obtain ⟨text, htext, hcs, hv⟩ := scanConstant_sound hconstant
      exact ⟨text, htext, hcs, fun o ho => (hv o ho).elim⟩
    · obtain ⟨text, htext, hcs, hv⟩ := scanNumber_sound hscan
      exact ⟨text, .number htext, hcs, fun o ho => (hv o ho).elim⟩

theorem ScansText.step_elems (h : ScansText fuel) {acc : List Json}
    (hscan : scanElems (fuel + 1) acc cs = .ok (v, rest)) :
    ∃ text, JsonText .elems text ∧ cs = text ++ ']' :: rest ∧ ∀ o, v ≠ .obj o := by
  unfold scanElems at hscan
  obtain ⟨⟨w, after⟩, hvalue, hscan⟩ := Except.bind_eq_ok.mp hscan
  obtain ⟨text, htext, hcs, _⟩ := h.value hvalue
  obtain ⟨blank, hblank, hafter⟩ := skipSpace_split after
  have hnil : Blank [] := nofun
  have helem := JsonText.elem hnil htext hblank
  dsimp only at hscan
  split at hscan
  · rename_i last hlast
    obtain ⟨blank', hblank', hnext⟩ := skipSpace_split last
    obtain ⟨text', htext', heq, hv⟩ := h.elems hscan
    refine ⟨_, .elems helem (htext'.blank_elems hblank'), ?_, hv⟩
    rw [hcs, hafter, hlast, hnext, heq]
    simp
  · rename_i last hlast
    obtain ⟨rfl, rfl⟩ := Prod.mk.inj (Except.ok.inj hscan)
    refine ⟨_, helem, ?_, nofun⟩
    rw [hcs, hafter, hlast]
    simp
  · cases hscan

theorem ScansText.step_items (h : ScansText fuel) {acc : Dict}
    (hscan : scanItems (fuel + 1) acc cs = .ok (v, rest)) :
    ∃ text, JsonText .members text ∧ cs = text ++ '\x7d' :: rest := by
  unfold scanItems at hscan
  split at hscan
  · rename_i cs
    obtain ⟨⟨k, afterKey⟩, hkey, hscan⟩ := Except.bind_eq_ok.mp hscan
    obtain ⟨key, hkeyText, hcs⟩ := scanString_sound _ hkey
    obtain ⟨colon, hcolon, hafterKey⟩ := skipSpace_split afterKey
    dsimp only at hscan
    split at hscan
    · rename_i afterColon heq
      obtain ⟨colon', hcolon', hafterColon⟩ := skipSpace_split afterColon
      obtain ⟨⟨w, after⟩, hvalue, hscan⟩ := Except.bind_eq_ok.mp hscan
      obtain ⟨text, htext, hvalueText, _⟩ := h.value hvalue
      obtain ⟨blank, hblank, hafter⟩ := skipSpace_split after
      have hnil : Blank [] := nofun
      have hmember := JsonText.member hnil hkeyText hcolon hcolon' htext hblank
      dsimp only at hscan
      split at hscan
      · rename_i last hlast
        obtain ⟨blank', hblank', hnext⟩ := skipSpace_split last
        obtain ⟨text', htext', hmore⟩ := h.items hscan
        refine ⟨_, .members hmember (htext'.blank_members hblank'), ?_⟩
        rw [hcs, hafterKey, heq, hafterColon, hvalueText, hafter, hlast, hnext, hmore]
        simp
      · rename_i last hlast
        obtain ⟨rfl, rfl⟩ := Prod.mk.inj (Except.ok.inj hscan)
        refine ⟨_, hmember, ?_⟩
        rw [hcs, hafterKey, heq, hafterColon, hvalueText, hafter, hlast]
        simp
      · cases hscan
    · cases hscan
  · cases hscan

end Step

theorem scansText (fuel : Nat) : ScansText fuel := by
  induction fuel with
  | zero =>
    constructor
    · intro cs v rest hscan
      cases hscan
    · intro acc cs v rest hscan
      cases hscan
    · intro acc cs v rest hscan
      cases hscan
  | succ fuel ih =>
    constructor
    · exact ih.step_value
    · exact ih.step_elems
    · exact ih.step_items

/-- A text that `json.loads` reads as an object is a serialised object between white space. -/
theorem objectText_of_loads {s : String} {o : Dict} (h : loads s = .ok (.obj o)) :
    ∃ before core after, Blank before ∧ Blank after ∧ ObjectText core ∧
      s.toList = before ++ core.toList ++ after := by
  obtain ⟨⟨v, rest⟩, hscan, hrest⟩ := Except.bind_eq_ok.mp h
  dsimp only at hrest
  split_ifs at hrest with hblank
  obtain rfl := Except.ok.inj hrest
  obtain ⟨before, hbefore, hs⟩ := skipSpace_split s.toList
  obtain ⟨after, hafter, htail⟩ := skipSpace_split rest
  rw [hblank, List.append_nil] at htail
  subst htail
  obtain ⟨text, _, hcs, hobject⟩ := (scansText _).value hscan
  obtain ⟨body, hbody, rfl⟩ := hobject o rfl
  refine ⟨before, String.ofList ('\x7b' :: (body ++ ['\x7d'])), rest, hbefore, hafter,
    ⟨body, hbody, String.toList_ofList⟩, ?_⟩
  rw [String.toList_ofList, hs, hcs, List.append_assoc]

end Py
