import Headhunt.Lib.PyBytes
import Mathlib.Data.List.TakeWhile

/-! `base64.b64encode`, and that `b64decode` undoes it. -/
namespace Py

def base64Char (v : Nat) : Char :=
  if v < 26 then Char.ofNat ('A'.toNat + v)
  else if v < 52 then Char.ofNat ('a'.toNat + (v - 26))
  else if v < 62 then Char.ofNat ('0'.toNat + (v - 52))
  else if v = 62 then '+'
  else '/'

/-- Six bits each, the last ones filled up with zeros. -/
def sextets : List UInt8 → List Nat
  | a :: b :: c :: data =>
    a.toNat / 4 :: (a.toNat % 4 * 16 + b.toNat / 16) :: (b.toNat % 16 * 4 + c.toNat / 64) ::
      c.toNat % 64 :: sextets data
  | [a, b] => [a.toNat / 4, a.toNat % 4 * 16 + b.toNat / 16, b.toNat % 16 * 4]
  | [a] => [a.toNat / 4, a.toNat % 4 * 16]
  | [] => []

def base64Digits (data : ByteArray) : List Char := (sextets data.data.toList).map base64Char

def base64Padding (length : Nat) : List Char := List.replicate ((4 - length % 4) % 4) '='

def b64encode (data : ByteArray) : String :=
  String.ofList (base64Digits data ++ base64Padding (base64Digits data).length)

theorem base64Value_base64Char : ∀ v < 64, base64Value (base64Char v) = some v := by decide

theorem base64Char_ascii : ∀ v < 64, (base64Char v).toNat < 128 := by decide

theorem base64Char_ne_equals : ∀ v < 64, base64Char v ≠ '=' := by decide

theorem sextets_lt (data : List UInt8) : ∀ v ∈ sextets data, v < 64 := by
  induction data using sextets.induct with
  | case1 a b c data ih =>
    have ha := a.toNat_lt
    have hb := b.toNat_lt
    have hc := c.toNat_lt
    intro v hv
    simp only [sextets, List.mem_cons] at hv
    rcases hv with rfl | rfl | rfl | rfl | hv
    · omega
    · omega
    · omega
    · omega
    · exact ih v hv
  | case2 a b =>
    have ha := a.toNat_lt
    have hb := b.toNat_lt
    simp only [sextets, List.mem_cons, List.not_mem_nil, or_false]
    rintro v (rfl | rfl | rfl) <;> omega
  | case3 a =>
    have ha := a.toNat_lt
    simp only [sextets, List.mem_cons, List.not_mem_nil, or_false]
    rintro v (rfl | rfl) <;> omega
  | case4 => simp [sextets]

theorem mem_base64Digits {data : ByteArray} {c : Char} (h : c ∈ base64Digits data) :
    ∃ v < 64, c = base64Char v := by
  obtain ⟨v, hv, rfl⟩ := List.mem_map.mp h
  exact ⟨v, sextets_lt _ v hv, rfl⟩

theorem base64Go_equals (quad left pads : Nat) (out : List UInt8) (cs : List Char) :
    base64Go quad left pads out ('=' :: cs) =
      if 2 ≤ quad ∧ 4 ≤ quad + (pads + 1) then some out.reverse
      else base64Go quad left (if 2 ≤ quad then pads + 1 else pads) out cs := by
  simp only [base64Go, if_true]

section Digit

variable {v : Nat} (hv : v < 64) (left pads : Nat) (out : List UInt8) (cs : List Char)

include hv

theorem base64Go_first :
    base64Go 0 left pads out (base64Char v :: cs) = base64Go 1 v 0 out cs := by
  rw [base64Go, if_neg (base64Char_ne_equals v hv), base64Value_base64Char v hv]
  rfl

theorem base64Go_second : base64Go 1 left pads out (base64Char v :: cs) =
    base64Go 2 (v % 16) 0 (UInt8.ofNat (left * 4 + v / 16) :: out) cs := by
  rw [base64Go, if_neg (base64Char_ne_equals v hv), base64Value_base64Char v hv]
  rfl

theorem base64Go_third : base64Go 2 left pads out (base64Char v :: cs) =
    base64Go 3 (v % 4) 0 (UInt8.ofNat (left * 16 + v / 4) :: out) cs := by
  rw [base64Go, if_neg (base64Char_ne_equals v hv), base64Value_base64Char v hv]
  rfl

theorem base64Go_fourth : base64Go 3 left pads out (base64Char v :: cs) =
    base64Go 0 0 0 (UInt8.ofNat (left * 64 + v) :: out) cs := by
  rw [base64Go, if_neg (base64Char_ne_equals v hv), base64Value_base64Char v hv]
  rfl

end Digit

theorem first_byte (a b : UInt8) :
    UInt8.ofNat (a.toNat / 4 * 4 + (a.toNat % 4 * 16 + b.toNat / 16) / 16) = a := by
  have hb := b.toNat_lt
  rw [show a.toNat / 4 * 4 + (a.toNat % 4 * 16 + b.toNat / 16) / 16 = a.toNat by omega,
    UInt8.ofNat_toNat]

theorem first_byte_last (a : UInt8) :
    UInt8.ofNat (a.toNat / 4 * 4 + a.toNat % 4 * 16 / 16) = a := by
  rw [show a.toNat / 4 * 4 + a.toNat % 4 * 16 / 16 = a.toNat by omega, UInt8.ofNat_toNat]

theorem second_byte (a b c : UInt8) :
    UInt8.ofNat ((a.toNat % 4 * 16 + b.toNat / 16) % 16 * 16 +
      (b.toNat % 16 * 4 + c.toNat / 64) / 4) = b := by
  have hb := b.toNat_lt
  have hc := c.toNat_lt
  rw [show (a.toNat % 4 * 16 + b.toNat / 16) % 16 * 16 + (b.toNat % 16 * 4 + c.toNat / 64) / 4 =
    b.toNat by omega, UInt8.ofNat_toNat]

theorem second_byte_last (a b : UInt8) :
    UInt8.ofNat ((a.toNat % 4 * 16 + b.toNat / 16) % 16 * 16 + b.toNat % 16 * 4 / 4) = b := by
  have hb := b.toNat_lt
  rw [show (a.toNat % 4 * 16 + b.toNat / 16) % 16 * 16 + b.toNat % 16 * 4 / 4 = b.toNat by omega,
    UInt8.ofNat_toNat]

theorem third_byte (b c : UInt8) :
    UInt8.ofNat ((b.toNat % 16 * 4 + c.toNat / 64) % 4 * 64 + c.toNat % 64) = c := by
  have hc := c.toNat_lt
  rw [show (b.toNat % 16 * 4 + c.toNat / 64) % 4 * 64 + c.toNat % 64 = c.toNat by omega,
    UInt8.ofNat_toNat]

theorem base64Go_sextets (data : List UInt8) : ∀ out : List UInt8,
    base64Go 0 0 0 out ((sextets data).map base64Char ++
      base64Padding ((sextets data).map base64Char).length) = some (out.reverse ++ data) := by
  induction data using sextets.induct with
  | case1 a b c data ih =>
    intro out
    have ha := a.toNat_lt
    have hb := b.toNat_lt
    have hc := c.toNat_lt
    have hlength : base64Padding (((sextets data).map base64Char).length + 1 + 1 + 1 + 1) =
        base64Padding ((sextets data).map base64Char).length := by
      unfold base64Padding
      congr 1
      omega
    simp only [sextets, List.map_cons, List.cons_append, List.length_cons, hlength]
    rw [base64Go_first (by omega), base64Go_second (by omega), base64Go_third (by omega),
      base64Go_fourth (by omega), ih, first_byte, second_byte, third_byte]
    simp
  | case2 a b =>
    intro out
    have ha := a.toNat_lt
    have hb := b.toNat_lt
    simp only [sextets, List.map_cons, List.map_nil, List.cons_append, List.nil_append]
    rw [base64Go_first (by omega), base64Go_second (by omega), base64Go_third (by omega),
      first_byte, second_byte_last]
    change base64Go _ _ 0 _ ['='] = _
    rw [base64Go_equals, if_pos (by omega)]
    simp
  | case3 a =>
    intro out
    have ha := a.toNat_lt
    simp only [sextets, List.map_cons, List.map_nil, List.cons_append, List.nil_append]
    rw [base64Go_first (by omega), base64Go_second (by omega), first_byte_last]
    change base64Go _ _ 0 _ ['=', '='] = _
    rw [base64Go_equals, if_neg (by omega), base64Go_equals]
    simp
  | case4 =>
    intro out
    simp [sextets, base64Padding, base64Go]

theorem b64decode_b64encode (data : ByteArray) : b64decode (b64encode data) = some data := by
  have hascii : (b64encode data).toList.all (fun c => c.toNat < 128) = true := by
    rw [b64encode, String.toList_ofList, List.all_eq_true]
    intro c hc
    rcases List.mem_append.mp hc with hc | hc
    · obtain ⟨v, hv, rfl⟩ := mem_base64Digits hc
      exact decide_eq_true (base64Char_ascii v hv)
    · obtain rfl := List.eq_of_mem_replicate hc
      decide
  have hgo := base64Go_sextets data.data.toList []
  rw [b64decode, if_pos hascii, b64encode, String.toList_ofList, base64Digits, hgo]
  rfl

def urlsafeChar (c : Char) : Char := if c = '+' then '-' else if c = '/' then '_' else c

/-- `urlsafe_b64encode` as text. -/
def urlsafeB64encode (value : ByteArray) : String :=
  String.ofList ((b64encode value).toList.map urlsafeChar)

/-- `text.rstrip("=")`. -/
def rstripEquals (text : String) : String :=
  String.ofList ((text.toList.reverse.dropWhile (· = '=')).reverse)

theorem urlsafeChar_ne_equals : ∀ v < 64, urlsafeChar (base64Char v) ≠ '=' := by decide

theorem urlsafeChar_ne_colon : ∀ v < 64, urlsafeChar (base64Char v) ≠ ':' := by decide

theorem urlsafeChar_back : ∀ v < 64,
    (if urlsafeChar (base64Char v) = '-' then '+'
      else if urlsafeChar (base64Char v) = '_' then '/' else urlsafeChar (base64Char v)) =
        base64Char v := by
  decide

theorem toList_rstripEquals (value : ByteArray) :
    (rstripEquals (urlsafeB64encode value)).toList = (base64Digits value).map urlsafeChar := by
  have hpad : ∀ n : Nat, ((List.replicate n '=').map urlsafeChar) = List.replicate n '=' := by
    intro n
    rw [List.map_replicate]
    rfl
  have hkeep : ∀ cs : List Char, (∀ c ∈ cs, c ≠ '=') → ∀ n : Nat,
      ((cs ++ List.replicate n '=').reverse.dropWhile (· = '=')).reverse = cs := by
    intro cs hcs n
    rw [List.reverse_append, List.reverse_replicate,
      List.dropWhile_append_of_pos (by simp +contextual)]
    have hnone : cs.reverse.dropWhile (· = '=') = cs.reverse := by
      rw [List.dropWhile_eq_self_iff]
      intro hpos
      have hmem := hcs _ (List.mem_reverse.mp (List.getElem_mem hpos))
      simpa using hmem
    rw [hnone, List.reverse_reverse]
  rw [rstripEquals, String.toList_ofList, urlsafeB64encode, String.toList_ofList,
    b64encode, String.toList_ofList, List.map_append, base64Padding, hpad]
  refine hkeep _ ?_ _
  intro c hc
  obtain ⟨d, hd, rfl⟩ := List.mem_map.mp hc
  obtain ⟨v, hv, rfl⟩ := mem_base64Digits hd
  exact urlsafeChar_ne_equals v hv

end Py
