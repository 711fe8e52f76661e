import Mathlib.Data.List.Basic
import Mathlib.Data.List.Infix
import Mathlib.Data.Nat.Digits.Defs
import Mathlib.Tactic.Ring
import Mathlib.Tactic.Tauto

/-! Python text: white space, `int` of a string and the textual form of a UUID. -/
namespace Py

/-- `str.isspace` of one character. -/
def isSpace (c : Char) : Bool :=
  let n := c.toNat
  (9 ≤ n && n ≤ 13) || (28 ≤ n && n ≤ 32) || n == 0x85 || n == 0xa0 || n == 0x1680 ||
    (0x2000 ≤ n && n ≤ 0x200a) || n == 0x2028 || n == 0x2029 || n == 0x202f || n == 0x205f ||
    n == 0x3000

/-- Drop the characters of a class from both ends. -/
def stripChars (p : Char → Bool) (cs : List Char) : List Char :=
  ((cs.dropWhile p).reverse.dropWhile p).reverse

theorem isInfix_stripChars (p : Char → Bool) (cs : List Char) : stripChars p cs <:+: cs := by
  have hback : stripChars p cs <+: cs.dropWhile p := by
    rw [← List.reverse_suffix, stripChars, List.reverse_reverse]
    exact List.dropWhile_suffix p
  exact hback.isInfix.trans (List.dropWhile_suffix p).isInfix

/-- `str.strip` without arguments. -/
def strip (s : String) : String := String.ofList (stripChars isSpace s.toList)

/-- `str.lower` of the ASCII letters. Other characters stay, also U+212A and U+0130, which Python
lowers to ASCII letters. -/
def lower (s : String) : String := String.ofList (s.toList.map Char.toLower)

/-- `text.rstrip("/")`. -/
def rstripSlash (text : String) : String :=
  String.ofList ((text.toList.reverse.dropWhile (· = '/')).reverse)

def reprChar (quote c : Char) : List Char :=
  if c = quote ∨ c = '\\' then ['\\', c]
  else if c = '\n' then ['\\', 'n']
  else if c = '\r' then ['\\', 'r']
  else if c = '\t' then ['\\', 't']
  else if c.toNat < 32 ∨ c.toNat = 127 then
    ['\\', 'x', Nat.digitChar (c.toNat / 16), Nat.digitChar (c.toNat % 16)]
  else [c]

/-- `repr` of a text. What Python cannot print beyond ASCII stands as it is. -/
def reprText (s : String) : String :=
  let quote := if '\x27' ∈ s.toList ∧ '"' ∉ s.toList then '"' else '\x27'
  String.ofList (quote :: s.toList.flatMap (reprChar quote) ++ [quote])

/-- `pattern in text`. -/
def contains (text pattern : String) : Bool := decide (pattern.toList <:+: text.toList)

/-- Texts that begin differently. -/
theorem append_ne_append {α : Type*} (n : Nat) {a b : List α} (ha : n ≤ a.length)
    (hb : n ≤ b.length) (h : a.take n ≠ b.take n) (x y : List α) : a ++ x ≠ b ++ y := by
  intro heq
  have htake := congrArg (List.take n) heq
  rw [List.take_append_of_le_length ha, List.take_append_of_le_length hb] at htake
  exact h htake

/-- The zeros of the Unicode decimal digit blocks. -/
def decimalZeros : List Nat :=
  [0x30, 0x660, 0x6f0, 0x7c0, 0x966, 0x9e6, 0xa66, 0xae6, 0xb66, 0xbe6, 0xc66, 0xce6, 0xd66,
    0xde6, 0xe50, 0xed0, 0xf20, 0x1040, 0x1090, 0x17e0, 0x1810, 0x1946, 0x19d0, 0x1a80, 0x1a90,
    0x1b50, 0x1bb0, 0x1c40, 0x1c50, 0xa620, 0xa8d0, 0xa900, 0xa9d0, 0xa9f0, 0xaa50, 0xabf0,
    0xff10, 0x104a0, 0x10d30, 0x11066, 0x110f0, 0x11136, 0x111d0, 0x112f0, 0x11450, 0x114d0,
    0x11650, 0x116c0, 0x11730, 0x118e0, 0x11950, 0x11c50, 0x11d50, 0x11da0, 0x16a60, 0x16ac0,
    0x16b50, 0x1d7ce, 0x1d7d8, 0x1d7e2, 0x1d7ec, 0x1d7f6, 0x1e140, 0x1e2f0, 0x1e950, 0x1fbf0]

def decimalValue (c : Char) : Option Nat :=
  (decimalZeros.find? fun z => z ≤ c.toNat && c.toNat < z + 10).map fun z => c.toNat - z

/-- Value of a digit in bases up to 36: any decimal digit, or an ASCII letter. -/
def digitValue (c : Char) : Option Nat :=
  (decimalValue c).or
    (if 'a' ≤ c ∧ c ≤ 'z' then some (c.toNat - 'a'.toNat + 10)
    else if 'A' ≤ c ∧ c ≤ 'Z' then some (c.toNat - 'A'.toNat + 10)
    else none)

def digitIn (base : Nat) (c : Char) : Option Nat := (digitValue c).filter (· < base)

/-- The digits after the first one; a single underscore may separate two digits. -/
def moreDigits (base : Nat) : Nat → List Char → Option Nat
  | acc, [] => some acc
  | acc, '_' :: c :: cs => (digitIn base c).bind fun d => moreDigits base (acc * base + d) cs
  | acc, c :: cs => (digitIn base c).bind fun d => moreDigits base (acc * base + d) cs

def digits (base : Nat) : List Char → Option Nat
  | [] => none
  | c :: cs => (digitIn base c).bind fun d => moreDigits base d cs

/-- The white space `int` skips; unlike `strip` not the separators 28 to 31. -/
def intSpace (c : Char) : Bool := isSpace c && !(28 ≤ c.toNat && c.toNat ≤ 31)

def unsigned (base : Nat) (cs : List Char) : Option Nat :=
  match base, cs with
  | 16, '0' :: 'x' :: '_' :: cs | 16, '0' :: 'X' :: '_' :: cs => digits 16 cs
  | 16, '0' :: 'x' :: cs | 16, '0' :: 'X' :: cs => digits 16 cs
  | base, cs => digits base cs

/-- CPython refuses to convert decimal literals of more digits than this. -/
def maxStrDigits : Nat := 4300

/-- `int(s, base)`; `none` is a `ValueError`. -/
def intOf (base : Nat) (s : String) : Option Int :=
  let cs := stripChars intSpace s.toList
  if base = 10 ∧ maxStrDigits < (cs.filter fun c => (decimalValue c).isSome).length then none
  else
    match cs with
    | '-' :: cs => (unsigned base cs).map fun n => -(n : Int)
    | '+' :: cs => (unsigned base cs).map fun n => (n : Int)
    | cs => (unsigned base cs).map fun n => (n : Int)

/-- `s.replace(pattern, "")`; every match consumes fuel, so the length is enough. -/
def removeAll (pattern : List Char) : Nat → List Char → List Char
  | 0, cs => cs
  | _ + 1, [] => []
  | fuel + 1, c :: cs =>
    if pattern.isPrefixOf (c :: cs) then removeAll pattern fuel ((c :: cs).drop pattern.length)
    else c :: removeAll pattern fuel cs

structure UUID where
  int : Nat
  isLt : int < 2 ^ 128
deriving DecidableEq

namespace UUID

/-- `UUID(int=n)`. -/
def ofNat (n : Nat) : UUID := ⟨n % 2 ^ 128, Nat.mod_lt n (Nat.two_pow_pos 128)⟩

/-- The lowest `k` hexadecimal digits of `n`, most significant first. -/
def hexDigits : Nat → Nat → List Char
  | 0, _ => []
  | k + 1, n => hexDigits k (n / 16) ++ [Nat.digitChar (n % 16)]

def dashed (h : List Char) : List Char :=
  h.take 8 ++ '-' :: ((h.drop 8).take 4 ++ '-' :: ((h.drop 12).take 4 ++
    '-' :: ((h.drop 16).take 4 ++ '-' :: h.drop 20)))

/-- `str(u)`. -/
def str (u : UUID) : String := String.ofList (dashed (hexDigits 32 u.int))

/-- The hexadecimal text the constructor reads the number from. -/
def bareHex (s : String) : List Char :=
  let h := removeAll "urn:".toList s.toList.length s.toList
  let h := removeAll "uuid:".toList h.length h
  (stripChars (fun c => c == '{' || c == '}') h).filter (· != '-')

/-- `UUID(s)`; `none` is a `ValueError`. -/
def parse (s : String) : Option UUID :=
  let h := bareHex s
  if h.length = 32 then
    match intOf 16 (String.ofList h) with
    | some (.ofNat n) => if hn : n < 2 ^ 128 then some ⟨n, hn⟩ else none
    | _ => none
  else none

/-- The text of the `ValueError` of `UUID(s)`. -/
def errorText (s : String) : String :=
  let h := bareHex s
  if h.length ≠ 32 then "badly formed hexadecimal UUID string"
  else if (intOf 16 (String.ofList h)).isSome then "int is out of range (need a 128-bit value)"
  else "invalid literal for int() with base 16: " ++ reprText (String.ofList h)

theorem mem_hexDigits {c : Char} {k n : Nat} (h : c ∈ hexDigits k n) :
    ∃ d < 16, c = Nat.digitChar d := by
  induction k generalizing n with
  | zero => simp [hexDigits] at h
  | succ k ih =>
    rcases List.mem_append.mp h with h | h
    · exact ih h
    · exact ⟨n % 16, Nat.mod_lt _ (by decide), List.mem_singleton.mp h⟩

@[simp] theorem length_hexDigits (k n : Nat) : (hexDigits k n).length = k := by
  induction k generalizing n with
  | zero => rfl
  | succ k ih => simp [hexDigits, ih]

/-- Hexadecimal digits carry no sign, prefix, separator or brace. -/
theorem plain_hexDigit : ∀ d < 16, Nat.digitChar d ∉ ['u', 'x', 'X', '_', '-', '+', '{', '}'] ∧
    intSpace (Nat.digitChar d) = false ∧ digitIn 16 (Nat.digitChar d) = some d := by
  decide

theorem moreDigits_cons (base acc : Nat) {c : Char} (cs : List Char) (hc : c ≠ '_') :
    moreDigits base acc (c :: cs) =
      (digitIn base c).bind fun d => moreDigits base (acc * base + d) cs := by
  rw [moreDigits]
  intro _ _ h
  exact absurd h hc

theorem moreDigits_append (base acc : Nat) {cs : List Char} {c : Char} (hcs : '_' ∉ cs)
    (hc : c ≠ '_') : moreDigits base acc (cs ++ [c]) =
      (moreDigits base acc cs).bind fun n => (digitIn base c).map fun d => n * base + d := by
  induction cs generalizing acc with
  | nil =>
    simp only [List.nil_append, moreDigits_cons base acc [] hc, moreDigits, Option.bind_some]
    exact Option.map_eq_bind.symm
  | cons a cs ih =>
    have ha : a ≠ '_' := by
      intro h
      simp [h] at hcs
    have hcs' : '_' ∉ cs := fun h => hcs (List.mem_cons_of_mem a h)
    simp only [List.cons_append, moreDigits_cons base acc _ ha, Option.bind_assoc, ih _ hcs']

theorem moreDigits_hexDigits (acc k n : Nat) :
    moreDigits 16 acc (hexDigits k n) = some (acc * 16 ^ k + n % 16 ^ k) := by
  induction k generalizing n with
  | zero => simp [hexDigits, moreDigits, Nat.mod_one]
  | succ k ih =>
    have hmem : ∀ c ∈ hexDigits k (n / 16), c ≠ '_' := by
      intro c hc h
      obtain ⟨d, hd, rfl⟩ := mem_hexDigits hc
      exact (plain_hexDigit d hd).1 (by simp [h])
    obtain ⟨hlast, _, hvalue⟩ := plain_hexDigit (n % 16) (Nat.mod_lt _ (by decide))
    have hsplit : n % 16 ^ (k + 1) = n % 16 + 16 * (n / 16 % 16 ^ k) := by
      rw [pow_succ', Nat.mod_mul]
    rw [hexDigits, moreDigits_append 16 acc (fun h => hmem _ h rfl) (fun h => hlast (by simp [h])),
      ih, hvalue, hsplit, Option.bind_some, Option.map_some, pow_succ]
    congr 1
    ring

theorem stripChars_eq_self {p : Char → Bool} {cs : List Char} (h : ∀ c ∈ cs, p c = false) :
    stripChars p cs = cs := by
  have hdrop : ∀ ds : List Char, (∀ c ∈ ds, p c = false) → ds.dropWhile p = ds := by
    intro ds hds
    cases ds with
    | nil => rfl
    | cons a ds => simp [hds a (by simp)]
  unfold stripChars
  rw [hdrop cs h, hdrop cs.reverse (by simpa using h), List.reverse_reverse]

theorem removeAll_eq_self {a : Char} {pattern : List Char} {cs : List Char} (h : a ∉ cs)
    (fuel : Nat) : removeAll (a :: pattern) fuel cs = cs := by
  induction fuel generalizing cs with
  | zero => rfl
  | succ fuel ih =>
    cases cs with
    | nil => rfl
    | cons c cs =>
      have hc : ¬(a = c) := fun he => h (by simp [he])
      simp [removeAll, hc, ih (fun hm => h (List.mem_cons_of_mem c hm))]

theorem mem_dashed {c : Char} {h : List Char} (hc : c ∈ dashed h) : c = '-' ∨ c ∈ h := by
  simp only [dashed, List.mem_append, List.mem_cons] at hc
  rcases hc with hc | rfl | hc | rfl | hc | rfl | hc | rfl | hc
  · exact Or.inr (List.mem_of_mem_take hc)
  · exact Or.inl rfl
  · exact Or.inr (List.mem_of_mem_drop (List.mem_of_mem_take hc))
  · exact Or.inl rfl
  · exact Or.inr (List.mem_of_mem_drop (List.mem_of_mem_take hc))
  · exact Or.inl rfl
  · exact Or.inr (List.mem_of_mem_drop (List.mem_of_mem_take hc))
  · exact Or.inl rfl
  · exact Or.inr (List.mem_of_mem_drop hc)

theorem filter_dashed {h : List Char} (hh : '-' ∉ h) : (dashed h).filter (· != '-') = h := by
  have hself : ∀ l : List Char, (∀ c ∈ l, c ∈ h) → l.filter (· != '-') = l := by
    intro l hl
    refine List.filter_eq_self.mpr fun c hc => ?_
    have : c ≠ '-' := by
      rintro rfl
      exact hh (hl _ hc)
    simpa using this
  have hpieces : ∀ i n, (List.take n (List.drop i h)).filter (· != '-') =
      List.take n (List.drop i h) := fun i n =>
    hself _ fun c hc => List.mem_of_mem_drop (List.mem_of_mem_take hc)
  have hfirst := hself (h.take 8) fun c hc => List.mem_of_mem_take hc
  have hlast := hself (h.drop 20) fun c hc => List.mem_of_mem_drop hc
  simp only [dashed, List.filter_append, List.filter_cons, hpieces, hfirst, hlast]
  simp only [bne_self_eq_false, Bool.false_eq_true, if_false]
  calc h.take 8 ++ ((h.drop 8).take 4 ++ ((h.drop 12).take 4 ++ ((h.drop 16).take 4 ++ h.drop 20)))
      = h.take 8 ++ ((h.drop 8).take 4 ++ ((h.drop 12).take 4 ++ h.drop 16)) := by
        rw [show h.drop 20 = (h.drop 16).drop 4 by simp, List.take_append_drop]
    _ = h.take 8 ++ ((h.drop 8).take 4 ++ h.drop 12) := by
        rw [show h.drop 16 = (h.drop 12).drop 4 by simp, List.take_append_drop]
    _ = h.take 8 ++ h.drop 8 := by
        rw [show h.drop 12 = (h.drop 8).drop 4 by simp, List.take_append_drop]
    _ = h := List.take_append_drop 8 h

theorem bareHex_str (u : UUID) : bareHex (str u) = hexDigits 32 u.int := by
  simp only [bareHex, str, String.toList_ofList]
  have hplain : ∀ c ∈ hexDigits 32 u.int,
      c ∉ ['u', 'x', 'X', '_', '-', '+', '{', '}'] := by
    intro c hc
    obtain ⟨d, hd, rfl⟩ := mem_hexDigits hc
    exact (plain_hexDigit d hd).1
  generalize hexDigits 32 u.int = h at hplain
  have hdashed : ∀ c ∈ dashed h, c ≠ 'u' ∧ c ≠ '{' ∧ c ≠ '}' := by
    intro c hc
    rcases mem_dashed hc with rfl | hc
    · decide
    · have := hplain c hc
      simp only [List.mem_cons, not_or] at this
      tauto
  have hu : 'u' ∉ dashed h := fun hm => (hdashed _ hm).1 rfl
  have hminus : '-' ∉ h := fun hm => hplain _ hm (by simp)
  rw [show "urn:".toList = 'u' :: "rn:".toList from rfl,
    show "uuid:".toList = 'u' :: "uid:".toList from rfl,
    removeAll_eq_self hu, removeAll_eq_self hu, stripChars_eq_self, filter_dashed hminus]
  intro c hc
  obtain ⟨_, h1, h2⟩ := hdashed c hc
  simp [h1, h2]

theorem intOf_hexDigits {n : Nat} (hn : n < 16 ^ 32) :
    intOf 16 (String.ofList (hexDigits 32 n)) = some (n : Int) := by
  have hplain : ∀ c ∈ hexDigits 32 n, c ∉ ['u', 'x', 'X', '_', '-', '+', '{', '}'] ∧
      intSpace c = false := by
    intro c hc
    obtain ⟨d, hd, rfl⟩ := mem_hexDigits hc
    exact ⟨(plain_hexDigit d hd).1, (plain_hexDigit d hd).2.1⟩
  have hvalue := moreDigits_hexDigits 0 32 n
  rw [Nat.zero_mul, Nat.zero_add, Nat.mod_eq_of_lt hn] at hvalue
  have hlen := length_hexDigits 32 n
  generalize hexDigits 32 n = cs at hplain hvalue hlen
  unfold intOf
  simp only [String.toList_ofList, stripChars_eq_self fun c hc => (hplain c hc).2]
  rw [if_neg (by simp)]
  match cs with
  | [] => simp at hlen
  | [c] => simp at hlen
  | c :: c' :: cs =>
    have hc := (hplain c (by simp)).1
    have hc' := (hplain c' (by simp)).1
    simp only [List.mem_cons, not_or] at hc hc'
    have hdigits : unsigned 16 (c :: c' :: cs) = some n := by
      unfold unsigned
      split
      · simp_all
      · simp_all
      · simp_all
      · simp_all
      · rw [digits, ← hvalue, moreDigits]
        · simp
        · intro a b h
          simp_all
    split
    · simp_all
    · simp_all
    · rw [hdigits]
      rfl

theorem parse_str (u : UUID) : parse (str u) = some u := by
  have hlt : u.int < 16 ^ 32 := u.isLt.trans_le (by norm_num)
  unfold parse
  simp only [bareHex_str, length_hexDigits, if_true, intOf_hexDigits hlt]
  exact dif_pos u.isLt

theorem str_injective : Function.Injective str := by
  intro u v h
  have := parse_str u
  rw [h, parse_str] at this
  exact (Option.some.inj this).symm

theorem length_str (u : UUID) : (str u).length = 36 := by
  have hlen := length_hexDigits 32 u.int
  unfold str
  generalize hexDigits 32 u.int = h at hlen
  rw [String.length_ofList]
  simp only [dashed, List.length_append, List.length_cons, List.length_take, List.length_drop, hlen]
  omega

end UUID
end Py
