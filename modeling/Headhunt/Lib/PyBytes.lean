import Headhunt.Lib.PyText

/-! Python bytes: slices, hexadecimal digests, `base64.b64decode` and `uuid.uuid5`. Hash
functions and ciphers are parameters. -/
namespace Py

/-- `data[:n]` and `data[n:]`. -/
def bytesTake (n : Nat) (data : ByteArray) : ByteArray := ⟨(data.data.toList.take n).toArray⟩

def bytesDrop (n : Nat) (data : ByteArray) : ByteArray := ⟨(data.data.toList.drop n).toArray⟩

def hexdigest (digest : ByteArray) : String :=
  String.ofList (digest.data.toList.flatMap fun b =>
    [Nat.digitChar (b.toNat / 16), Nat.digitChar (b.toNat % 16)])

theorem digitChar_injective : ∀ d < 16, ∀ e < 16, Nat.digitChar d = Nat.digitChar e → d = e := by
  decide

theorem hexdigest_injective : Function.Injective hexdigest := by
  intro a b h
  have hpairs : ∀ xs ys : List UInt8,
      (xs.flatMap fun x => [Nat.digitChar (x.toNat / 16), Nat.digitChar (x.toNat % 16)]) =
        (ys.flatMap fun y => [Nat.digitChar (y.toNat / 16), Nat.digitChar (y.toNat % 16)]) →
      xs = ys := by
    intro xs
    induction xs with
    | nil =>
      intro ys hys
      cases ys with
      | nil => rfl
      | cons y ys => simp at hys
    | cons x xs ih =>
      intro ys hys
      cases ys with
      | nil => simp at hys
      | cons y ys =>
        simp only [List.flatMap_cons, List.cons_append, List.nil_append, List.cons.injEq] at hys
        obtain ⟨hhigh, hlow, hrest⟩ := hys
        have hx := x.toNat_lt
        have hy := y.toNat_lt
        have hdiv := digitChar_injective _ (by omega) _ (by omega) hhigh
        have hmod := digitChar_injective _ (by omega) _ (by omega) hlow
        have hxy : x = y := UInt8.toNat_inj.mp (by omega)
        rw [hxy, ih ys hrest]
  have hlist := hpairs _ _ (String.ofList_inj.mp h)
  cases a
  cases b
  exact congrArg ByteArray.mk (Array.toList_inj.mp hlist)

/-- What the code uses of hashlib and of the AES cipher; `none` is a `ValueError`. -/
structure Crypto where
  sha1 : ByteArray → ByteArray
  sha256 : ByteArray → ByteArray
  decryptCbc : (key iv cipherText : ByteArray) → Option ByteArray

/-- Hash functions that change nothing, for small runs. -/
def Crypto.plain : Crypto where
  sha1 := id
  sha256 := id
  decryptCbc _ _ _ := none

/-- The sum of the bytes as a digest. -/
def byteSum : Crypto where
  sha1 data := ⟨#[data.data.toList.foldl (· + ·) 0]⟩
  sha256 data := ⟨#[data.data.toList.foldl (· + ·) 0]⟩
  decryptCbc _ _ _ := none

/-- `int.from_bytes(data, "big")`. -/
def bytesValue (data : ByteArray) : Nat := data.data.toList.foldl (fun n b => 256 * n + b.toNat) 0

/-- The bits of `n` outside the mask, and `bits` instead of those inside. -/
def replaceBits (n mask bits : Nat) : Nat := n - (n &&& mask) + bits

def namespaceUrl : ByteArray :=
  ⟨#[0x6b, 0xa7, 0xb8, 0x11, 0x9d, 0xad, 0x11, 0xd1, 0x80, 0xb4, 0x00, 0xc0, 0x4f, 0xd4, 0x30,
    0xc8]⟩

/-- `uuid5(NAMESPACE_URL, name)`. -/
def uuid5 (crypto : Crypto) (name : String) : UUID :=
  let n := bytesValue (bytesTake 16 (crypto.sha1 (namespaceUrl ++ name.toUTF8)))
  let n := replaceBits n (0xc000 <<< 48) (0x8000 <<< 48)
  .ofNat (replaceBits n (0xf000 <<< 64) (5 <<< 76))

def base64Value (c : Char) : Option Nat :=
  if 'A' ≤ c ∧ c ≤ 'Z' then some (c.toNat - 'A'.toNat)
  else if 'a' ≤ c ∧ c ≤ 'z' then some (c.toNat - 'a'.toNat + 26)
  else if '0' ≤ c ∧ c ≤ '9' then some (c.toNat - '0'.toNat + 52)
  else if c = '+' then some 62
  else if c = '/' then some 63
  else none

/-- Decode with `quad` characters of the current group read, `left` the bits not yet
written and `pads` the padding since the last of them. Other characters are skipped. -/
def base64Go (quad left pads : Nat) (out : List UInt8) : List Char → Option (List UInt8)
  | [] => if quad = 0 then some out.reverse else none
  | c :: cs =>
    if c = '=' then
      if 2 ≤ quad ∧ 4 ≤ quad + (pads + 1) then some out.reverse
      else base64Go quad left (if 2 ≤ quad then pads + 1 else pads) out cs
    else
      match base64Value c with
      | none => base64Go quad left pads out cs
      | some v =>
        match quad with
        | 0 => base64Go 1 v 0 out cs
        | 1 => base64Go 2 (v % 16) 0 (UInt8.ofNat (left * 4 + v / 16) :: out) cs
        | 2 => base64Go 3 (v % 4) 0 (UInt8.ofNat (left * 16 + v / 4) :: out) cs
        | _ => base64Go 0 0 0 (UInt8.ofNat (left * 64 + v) :: out) cs

/-- `base64.b64decode(s)`; `none` is a `ValueError`. -/
def b64decode (s : String) : Option ByteArray :=
  if s.toList.all fun c => c.toNat < 128 then
    (base64Go 0 0 0 [] s.toList).map fun out => ⟨out.toArray⟩
  else none

end Py
