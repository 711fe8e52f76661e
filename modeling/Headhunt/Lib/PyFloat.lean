import Mathlib.Algebra.Order.Ring.Nat
import Mathlib.Data.Nat.Log

/-! Python floats: the double nearest to a decimal literal and its shortest repr. -/
namespace Py

inductive Double
  | finite (neg : Bool) (mantissa : Nat) (exponent : Int)
  | inf (neg : Bool)
  | nan
deriving DecidableEq

namespace Double

/-- `num / den * base ^ k` as a fraction of naturals. -/
def scale (base num den : Nat) (k : Int) : Nat × Nat :=
  match k with
  | .ofNat k => (num * base ^ k, den)
  | .negSucc k => (num, den * base ^ (k + 1))

def roundEven (num den : Nat) : Nat :=
  let q := num / den
  let r := num % den
  if 2 * r < den then q else if den < 2 * r then q + 1 else q + q % 2

/-- The double nearest to `± num / den`, ties to even. -/
def ofFraction (neg : Bool) (num den : Nat) : Double :=
  if num = 0 then .finite neg 0 (-1074)
  else
    let l : Int := (Nat.log2 num : Int) - Nat.log2 den
    let (a, b) := scale 2 num den (-l)
    let exponent := max (-1074) ((if a < b then l - 1 else l) - 52)
    let (a, b) := scale 2 num den (-exponent)
    let mantissa := roundEven a b
    let (mantissa, exponent) :=
      if mantissa = 2 ^ 53 then (2 ^ 52, exponent + 1) else (mantissa, exponent)
    if 971 < exponent then .inf neg else .finite neg mantissa exponent

/-- `float` of the literal `± digits * 10 ^ k`. Outside the cut-offs the result is
infinite or zero whatever the digits are. -/
def ofDecimal (neg : Bool) (digits : Nat) (k : Int) : Double :=
  let magnitude : Int := (Nat.log 10 digits : Int) + k
  if digits = 0 ∨ magnitude < -400 then .finite neg 0 (-1074)
  else if 400 < magnitude then .inf neg
  else
    let (num, den) := scale 10 digits 1 k
    ofFraction neg num den

/-- The `n` digit decimals next to a positive double, the nearer one first. -/
def decimals (mantissa : Nat) (exponent : Int) (n : Nat) : List (Nat × Int) :=
  let (num, den) := scale 2 mantissa 1 exponent
  let magnitude : Int :=
    if den ≤ num then Nat.log 10 (num / den) else -(Nat.clog 10 ((den + num - 1) / num) : Int)
  let k := magnitude - n + 1
  let (a, b) := scale 10 num den (-k)
  let q := a / b
  if roundEven a b = q then [(q, k), (q + 1, k)] else [(q + 1, k), (q, k)]

def shortest (mantissa : Nat) (exponent : Int) : Nat × Int :=
  let candidates := (List.range' 1 17).flatMap (decimals mantissa exponent)
  (candidates.find? fun c => ofDecimal false c.1 c.2 = .finite false mantissa exponent).getD (0, 0)

def dropTrailingZeros : Nat → Nat → Int → Nat × Int
  | 0, n, k => (n, k)
  | fuel + 1, n, k => if n ≠ 0 ∧ n % 10 = 0 then dropTrailingZeros fuel (n / 10) (k + 1) else (n, k)

def exponentText (e : Int) : List Char :=
  let digits := Nat.toDigits 10 e.natAbs
  (if e < 0 then '-' else '+') :: (if digits.length < 2 then '0' :: digits else digits)

def positiveRepr (mantissa : Nat) (exponent : Int) : List Char :=
  let (n, k) := shortest mantissa exponent
  let (n, k) := dropTrailingZeros 20 n k
  let digits := Nat.toDigits 10 n
  let point : Int := digits.length + k
  if point < -3 ∨ 16 < point then
    let head := match digits with
      | [d] => [d]
      | d :: ds => d :: '.' :: ds
      | [] => []
    head ++ 'e' :: exponentText (point - 1)
  else if point ≤ 0 then "0.".toList ++ List.replicate point.natAbs '0' ++ digits
  else if point < digits.length then
    digits.take point.toNat ++ '.' :: digits.drop point.toNat
  else digits ++ List.replicate k.toNat '0' ++ ".0".toList

/-- The spelling `json.dumps` gives a float. -/
def repr : Double → String
  | .nan => "NaN"
  | .inf false => "Infinity"
  | .inf true => "-Infinity"
  | .finite neg mantissa exponent =>
    let text := if mantissa = 0 then "0.0".toList else positiveRepr mantissa exponent
    String.ofList (if neg then '-' :: text else text)

def truthy : Double → Bool
  | .finite _ mantissa _ => mantissa != 0
  | _ => true

def pyEq : Double → Double → Bool
  | .finite neg m e, .finite neg' m' e' =>
    let k := min e e'
    (if neg then -(m : Int) else m) * 2 ^ (e - k).toNat ==
      (if neg' then -(m' : Int) else m') * 2 ^ (e' - k).toNat
  | .inf neg, .inf neg' => neg == neg'
  | _, _ => false

/-- An integer as a float of the same value, for comparisons. -/
def ofInt (n : Int) : Double := .finite (n < 0) n.natAbs 0

end Double
end Py
