import Headhunt.Lib.PyFloat
import Headhunt.Lib.PyText

/-! `json.loads` and `json.dumps`, and the values between them. The items of an
object are kept in the order of their keys, so equal dicts are equal values. -/
namespace Py

inductive Json
  | null
  | bool (b : Bool)
  | int (n : Int)
  | float (x : Double)
  | str (s : String)
  | arr (elems : List Json)
  | obj (items : List (String × Json))

abbrev Dict := List (String × Json)

namespace Dict

def get? (d : Dict) (k : String) : Option Json := (d.find? fun item => item.1 = k).map (·.2)

/-- `d.get(k)`; `None` and the JSON `null` are one value. -/
def get (d : Dict) (k : String) : Json := (d.get? k).getD .null

/-- `d[k] = v`. -/
def set (d : Dict) (k : String) (v : Json) : Dict :=
  match d with
  | [] => [(k, v)]
  | (k', v') :: d =>
    if k = k' then (k, v) :: d else if k < k' then (k, v) :: (k', v') :: d else (k', v') :: set d k v

/-- `d.setdefault(k, v)`. -/
def setdefault (d : Dict) (k : String) (v : Json) : Dict :=
  if (d.get? k).isSome then d else d.set k v

/-- `{**d, **e}`. -/
def merge (d e : Dict) : Dict := e.foldl (fun d item => d.set item.1 item.2) d

/-- A dict display. -/
def ofList (items : List (String × Json)) : Dict := merge [] items

@[simp] theorem get?_nil (k : String) : get? [] k = none := rfl

@[simp] theorem get_nil (k : String) : get [] k = .null := rfl

theorem get?_cons (item : String × Json) (d : Dict) (k : String) :
    get? (item :: d) k = if item.1 = k then some item.2 else get? d k := by
  by_cases h : item.1 = k <;> simp [get?, h]

theorem get_cons (item : String × Json) (d : Dict) (k : String) :
    get (item :: d) k = if item.1 = k then item.2 else get d k := by
  by_cases h : item.1 = k <;> simp [get, get?_cons, h]

@[simp] theorem get?_set_self (d : Dict) (k : String) (v : Json) :
    (d.set k v).get? k = some v := by
  induction d with
  | nil => simp [set, get?_cons]
  | cons item d ih =>
    simp only [set]
    split_ifs with h
    · simp [get?_cons]
    · simp [get?_cons]
    · simp [get?_cons, Ne.symm h, ih]

theorem get?_set_ne (d : Dict) {k j : String} (v : Json) (hjk : j ≠ k) :
    (d.set k v).get? j = d.get? j := by
  induction d with
  | nil => simp [set, get?_cons, hjk.symm]
  | cons item d ih =>
    simp only [set]
    split_ifs with h
    · simp [get?_cons, hjk.symm, ← h]
    · simp [get?_cons, hjk.symm]
    · simp [get?_cons, ih]

@[simp] theorem get_set_self (d : Dict) (k : String) (v : Json) : (d.set k v).get k = v := by
  simp [get]

theorem get_set (d : Dict) (k j : String) (v : Json) :
    (d.set k v).get j = if k = j then v else d.get j := by
  by_cases h : k = j
  · subst h
    simp [get]
  · simp [get, get?_set_ne d v (Ne.symm h), h]

theorem get_set_ne (d : Dict) {k j : String} (v : Json) (hjk : j ≠ k) :
    (d.set k v).get j = d.get j := by
  simp [get, get?_set_ne d v hjk]

@[simp] theorem get?_set (d : Dict) (k j : String) (v : Json) :
    (d.set k v).get? j = if k = j then some v else d.get? j := by
  by_cases h : k = j
  · subst h
    simp
  · simp [get?_set_ne d v (Ne.symm h), h]

/-- In a merge the last item with the key counts. -/
theorem get?_merge (d e : Dict) (k : String) :
    (d.merge e).get? k = (get? e.reverse k).or (d.get? k) := by
  induction e generalizing d with
  | nil => rfl
  | cons item e ih =>
    have happend : ∀ r : Dict, get? (r ++ [item]) k =
        (get? r k).or (if item.1 = k then some item.2 else none) := by
      intro r
      by_cases h : item.1 = k <;> simp [get?, List.find?_append, h]
    change get? (merge (d.set item.1 item.2) e) k = _
    rw [ih, List.reverse_cons, happend, get?_set]
    cases get? e.reverse k with
    | some v => rfl
    | none => by_cases h : item.1 = k <;> simp [h]

theorem get_ofList (items : Dict) (k : String) : (ofList items).get k = get items.reverse k := by
  simp [ofList, get, get?_merge]

theorem get?_of_mem {d : Dict} {k : String} {v : Json} (hkeys : (d.map (·.1)).Nodup)
    (h : (k, v) ∈ d) : d.get? k = some v := by
  induction d with
  | nil => cases h
  | cons item d ih =>
    obtain ⟨hnotin, hkeys⟩ := List.nodup_cons.mp hkeys
    rw [get?_cons]
    rcases List.mem_cons.mp h with rfl | hmem
    · simp
    · have hne : item.1 ≠ k := by
        rintro rfl
        exact hnotin (List.mem_map.mpr ⟨_, hmem, rfl⟩)
      rw [if_neg hne, ih hkeys hmem]

theorem get_ofList_of_mem {items : Dict} {k : String} {v : Json}
    (hkeys : (items.map (·.1)).Nodup) (h : (k, v) ∈ items) : (ofList items).get k = v := by
  have hreverse : (items.reverse.map (·.1)).Nodup := by
    rw [List.map_reverse]
    exact List.pairwise_reverse.mpr (hkeys.imp Ne.symm)
  rw [get_ofList, get, get?_of_mem hreverse (List.mem_reverse.mpr h), Option.getD_some]

end Dict

namespace Json

/-- `x if isinstance(x, dict) else {}`. -/
def asDict : Json → Dict
  | .obj d => d
  | _ => []

/-- `type(value).__name__`. -/
def typeName : Json → String
  | .null => "NoneType"
  | .bool _ => "bool"
  | .int _ => "int"
  | .float _ => "float"
  | .str _ => "str"
  | .arr _ => "list"
  | .obj _ => "dict"

/-- `x if isinstance(x, str) else None`. -/
def asStr : Json → Option String
  | .str s => some s
  | _ => none

/-- `bool(x)`. -/
def truthy : Json → Bool
  | .null => false
  | .bool b => b
  | .int n => n != 0
  | .float x => x.truthy
  | .str s => s != ""
  | .arr elems => !elems.isEmpty
  | .obj items => !items.isEmpty

/-- `x or y`. -/
def orElse (x y : Json) : Json := if x.truthy then x else y

mutual

def beq : Json → Json → Bool
  | .null, .null => true
  | .bool a, .bool b => a == b
  | .int m, .int n => m == n
  | .float x, .float y => x == y
  | .str s, .str t => s == t
  | .arr xs, .arr ys => beqElems xs ys
  | .obj d, .obj e => beqItems d e
  | _, _ => false

def beqElems : List Json → List Json → Bool
  | [], [] => true
  | x :: xs, y :: ys => beq x y && beqElems xs ys
  | _, _ => false

def beqItems : Dict → Dict → Bool
  | [], [] => true
  | (k, x) :: d, (j, y) :: e => k == j && beq x y && beqItems d e
  | _, _ => false

end

mutual

theorem beq_iff : ∀ a b : Json, beq a b = true ↔ a = b
  | .null, b => by cases b <;> simp [beq]
  | .bool _, b => by cases b <;> simp [beq]
  | .int _, b => by cases b <;> simp [beq]
  | .float _, b => by cases b <;> simp [beq]
  | .str _, b => by cases b <;> simp [beq]
  | .arr xs, b => by cases b <;> simp [beq, beqElems_iff xs]
  | .obj d, b => by cases b <;> simp [beq, beqItems_iff d]

theorem beqElems_iff : ∀ xs ys : List Json, beqElems xs ys = true ↔ xs = ys
  | [], ys => by cases ys <;> simp [beqElems]
  | x :: xs, ys => by cases ys <;> simp [beqElems, beq_iff x, beqElems_iff xs]

theorem beqItems_iff : ∀ d e : Dict, beqItems d e = true ↔ d = e
  | [], e => by cases e <;> simp [beqItems]
  | (k, x) :: d, e => by
    cases e <;> simp [beqItems, beq_iff x, beqItems_iff d, Prod.ext_iff]

end

instance : DecidableEq Json := fun a b => decidable_of_iff (beq a b = true) (beq_iff a b)

/-- A number, `True` and `False` among them. -/
def number? : Json → Option Double
  | .bool b => some (.ofInt (if b then 1 else 0))
  | .int n => some (.ofInt n)
  | .float x => some x
  | _ => none

mutual

/-- `x == y`: numbers are compared by value. -/
def pyEq : Json → Json → Bool
  | .null, .null => true
  | .str s, .str t => s == t
  | .arr xs, .arr ys => pyEqElems xs ys
  | .obj d, .obj e => pyEqItems d e
  | a, b =>
    match a.number?, b.number? with
    | some x, some y => x.pyEq y
    | _, _ => false

def pyEqElems : List Json → List Json → Bool
  | [], [] => true
  | x :: xs, y :: ys => pyEq x y && pyEqElems xs ys
  | _, _ => false

def pyEqItems : Dict → Dict → Bool
  | [], [] => true
  | (k, x) :: d, (j, y) :: e => k == j && pyEq x y && pyEqItems d e
  | _, _ => false

end

end Json

/-- `value if isinstance(value, dict) else None`. -/
def dictOrNone : Json → Option Dict
  | .obj d => some d
  | _ => none

@[simp] theorem dictOrNone_obj (d : Dict) : dictOrNone (.obj d) = some d := rfl

@[simp] theorem dictOrNone_null : dictOrNone .null = none := rfl

def nonemptyDict (d : Option Dict) : Bool := d.any fun d => !d.isEmpty

def optionalText : Option String → Json
  | some text => .str text
  | none => .null

/-- `_first_str`: the first value that is a string and not empty. -/
def firstStr (values : List Json) : Option String :=
  values.findSome? fun v => v.asStr.filter (· ≠ "")

theorem firstStr_singleton_eq_some {v : Json} {s : String} :
    firstStr [v] = some s ↔ v = .str s ∧ s ≠ "" := by
  cases v <;> simp [firstStr, Json.asStr, Option.filter_eq_some_iff]

/-- A `JSONDecodeError`, or the plain `ValueError` of an integer with too many digits. That a
deeply nested value also runs into the recursion limit of the interpreter is left out. -/
inductive LoadsError
  | decode
  | value
deriving DecidableEq, Repr

def isJsonSpace (c : Char) : Bool := c == ' ' || c == '\t' || c == '\n' || c == '\r'

def skipSpace (cs : List Char) : List Char := cs.dropWhile isJsonSpace

def isDigit (c : Char) : Bool := '0' ≤ c && c ≤ '9'

def digitsValue (ds : List Char) : Nat := ds.foldl (fun n c => 10 * n + (c.toNat - '0'.toNat)) 0

def scanExponent (cs : List Char) : Option (Int × List Char) :=
  let (neg, body) := match cs with
    | '-' :: cs => (true, cs)
    | '+' :: cs => (false, cs)
    | cs => (false, cs)
  let ds := body.takeWhile isDigit
  if ds = [] then none
  else some (if neg then -(digitsValue ds : Int) else digitsValue ds, body.dropWhile isDigit)

def scanNumber (cs : List Char) : Except LoadsError (Json × List Char) :=
  let (neg, body) := match cs with
    | '-' :: cs => (true, cs)
    | cs => (false, cs)
  let whole := match body with
    | '0' :: _ => ['0']
    | cs => cs.takeWhile isDigit
  let rest := body.drop whole.length
  let fraction := match rest with
    | '.' :: cs => cs.takeWhile isDigit
    | _ => []
  let rest := if fraction = [] then rest else rest.drop (fraction.length + 1)
  let exponent := match rest with
    | 'e' :: cs => scanExponent cs
    | 'E' :: cs => scanExponent cs
    | _ => none
  if whole = [] then .error .decode
  else if fraction = [] ∧ exponent = none then
    if maxStrDigits < whole.length then .error .value
    else .ok (.int (if neg then -(digitsValue whole : Int) else digitsValue whole), rest)
  else
    let (power, rest) := exponent.getD (0, rest)
    .ok (.float (Double.ofDecimal neg (digitsValue (whole ++ fraction)) (power - fraction.length)),
      rest)

def hex4 (cs : List Char) : Option (Nat × List Char) :=
  if (cs.take 4).length = 4 then
    ((cs.take 4).foldlM (fun n c =>
      if c.toNat < 128 then (digitIn 16 c).map (16 * n + ·) else none) 0).map (·, cs.drop 4)
  else none

/-- The character after `\u`. A high surrogate must be followed by a low one: text has no lone
surrogates here, so that their escapes are refused, which Python accepts. -/
def scanUnicode (cs : List Char) : Option (Char × List Char) := do
  let (n, rest) ← hex4 cs
  if 0xd800 ≤ n ∧ n < 0xdc00 then
    match rest with
    | '\\' :: 'u' :: cs =>
      let (m, rest) ← hex4 cs
      if 0xdc00 ≤ m ∧ m < 0xe000 then
        some (Char.ofNat (0x10000 + (n - 0xd800) * 0x400 + (m - 0xdc00)), rest)
      else none
    | _ => none
  else if 0xdc00 ≤ n ∧ n < 0xe000 then none
  else some (Char.ofNat n, rest)

def escapes : List (Char × Char) :=
  [('"', '"'), ('\\', '\\'), ('/', '/'), ('b', '\x08'), ('f', '\x0c'), ('n', '\n'), ('r', '\r'),
    ('t', '\t')]

/-- The text up to the closing quote; control characters must be escaped. -/
def scanString : Nat → List Char → List Char → Except LoadsError (String × List Char)
  | 0, _, _ => .error .decode
  | fuel + 1, acc, cs =>
    match cs with
    | [] => .error .decode
    | '"' :: cs => .ok (String.ofList acc.reverse, cs)
    | '\\' :: 'u' :: cs =>
      match scanUnicode cs with
      | some (c, cs) => scanString fuel (c :: acc) cs
      | none => .error .decode
    | '\\' :: c :: cs =>
      match escapes.lookup c with
      | some c => scanString fuel (c :: acc) cs
      | none => .error .decode
    | c :: cs => if c.toNat < 32 then .error .decode else scanString fuel (c :: acc) cs

def constants : List (List Char × Json) :=
  [("null".toList, .null), ("true".toList, .bool true), ("false".toList, .bool false),
    ("NaN".toList, .float .nan), ("Infinity".toList, .float (.inf false)),
    ("-Infinity".toList, .float (.inf true))]

def scanConstant (cs : List Char) : Option (Json × List Char) :=
  (constants.find? fun c => c.1.isPrefixOf cs).map fun c => (c.2, cs.drop c.1.length)

mutual

def scanValue : Nat → List Char → Except LoadsError (Json × List Char)
  | 0, _ => .error .decode
  | fuel + 1, cs =>
    match cs with
    | '"' :: cs => (scanString cs.length.succ [] cs).map fun r => (.str r.1, r.2)
    | '[' :: cs =>
      match skipSpace cs with
      | ']' :: cs => .ok (.arr [], cs)
      | cs => scanElems fuel [] cs
    | '{' :: cs =>
      match skipSpace cs with
      | '}' :: cs => .ok (.obj [], cs)
      | cs => scanItems fuel [] cs
    | cs =>
      match scanConstant cs with
      | some r => .ok r
      | none => scanNumber cs

def scanElems : Nat → List Json → List Char → Except LoadsError (Json × List Char)
  | 0, _, _ => .error .decode
  | fuel + 1, acc, cs => do
    let (v, cs) ← scanValue fuel cs
    match skipSpace cs with
    | ',' :: cs => scanElems fuel (v :: acc) (skipSpace cs)
    | ']' :: cs => .ok (.arr (v :: acc).reverse, cs)
    | _ => .error .decode

/-- A key met again replaces the earlier value. -/
def scanItems : Nat → Dict → List Char → Except LoadsError (Json × List Char)
  | 0, _, _ => .error .decode
  | fuel + 1, acc, cs =>
    match cs with
    | '"' :: cs => do
      let (k, cs) ← scanString cs.length.succ [] cs
      match skipSpace cs with
      | ':' :: cs =>
        let (v, cs) ← scanValue fuel (skipSpace cs)
        match skipSpace cs with
        | ',' :: cs => scanItems fuel (acc.set k v) (skipSpace cs)
        | '}' :: cs => .ok (.obj (acc.set k v), cs)
        | _ => .error .decode
      | _ => .error .decode
    | _ => .error .decode

end

/-- `json.loads` of text, but for the escapes of lone surrogates. Every two levels of the scan
consume a character. -/
def loads (s : String) : Except LoadsError Json := do
  let cs := skipSpace s.toList
  let (v, rest) ← scanValue (2 * cs.length + 2) cs
  if skipSpace rest = [] then .ok v else .error .decode

def hexPair (n : Nat) : List Char := [Nat.digitChar (n / 16), Nat.digitChar (n % 16)]

def escapeChar (c : Char) : List Char :=
  match c with
  | '"' => "\\\"".toList
  | '\\' => "\\\\".toList
  | '\n' => "\\n".toList
  | '\r' => "\\r".toList
  | '\t' => "\\t".toList
  | '\x08' => "\\b".toList
  | '\x0c' => "\\f".toList
  | c => if c.toNat < 32 then "\\u00".toList ++ hexPair c.toNat else [c]

def quote (s : String) : String := "\"" ++ String.ofList (s.toList.flatMap escapeChar) ++ "\""

structure Separators where
  item : String := ", "
  key : String := ": "

def Separators.compact : Separators := { item := ",", key := ":" }

mutual

def dumps (sep : Separators) : Json → String
  | .null => "null"
  | .bool b => if b then "true" else "false"
  | .int n => toString n
  | .float x => x.repr
  | .str s => quote s
  | .arr elems => "[" ++ sep.item.intercalate (dumpsElems sep elems) ++ "]"
  | .obj items => "\x7b" ++ sep.item.intercalate (dumpsItems sep items) ++ "\x7d"

def dumpsElems (sep : Separators) : List Json → List String
  | [] => []
  | v :: vs => dumps sep v :: dumpsElems sep vs

def dumpsItems (sep : Separators) : Dict → List String
  | [] => []
  | (k, v) :: d => (quote k ++ sep.key ++ dumps sep v) :: dumpsItems sep d

end

end Py
