import Headhunt.Lib.PyBase64
import Headhunt.Lib.Substring
import Headhunt.Lib.TextLines

/-! The `.env` file of a local deployment: `load_env_file` and `generate_local_runtime_secrets`.
A file is the text that `read_text` gives. -/
namespace Headhunt.Runtime
open Py

def genericPlaceholderValues : List String :=
  ["", "change-me", "changeme", "replace-me", "todo", "your-domain.com", "your-domain.example.com"]

def placeholderValuesByEnv (key : String) : List String :=
  if key = "INTERNAL_ADMIN_API_KEY" then ["change-this-admin-key"]
  else if key = "POSTGRES_PASSWORD" then ["change-this-password"]
  else if key = "MODEL_SECRET_ENCRYPTION_KEY" then ["change-this-32-byte-or-base64-secret"]
  else []

/-- `sorted(GENERATED_LOCAL_SECRET_ENV)`. -/
def generatedLocalSecretEnv : List String :=
  ["INTERNAL_ADMIN_API_KEY", "MODEL_SECRET_ENCRYPTION_KEY", "POSTGRES_PASSWORD"]

def isPlaceholder (key value : String) : Bool :=
  let normalized := strip value
  decide (lower normalized ∈ genericPlaceholderValues) ||
    decide (normalized ∈ placeholderValuesByEnv key)

/-- `_new_local_secret` from the 32 random bytes it draws; `token_urlsafe` encodes them the
same way. -/
def newLocalSecret (random : ByteArray) : String := rstripEquals (urlsafeB64encode random)

def partitionEquals (line : List Char) : List Char × List Char :=
  (line.takeWhile (· ≠ '='), (line.dropWhile (· ≠ '=')).drop 1)

def unquote (value : List Char) : List Char :=
  match value with
  | [] => []
  | quote :: rest =>
    if rest.getLast? = some quote ∧ (quote = '\'' ∨ quote = '"') then rest.dropLast else value

def isEntry (stripped line : List Char) : Bool :=
  stripped.head?.any (· ≠ '#') && line.contains '='

def lineEntry (rawLine : String) : Option (String × String) :=
  let line := stripChars isSpace rawLine.toList
  if isEntry line line then
    let key := stripChars isSpace (partitionEquals line).1
    let value := unquote (stripChars isSpace (partitionEquals line).2)
    if key = [] then none else some (String.ofList key, String.ofList value)
  else none

/-- The dict the lines are read into, the entry set last in front. -/
def loadLines (lines : List String) : List (String × String) :=
  lines.foldl (fun values line => (lineEntry line).toList ++ values) []

def loadEnvFile (text : String) : List (String × String) := loadLines (splitLines text)

def envGet (text key : String) : Option String := (loadEnvFile text).lookup key

def rewrittenKey (line : String) : Option String :=
  if isEntry (stripChars isSpace line.toList) line.toList then
    some (String.ofList (stripChars isSpace (partitionEquals line.toList).1))
  else none

section Rewrite

variable (random : String → ByteArray) (generated : List String)

/-- The line with the new value of its key, where there is one. -/
def rewriteLine (line : String) : String :=
  match (rewrittenKey line).filter (· ∈ generated) with
  | some key => key ++ "=" ++ newLocalSecret (random key)
  | none => line

local instance lawfulKeys : LawfulBEq (Option String) := inferInstance

def appendedLines (lines : List String) : List String :=
  let missing := generated.filter fun key => some key ∉ lines.map rewrittenKey
  if missing = [] then []
  else
    (if (lines.map (rewriteLine random generated)).getLast?.any (strip · ≠ "") then [""] else []) ++
      "# Generated local runtime secrets" ::
        missing.map fun key => key ++ "=" ++ newLocalSecret (random key)

end Rewrite

/-- The names to generate: their values are missing or placeholders. -/
def generatedNames (text : String) : List String :=
  generatedLocalSecretEnv.filter fun key => (envGet text key).all (isPlaceholder key)

/-- `generate_local_runtime_secrets`: the names it returns, and the file afterwards. -/
def generateLocalRuntimeSecrets (random : String → ByteArray) (text : String) :
    List String × String :=
  let generated := generatedNames text
  if generated = [] then ([], text)
  else
    let lines := splitLines text
    (generated, joinLines
      (lines.map (rewriteLine random generated) ++ appendedLines random generated lines))

/-- What the line says about the variable. -/
def valueFor (key line : String) : Option String :=
  (lineEntry line).bind fun entry => if entry.1 = key then some entry.2 else none

theorem lookup_foldl (key : String) (lines : List String) (values : List (String × String)) :
    (lines.foldl (fun values line => (lineEntry line).toList ++ values) values).lookup key =
      (lines.filterMap (valueFor key)).getLast?.or (values.lookup key) := by
  induction lines generalizing values with
  | nil => rfl
  | cons line lines ih =>
    have hlookup : ((lineEntry line).toList ++ values).lookup key =
        (valueFor key line).or (values.lookup key) := by
      unfold valueFor
      cases lineEntry line with
      | none => rfl
      | some entry =>
        rw [Option.toList_some, List.singleton_append, List.lookup_cons, Option.bind_some]
        by_cases hkey : entry.1 = key
        · simp [hkey]
        · have hother : (key == entry.1) = false := beq_eq_false_iff_ne.mpr (Ne.symm hkey)
          rw [hother, if_neg hkey]
          rfl
    rw [List.foldl_cons, ih, hlookup, List.filterMap_cons]
    cases hvalue : valueFor key line with
    | none => rfl
    | some value =>
      cases hlast : (lines.filterMap (valueFor key)).getLast? <;>
        simp [List.getLast?_cons, hlast]

theorem envGet_eq (text key : String) :
    envGet text key = ((splitLines text).filterMap (valueFor key)).getLast? := by
  rw [envGet, loadEnvFile, loadLines, lookup_foldl]
  simp

theorem equals_split {cs : List Char} (h : '=' ∈ cs) :
    cs = (partitionEquals cs).1 ++ '=' :: (partitionEquals cs).2 := by
  have hsplit := List.takeWhile_append_dropWhile (p := (· ≠ '=')) (l := cs)
  unfold partitionEquals
  cases hrest : cs.dropWhile (· ≠ '=') with
  | nil =>
    have hall := List.dropWhile_eq_nil_iff.mp hrest '=' h
    simp at hall
  | cons c rest =>
    have hc : c = '=' := by
      have hhead := List.head?_dropWhile_not (· ≠ '=') cs
      rw [hrest] at hhead
      simpa using hhead
    rw [hrest, hc] at hsplit
    exact hsplit.symm

theorem equals_notMem (cs : List Char) : '=' ∉ (partitionEquals cs).1 := by
  intro hmem
  have hne := List.mem_takeWhile_imp hmem
  simp at hne

theorem partitionEquals_append {key : List Char} (h : '=' ∉ key) (value : List Char) :
    partitionEquals (key ++ '=' :: value) = (key, value) := by
  have hkey : ∀ c ∈ key, (decide (c ≠ '=')) = true := by
    rintro c hc
    exact decide_eq_true fun heq => h (heq ▸ hc)
  rw [partitionEquals, List.takeWhile_append_of_pos hkey, List.dropWhile_append_of_pos hkey]
  simp

theorem partitionEquals_strip {cs : List Char} (h : '=' ∈ cs) :
    '=' ∈ stripChars isSpace cs ∧
      stripChars isSpace (partitionEquals (stripChars isSpace cs)).1 =
        stripChars isSpace (partitionEquals cs).1 := by
  have hequals : isSpace '=' = false := by decide
  have hstrip : stripChars isSpace cs = (partitionEquals cs).1.dropWhile isSpace ++
      '=' :: ((partitionEquals cs).2.reverse.dropWhile isSpace).reverse := by
    conv_lhs => rw [equals_split h]
    exact stripChars_around hequals _ _
  have hnotin : '=' ∉ (partitionEquals cs).1.dropWhile isSpace := fun hmem =>
    equals_notMem cs ((List.dropWhile_suffix _).subset hmem)
  rw [hstrip, partitionEquals_append hnotin, stripChars_dropWhile]
  exact ⟨by simp, rfl⟩

theorem isEntry_strip (line : String) :
    isEntry (stripChars isSpace line.toList) (stripChars isSpace line.toList) =
      isEntry (stripChars isSpace line.toList) line.toList := by
  unfold isEntry
  congr 1
  rw [Bool.eq_iff_iff, List.contains_iff_mem, List.contains_iff_mem]
  constructor
  · exact fun hmem => (isInfix_stripChars isSpace line.toList).subset hmem
  · exact fun hmem => (partitionEquals_strip hmem).1

/-- A line that sets a variable is rewritten under the same name. -/
theorem rewrittenKey_of_lineEntry {line key value : String}
    (h : lineEntry line = some (key, value)) : rewrittenKey line = some key := by
  unfold lineEntry at h
  rw [rewrittenKey, ← isEntry_strip]
  dsimp only at h
  split_ifs at h with hentry hempty
  rw [if_pos hentry]
  rw [isEntry_strip] at hentry
  have hmem : '=' ∈ line.toList := List.contains_iff_mem.mp (Bool.and_eq_true_iff.mp hentry).2
  obtain ⟨rfl, _⟩ := Prod.mk.inj (Option.some.inj h)
  rw [(partitionEquals_strip hmem).2]

theorem length_sextets (data : List UInt8) :
    (sextets data).length = (4 * data.length + 2) / 3 := by
  induction data using sextets.induct with
  | case1 a b c data ih =>
    simp only [sextets, List.length_cons, ih]
    omega
  | case2 a b => simp [sextets]
  | case3 a => simp [sextets]
  | case4 => rfl

def isSecretChar (c : Char) : Bool := !isSpace c && c != '"' && c != '\''

theorem isSecretChar_newLocalSecret (random : ByteArray) :
    ∀ c ∈ (newLocalSecret random).toList, isSecretChar c := by
  intro c hc
  rw [newLocalSecret, toList_rstripEquals] at hc
  obtain ⟨d, hd, rfl⟩ := List.mem_map.mp hc
  obtain ⟨v, hv, rfl⟩ := mem_base64Digits hd
  have hall : ∀ v < 64, isSecretChar (urlsafeChar (base64Char v)) := by decide
  exact hall v hv

theorem length_newLocalSecret {random : ByteArray} (h : random.size = 32) :
    (newLocalSecret random).length = 43 := by
  have hdata : random.data.toList.length = 32 := by
    rw [Array.length_toList, ByteArray.size_data, h]
  rw [← String.length_toList, newLocalSecret, toList_rstripEquals, List.length_map, base64Digits,
    List.length_map, length_sextets, hdata]

theorem isSpace_of_isSecretChar {c : Char} (h : isSecretChar c) : isSpace c = false := by
  simp only [isSecretChar, Bool.and_eq_true, Bool.not_eq_true'] at h
  exact h.1.1

/-- Every placeholder is shorter. -/
theorem isPlaceholder_newLocalSecret {random : ByteArray} (h : random.size = 32) (key : String) :
    isPlaceholder key (newLocalSecret random) = false := by
  have hlength := length_newLocalSecret h
  have hstrip : strip (newLocalSecret random) = newLocalSecret random := by
    rw [strip, UUID.stripChars_eq_self fun c hc =>
      isSpace_of_isSecretChar (isSecretChar_newLocalSecret random c hc), String.ofList_toList]
  have hgeneric : lower (newLocalSecret random) ∉ genericPlaceholderValues := by
    intro hmem
    have hshort : ∀ value ∈ genericPlaceholderValues, value.length < 43 := by decide
    have hlower := hshort _ hmem
    rw [lower, String.length_ofList, List.length_map, String.length_toList] at hlower
    omega
  have hspecial : newLocalSecret random ∉ placeholderValuesByEnv key := by
    intro hmem
    have hshort : ∀ value ∈ placeholderValuesByEnv key, value.length < 43 := by
      unfold placeholderValuesByEnv
      split_ifs <;> decide
    have hvalue := hshort _ hmem
    omega
  rw [isPlaceholder, hstrip, decide_eq_false hgeneric, decide_eq_false hspecial]
  rfl

/-- The names that get a value can stand in front of it. -/
def isName (key : String) : Bool :=
  key.toList.head?.any (· ≠ '#') && key.toList.all fun c => !isSpace c && c != '='

theorem isName_of_mem {key : String} (h : key ∈ generatedLocalSecretEnv) : isName key := by
  have hall : ∀ key ∈ generatedLocalSecretEnv, isName key := by decide
  exact hall key h

theorem lineEntry_assignment {key value : String} (hkey : isName key)
    (hvalue : ∀ c ∈ value.toList, isSecretChar c) :
    lineEntry (key ++ "=" ++ value) = some (key, value) := by
  obtain ⟨hhead, hplain⟩ := Bool.and_eq_true_iff.mp hkey
  simp only [List.all_eq_true, Bool.and_eq_true, Bool.not_eq_true', bne_iff_ne] at hplain
  have htext : (key ++ "=" ++ value).toList = key.toList ++ '=' :: value.toList := by
    simp [String.toList_append]
  have hvalueSpace : ∀ c ∈ value.toList, isSpace c = false := fun c hc =>
    isSpace_of_isSecretChar (hvalue c hc)
  have hequals : '=' ∉ key.toList := fun hmem => (hplain _ hmem).2 rfl
  have hstrip : stripChars isSpace (key ++ "=" ++ value).toList =
      key.toList ++ '=' :: value.toList := by
    rw [htext]
    refine UUID.stripChars_eq_self fun c hc => ?_
    rcases List.mem_append.mp hc with hc | hc
    · exact (hplain c hc).1
    · rcases List.mem_cons.mp hc with rfl | hc
      · decide
      · exact hvalueSpace c hc
  have hne : key.toList ≠ [] := by
    intro hnil
    rw [hnil] at hhead
    cases hhead
  have hentry : isEntry (key.toList ++ '=' :: value.toList) (key.toList ++ '=' :: value.toList) := by
    unfold isEntry
    rw [List.head?_append_of_ne_nil _ hne, hhead]
    simp
  have hquote : unquote value.toList = value.toList := by
    cases hchars : value.toList with
    | nil => rfl
    | cons c rest =>
      have hc := hvalue c (by rw [hchars]; exact List.mem_cons_self)
      simp only [isSecretChar, Bool.and_eq_true, bne_iff_ne] at hc
      rw [unquote, if_neg]
      rintro ⟨_, hq | hq⟩
      · exact hc.2 hq
      · exact hc.1.2 hq
  unfold lineEntry
  dsimp only
  rw [hstrip, if_pos hentry, partitionEquals_append hequals]
  dsimp only
  rw [UUID.stripChars_eq_self fun c hc => (hplain c hc).1, UUID.stripChars_eq_self hvalueSpace, hquote,
    if_neg hne, String.ofList_toList, String.ofList_toList]

section Written

variable {random : String → ByteArray} {generated : List String} {key : String}

def secretLine (random : String → ByteArray) (key : String) : String :=
  key ++ "=" ++ newLocalSecret (random key)

theorem lineEntry_secretLine (hkey : key ∈ generatedLocalSecretEnv) :
    lineEntry (secretLine random key) = some (key, newLocalSecret (random key)) :=
  lineEntry_assignment (isName_of_mem hkey) (isSecretChar_newLocalSecret (random key))

theorem isLine_secretLine (hkey : key ∈ generatedLocalSecretEnv) :
    IsLine (secretLine random key) := by
  have hbreak : ∀ c, isSpace c = false → isLineBreak c = false := by
    intro c hc
    simp only [isSpace, isLineBreak, Bool.or_eq_false_iff, Bool.and_eq_false_iff,
      decide_eq_false_iff_not, beq_eq_false_iff_ne] at hc ⊢
    omega
  obtain ⟨_, hplain⟩ := Bool.and_eq_true_iff.mp (isName_of_mem hkey)
  simp only [List.all_eq_true, Bool.and_eq_true, Bool.not_eq_true'] at hplain
  intro c hc
  rw [secretLine, String.toList_append, String.toList_append] at hc
  rcases List.mem_append.mp hc with hc | hc
  · rcases List.mem_append.mp hc with hc | hc
    · exact hbreak c (hplain c hc).1
    · rw [List.mem_singleton.mp hc]
      decide
  · exact hbreak c (isSpace_of_isSecretChar (isSecretChar_newLocalSecret _ c hc))

theorem lineEntry_comment : lineEntry "# Generated local runtime secrets" = none := by
  decide +kernel

/-- What becomes of a line. -/
theorem rewriteLine_cases (random : String → ByteArray) (generated : List String) (line : String) :
    (∃ key ∈ generated, rewrittenKey line = some key ∧
      rewriteLine random generated line = secretLine random key) ∨
    (∀ key ∈ generated, rewrittenKey line ≠ some key) ∧
      rewriteLine random generated line = line := by
  unfold rewriteLine
  split
  next key hkey =>
    obtain ⟨hline, hmem⟩ := Option.filter_eq_some_iff.mp hkey
    exact .inl ⟨key, of_decide_eq_true hmem, hline, rfl⟩
  next hnone =>
    refine .inr ⟨?_, rfl⟩
    intro key hkey hline
    rw [hline, Option.filter_some, if_pos (decide_eq_true hkey)] at hnone
    cases hnone

theorem mem_appendedLines {lines : List String} {line : String}
    (h : line ∈ appendedLines random generated lines) :
    line = "" ∨ line = "# Generated local runtime secrets" ∨
      ∃ key ∈ generated, line = secretLine random key := by
  unfold appendedLines at h
  dsimp only at h
  split_ifs at h with hmissing hblank
  · cases h
  · simp only [List.cons_append, List.nil_append, List.mem_cons, List.mem_map, List.mem_filter]
      at h
    rcases h with rfl | rfl | ⟨key, ⟨hkey, _⟩, rfl⟩
    · exact .inl rfl
    · exact .inr (.inl rfl)
    · exact .inr (.inr ⟨key, hkey, rfl⟩)
  · simp only [List.nil_append, List.mem_cons, List.mem_map, List.mem_filter] at h
    rcases h with rfl | ⟨key, ⟨hkey, _⟩, rfl⟩
    · exact .inr (.inl rfl)
    · exact .inr (.inr ⟨key, hkey, rfl⟩)

/-- A name no line sets is set at the end. -/
theorem secretLine_mem_appendedLines {lines : List String} (hkey : key ∈ generated)
    (hunseen : some key ∉ lines.map rewrittenKey) :
    secretLine random key ∈ appendedLines random generated lines := by
  have hmissing : key ∈ generated.filter fun key => some key ∉ lines.map rewrittenKey :=
    List.mem_filter.mpr ⟨hkey, decide_eq_true hunseen⟩
  unfold appendedLines
  dsimp only
  rw [if_neg (List.ne_nil_of_mem hmissing)]
  exact List.mem_append_right _ (List.mem_cons_of_mem _ (List.mem_map_of_mem hmissing))

def writtenLines (random : String → ByteArray) (generated lines : List String) : List String :=
  lines.map (rewriteLine random generated) ++ appendedLines random generated lines

variable {lines : List String}

/-- A generated name has its new value, in its own line or at the end. -/
theorem secretLine_mem_writtenLines (hkey : key ∈ generated) :
    secretLine random key ∈ writtenLines random generated lines := by
  by_cases hseen : some key ∈ lines.map rewrittenKey
  · obtain ⟨line, hline, hrewritten⟩ := List.mem_map.mp hseen
    refine List.mem_append_left _ (List.mem_map.mpr ⟨line, hline, ?_⟩)
    rcases rewriteLine_cases random generated line with ⟨other, _, hother, hrewrite⟩ | ⟨hunseen, _⟩
    · rw [hrewritten] at hother
      rw [hrewrite, Option.some.inj hother]
    · exact (hunseen key hkey hrewritten).elim
  · exact List.mem_append_right _ (secretLine_mem_appendedLines hkey hseen)

/-- The line does not set one of the names. -/
def Unrelated (names : List String) (line : String) : Bool :=
  names.all fun key => rewrittenKey line != some key

theorem unrelated_eq_false {line : String} (hkey : key ∈ generated)
    (h : rewrittenKey line = some key) : Unrelated generated line = false := by
  rw [Unrelated, List.all_eq_false]
  exact ⟨key, hkey, by simp [h]⟩

variable (hgenerated : ∀ key ∈ generated, key ∈ generatedLocalSecretEnv)

include hgenerated

theorem isLine_writtenLines (hlines : ∀ line ∈ lines, IsLine line) :
    ∀ line ∈ writtenLines random generated lines, IsLine line := by
  intro line hline
  rcases List.mem_append.mp hline with hline | hline
  · obtain ⟨original, horiginal, rfl⟩ := List.mem_map.mp hline
    rcases rewriteLine_cases random generated original with ⟨key, hkey, _, hrewrite⟩ | ⟨_, hkept⟩
    · rw [hrewrite]
      exact isLine_secretLine (hgenerated key hkey)
    · rw [hkept]
      exact hlines original horiginal
  · rcases mem_appendedLines hline with rfl | rfl | ⟨key, hkey, rfl⟩
    · nofun
    · have hcomment : "# Generated local runtime secrets".toList.all (!isLineBreak ·) := by decide
      intro c hc
      simpa using List.all_eq_true.mp hcomment c hc
    · exact isLine_secretLine (hgenerated key hkey)

/-- Variables that are not generated keep what the lines say about them. -/
theorem filterMap_writtenLines (hkey : key ∉ generated) :
    (writtenLines random generated lines).filterMap (valueFor key) =
      lines.filterMap (valueFor key) := by
  have hsecret : ∀ other ∈ generated, valueFor key (secretLine random other) = none := by
    intro other hother
    have hne : other ≠ key := by
      rintro rfl
      exact hkey hother
    rw [valueFor, lineEntry_secretLine (hgenerated other hother), Option.bind_some, if_neg hne]
  have hrewrite : ∀ line ∈ lines,
      valueFor key (rewriteLine random generated line) = valueFor key line := by
    intro line _
    rcases rewriteLine_cases random generated line with ⟨other, hother, hline, hrewrite⟩ | ⟨_, hkept⟩
    · rw [hrewrite, hsecret other hother, valueFor]
      cases hentry : lineEntry line with
      | none => rfl
      | some entry =>
        have hsame := @rewrittenKey_of_lineEntry line entry.1 entry.2 hentry
        have hne : entry.1 ≠ key := by
          rw [hline] at hsame
          rw [← Option.some.inj hsame]
          rintro rfl
          exact hkey hother
        rw [Option.bind_some, if_neg hne]
    · rw [hkept]
  have happended : (appendedLines random generated lines).filterMap (valueFor key) = [] := by
    rw [List.filterMap_eq_nil_iff]
    intro line hline
    rcases mem_appendedLines hline with rfl | rfl | ⟨other, hother, rfl⟩
    · rfl
    · rw [valueFor, lineEntry_comment, Option.bind_none]
    · exact hsecret other hother
  rw [writtenLines, List.filterMap_append, happended, List.append_nil, List.filterMap_map]
  exact List.filterMap_congr hrewrite

theorem valueFor_writtenLines (hkey : key ∈ generated) {line value : String}
    (hline : line ∈ writtenLines random generated lines) (hvalue : valueFor key line = some value) :
    value = newLocalSecret (random key) := by
  have hsecret : ∀ other ∈ generated, line = secretLine random other →
      value = newLocalSecret (random key) := by
    rintro other hother rfl
    rw [valueFor, lineEntry_secretLine (hgenerated other hother), Option.bind_some] at hvalue
    split_ifs at hvalue with hsame
    dsimp only at hsame
    rw [← Option.some.inj hvalue, hsame]
  rcases List.mem_append.mp hline with hline | hline
  · obtain ⟨original, _, rfl⟩ := List.mem_map.mp hline
    rcases rewriteLine_cases random generated original with
      ⟨other, hother, _, hrewrite⟩ | ⟨hunseen, hkept⟩
    · exact hsecret other hother hrewrite
    · rw [hkept] at hvalue
      obtain ⟨entry, hentry, hvalue⟩ := Option.bind_eq_some_iff.mp hvalue
      split_ifs at hvalue with hsame
      have hseen := @rewrittenKey_of_lineEntry original entry.1 entry.2 hentry
      rw [hsame] at hseen
      exact (hunseen key hkey hseen).elim
  · rcases mem_appendedLines hline with rfl | rfl | ⟨other, hother, hother'⟩
    · cases hvalue
    · rw [valueFor, lineEntry_comment, Option.bind_none] at hvalue
      cases hvalue
    · exact hsecret other hother hother'

theorem getLast?_writtenLines (hkey : key ∈ generated) :
    ((writtenLines random generated lines).filterMap (valueFor key)).getLast? =
      some (newLocalSecret (random key)) := by
  have hvalue : valueFor key (secretLine random key) = some (newLocalSecret (random key)) := by
    rw [valueFor, lineEntry_secretLine (hgenerated key hkey), Option.bind_some, if_pos rfl]
  have hmem : newLocalSecret (random key) ∈
      (writtenLines random generated lines).filterMap (valueFor key) := List.mem_filterMap.mpr
    ⟨_, secretLine_mem_writtenLines hkey, hvalue⟩
  rw [List.getLast?_eq_some_getLast (List.ne_nil_of_mem hmem)]
  obtain ⟨line, hline, hlast⟩ := List.mem_filterMap.mp (List.getLast_mem (List.ne_nil_of_mem hmem))
  rw [valueFor_writtenLines hgenerated hkey hline hlast]

/-- Comments and the lines of other variables stay in order. -/
theorem filter_writtenLines : (writtenLines random generated lines).filter (Unrelated generated) =
    lines.filter (Unrelated generated) ++
      (appendedLines random generated lines).filter (Unrelated generated) := by
  rw [writtenLines, List.filter_append]
  congr 1
  induction lines with
  | nil => rfl
  | cons line lines ih =>
    rw [List.map_cons, List.filter_cons, List.filter_cons, ih]
    rcases rewriteLine_cases random generated line with ⟨key, hkey, hline, hrewrite⟩ | ⟨_, hkept⟩
    · have hsecret := rewrittenKey_of_lineEntry
        (@lineEntry_secretLine random key (hgenerated key hkey))
      rw [hrewrite, unrelated_eq_false hkey hsecret, unrelated_eq_false hkey hline]
      rfl
    · rw [hkept]

end Written

/-- What a run does to the file: the names it returns and the text it leaves. -/
structure TouchesOnlyPlaceholders (text : String) (names : List String) (after : String) :
    Prop where
  sorted : names.Pairwise (· < ·)
  returned : ∀ key, key ∈ names ↔ key ∈ generatedLocalSecretEnv ∧
    ∀ value, envGet text key = some value → isPlaceholder key value
  /-- Exactly the variables named have another value. -/
  changed : ∀ key, key ∈ names ↔ envGet after key ≠ envGet text key
  real : ∀ key ∈ generatedLocalSecretEnv,
    ∃ value, envGet after key = some value ∧ isPlaceholder key value = false
  /-- The other lines stay in order; a blank line and a comment may follow. -/
  lines : ∃ extra, (splitLines after).filter (Unrelated names) =
      (splitLines text).filter (Unrelated names) ++ extra ∧
    ∀ line ∈ extra, line = "" ∨ line = "# Generated local runtime secrets"
  /-- A second run does nothing. -/
  again : ∀ random, generateLocalRuntimeSecrets random after = ([], after)

theorem mem_generatedNames {text key : String} : key ∈ generatedNames text ↔
    key ∈ generatedLocalSecretEnv ∧
      ∀ value, envGet text key = some value → isPlaceholder key value := by
  rw [generatedNames, List.mem_filter, Option.all_eq_true]

/-- A name that is not generated has a value already. -/
theorem envGet_of_notMem {text key : String} (hkey : key ∈ generatedLocalSecretEnv)
    (h : key ∉ generatedNames text) :
    ∃ value, envGet text key = some value ∧ isPlaceholder key value = false := by
  have hnot : ¬∀ value, envGet text key = some value → isPlaceholder key value := fun hall =>
    h (mem_generatedNames.mpr ⟨hkey, hall⟩)
  push Not at hnot
  obtain ⟨value, hvalue, hreal⟩ := hnot
  exact ⟨value, hvalue, Bool.eq_false_iff.mpr hreal⟩

theorem generateLocalRuntimeSecrets_nil {text : String} (h : generatedNames text = [])
    (random : String → ByteArray) : generateLocalRuntimeSecrets random text = ([], text) := by
  rw [generateLocalRuntimeSecrets]
  dsimp only
  rw [if_pos h]

theorem sorted_generatedNames (text : String) : (generatedNames text).Pairwise (· < ·) := by
  have hall : generatedLocalSecretEnv.Pairwise (· < ·) := by decide
  exact hall.filter _

theorem splitLines_written {random : String → ByteArray} {text : String}
    (h : generatedNames text ≠ []) :
    (generateLocalRuntimeSecrets random text).1 = generatedNames text ∧
    splitLines (generateLocalRuntimeSecrets random text).2 =
      writtenLines random (generatedNames text) (splitLines text) := by
  rw [generateLocalRuntimeSecrets]
  dsimp only
  rw [if_neg h]
  refine ⟨rfl, splitLines_joinLines ?_ ?_⟩
  · obtain ⟨key, hkey⟩ := List.exists_mem_of_ne_nil _ h
    exact List.ne_nil_of_mem (secretLine_mem_writtenLines hkey)
  · exact isLine_writtenLines (fun key hkey => (mem_generatedNames.mp hkey).1)
      fun line hline => isLine_of_mem_splitLines hline

/-- Whatever the file, a run replaces the missing values and the placeholders of the three local
secrets and nothing else. -/
theorem generateLocalRuntimeSecrets_exact (random : String → ByteArray) (text : String)
    (hrandom : ∀ key, (random key).size = 32) :
    TouchesOnlyPlaceholders text (generateLocalRuntimeSecrets random text).1
      (generateLocalRuntimeSecrets random text).2 := by
  by_cases hnone : generatedNames text = []
  · rw [generateLocalRuntimeSecrets_nil hnone]
    have hnot : ∀ key, key ∉ generatedNames text := by simp [hnone]
    constructor
    · exact List.Pairwise.nil
    · intro key
      rw [← mem_generatedNames, hnone]
    · simp
    · exact fun key hkey => envGet_of_notMem hkey (hnot key)
    · exact ⟨[], by simp, nofun⟩
    · exact generateLocalRuntimeSecrets_nil hnone
  obtain ⟨hnames, hlines⟩ := @splitLines_written random text hnone
  rw [hnames]
  have hlocal : ∀ key ∈ generatedNames text, key ∈ generatedLocalSecretEnv := fun key hkey =>
    (mem_generatedNames.mp hkey).1
  have hnew : ∀ key ∈ generatedNames text,
      envGet (generateLocalRuntimeSecrets random text).2 key =
        some (newLocalSecret (random key)) := by
    intro key hkey
    rw [envGet_eq, hlines, getLast?_writtenLines hlocal hkey]
  have hkept : ∀ key ∉ generatedNames text,
      envGet (generateLocalRuntimeSecrets random text).2 key = envGet text key := by
    intro key hkey
    rw [envGet_eq, hlines, filterMap_writtenLines hlocal hkey, envGet_eq]
  have hreal : ∀ key ∈ generatedLocalSecretEnv, ∃ value,
      envGet (generateLocalRuntimeSecrets random text).2 key = some value ∧
        isPlaceholder key value = false := by
    intro key hkey
    by_cases hmem : key ∈ generatedNames text
    · exact ⟨_, hnew key hmem, isPlaceholder_newLocalSecret (hrandom key) key⟩
    · rw [hkept key hmem]
      exact envGet_of_notMem hkey hmem
  constructor
  · exact sorted_generatedNames text
  · exact fun key => mem_generatedNames
  · intro key
    constructor
    · intro hkey hsame
      rw [hnew key hkey] at hsame
      have hplaceholder := (mem_generatedNames.mp hkey).2 _ hsame.symm
      rw [isPlaceholder_newLocalSecret (hrandom key)] at hplaceholder
      cases hplaceholder
    · intro hchanged
      by_contra hmem
      exact hchanged (hkept key hmem)
  · exact hreal
  · refine ⟨(appendedLines random (generatedNames text) (splitLines text)).filter
      (Unrelated (generatedNames text)), ?_, ?_⟩
    · rw [hlines, filter_writtenLines hlocal]
    · intro line hline
      obtain ⟨hmem, hunrelated⟩ := List.mem_filter.mp hline
      rcases mem_appendedLines hmem with hblank | hcomment | ⟨key, hkey, rfl⟩
      · exact .inl hblank
      · exact .inr hcomment
      · have hsecret := rewrittenKey_of_lineEntry
          (@lineEntry_secretLine random key (hlocal key hkey))
        rw [unrelated_eq_false hkey hsecret] at hunrelated
        cases hunrelated
  · intro other
    refine generateLocalRuntimeSecrets_nil (List.eq_nil_iff_forall_not_mem.mpr ?_) other
    intro key hkey
    obtain ⟨hmem, hplaceholder⟩ := mem_generatedNames.mp hkey
    obtain ⟨value, hvalue, hfalse⟩ := hreal key hmem
    rw [hplaceholder value hvalue] at hfalse
    cases hfalse

def zeroBytes : String → ByteArray := fun _ => ⟨(List.replicate 32 0).toArray⟩

theorem generateLocalRuntimeSecrets_exact_sampleFile :
    TouchesOnlyPlaceholders "POSTGRES_PASSWORD='todo'\nINTERNAL_ADMIN_API_KEY=own"
      (generateLocalRuntimeSecrets zeroBytes
        "POSTGRES_PASSWORD='todo'\nINTERNAL_ADMIN_API_KEY=own").1
      (generateLocalRuntimeSecrets zeroBytes
        "POSTGRES_PASSWORD='todo'\nINTERNAL_ADMIN_API_KEY=own").2 :=
  generateLocalRuntimeSecrets_exact zeroBytes _ fun _ => rfl

end Headhunt.Runtime
