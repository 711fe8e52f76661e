import Headhunt.Feishu.ForcedCouncil

/-! What the bracket rules make of a request of labelled segments. Each label begins a match, and of
two segments of one field the last is kept. -/
namespace Headhunt.Feishu
open Py

/-- No label begins inside: a bracket is closed at once. -/
def Unlabelled : List Char → Prop
  | [] => True
  | c :: cs => (c = '【' → cs.head? = some '】') ∧ Unlabelled cs

def LabelOrEnd (cs : List Char) : Prop :=
  cs = [] ∨ ∃ label rest, label ≠ [] ∧ '】' ∉ label ∧ cs = '【' :: (label ++ '】' :: rest)

def findBrackets (cs : List Char) : List (String × String) := bracketFields cs.length cs

section Pattern

variable {cs ds tail label rest : List Char}

theorem unlabelled_of_notMem (h : '【' ∉ cs) : Unlabelled cs := by
  induction cs with
  | nil => trivial
  | cons c cs ih =>
    refine ⟨?_, ih fun hmem => h (List.mem_cons_of_mem _ hmem)⟩
    rintro rfl
    exact absurd List.mem_cons_self h

theorem Unlabelled.append (hcs : Unlabelled cs) (hds : Unlabelled ds) : Unlabelled (cs ++ ds) := by
  induction cs with
  | nil => exact hds
  | cons c cs ih =>
    refine ⟨?_, ih hcs.2⟩
    intro hc
    have hhead := hcs.1 hc
    cases cs with
    | nil => cases hhead
    | cons d cs => exact hhead

theorem Unlabelled.dropWhile (h : Unlabelled cs) (f : Char → Bool) :
    Unlabelled (cs.dropWhile f) := by
  induction cs with
  | nil => exact h
  | cons c cs ih =>
    rw [List.dropWhile_cons]
    split_ifs
    · exact ih h.2
    · exact h

theorem bracketLabel_append (hne : label ≠ []) (hfree : '】' ∉ label) :
    bracketLabel (label ++ '】' :: rest) = some (label, rest) := by
  have hlabel : ∀ c ∈ label, (decide (c ≠ '】')) = true := by
    intro c hc
    simp only [decide_eq_true_eq]
    rintro rfl
    exact hfree hc
  unfold bracketLabel
  rw [List.takeWhile_append_of_pos hlabel, List.dropWhile_append_of_pos hlabel]
  simp [hne]

/-- A bracket that is closed at once has no label. -/
theorem bracketLabel_eq_none (h : cs.head? = some '】') : bracketLabel cs = none := by
  obtain ⟨d, ds, rfl⟩ : ∃ d ds, cs = d :: ds := by
    cases cs with
    | nil => cases h
    | cons d ds => exact ⟨d, ds, rfl⟩
  obtain rfl := Option.some.inj h
  simp [bracketLabel]

theorem length_bracketLabel (h : bracketLabel cs = some (label, rest)) :
    rest.length < cs.length := by
  have hsplit := List.takeWhile_append_dropWhile (p := fun c => decide (c ≠ '】')) (l := cs)
  unfold bracketLabel at h
  dsimp only at h
  cases hdrop : cs.dropWhile (fun c => decide (c ≠ '】')) with
  | nil =>
    rw [hdrop] at h
    cases h
  | cons c ds =>
    simp only [hdrop] at h
    split_ifs at h
    obtain ⟨-, rfl⟩ := Prod.mk.inj (Option.some.inj h)
    rw [← hsplit, hdrop]
    simp only [List.length_append, List.length_cons]
    omega

theorem length_bracketValue (cs : List Char) : (bracketValue cs).2.length ≤ cs.length := by
  induction cs with
  | nil => simp [bracketValue]
  | cons c cs ih =>
    unfold bracketValue
    split_ifs
    · exact le_rfl
    · simp only [List.length_cons]
      omega

/-- The length of the text is fuel enough. -/
theorem bracketFields_fuel {n m : Nat} (hn : cs.length ≤ n) (hm : cs.length ≤ m) :
    bracketFields n cs = bracketFields m cs := by
  induction n generalizing m cs with
  | zero =>
    obtain rfl := List.length_eq_zero_iff.mp (Nat.le_zero.mp hn)
    cases m <;> rfl
  | succ n ih =>
    cases cs with
    | nil => cases m <;> rfl
    | cons c cs =>
      cases m with
      | zero => cases hm
      | succ m =>
        simp only [List.length_cons, Nat.add_le_add_iff_right] at hn hm
        unfold bracketFields
        cases hlabel : (if c = '【' then bracketLabel cs else none) with
        | none => exact ih hn hm
        | some found =>
          obtain ⟨label, rest⟩ := found
          have hfound : bracketLabel cs = some (label, rest) := by
            split_ifs at hlabel
            exact hlabel
          have hrest := length_bracketLabel hfound
          have hdrop := List.length_dropWhile_le isSpace rest
          have hvalue := length_bracketValue (rest.dropWhile isSpace)
          dsimp only
          rw [ih (by omega) (m := m) (by omega)]

theorem findBrackets_skip (h : Unlabelled cs) (tail : List Char) :
    findBrackets (cs ++ tail) = findBrackets tail := by
  induction cs with
  | nil => rfl
  | cons c cs ih =>
    have hnone : (if c = '【' then bracketLabel (cs ++ tail) else none) = none := by
      by_cases hc : c = '【'
      · rw [if_pos hc]
        apply bracketLabel_eq_none
        have hhead := h.1 hc
        cases cs with
        | nil => cases hhead
        | cons d cs => exact hhead
      · rw [if_neg hc]
    rw [← ih h.2]
    simp only [findBrackets, List.cons_append, List.length_cons, bracketFields, hnone]

/-- The value may end where only white space is left before the next label. -/
theorem all_isSpace_of_valueEnds (h : Unlabelled cs) (hends : valueEnds (cs ++ tail) = true) :
    ∀ c ∈ cs, isSpace c = true := by
  cases hdrop : cs.dropWhile isSpace with
  | nil => exact List.dropWhile_eq_nil_iff.mp hdrop
  | cons d ds =>
    exfalso
    have hd : isSpace d = false := by
      have hhead := List.head?_dropWhile_not isSpace cs
      rw [hdrop] at hhead
      simpa using hhead
    have hdropped : (cs ++ tail).dropWhile isSpace = d :: (ds ++ tail) := by
      rw [List.dropWhile_append, hdrop]
      rfl
    have hunlabelled : Unlabelled (d :: ds) := hdrop ▸ h.dropWhile isSpace
    unfold valueEnds at hends
    rw [hdropped] at hends
    split at hends
    · rename_i rest heq
      obtain ⟨hbracket, rfl⟩ := List.cons.inj heq
      have hhead := hunlabelled.1 hbracket
      have hnone : bracketLabel (ds ++ tail) = none := by
        apply bracketLabel_eq_none
        cases ds with
        | nil => cases hhead
        | cons e ds => exact hhead
      rw [hnone] at hends
      cases hends
    · simp only [decide_eq_true_eq] at hends
      rcases hends with hnil | hnewline
      · rw [hnil] at hdropped
        cases hdropped
      · rw [hnewline] at hdropped
        have hspace : ['\n'].dropWhile isSpace = [] := by decide
        rw [hspace] at hdropped
        cases hdropped

theorem valueEnds_labelOrEnd (htail : LabelOrEnd tail) : valueEnds tail = true := by
  rcases htail with rfl | ⟨label, rest, hne, hfree, rfl⟩
  · rfl
  · have hspace : isSpace '【' = false := by decide
    simp [valueEnds, hspace, bracketLabel_append hne hfree]

/-- A value is read up to the white space before the next label. -/
theorem bracketValue_append (h : Unlabelled cs) (htail : LabelOrEnd tail) :
    ∃ value ws, cs = value ++ ws ∧ (∀ c ∈ ws, isSpace c = true) ∧
      bracketValue (cs ++ tail) = (value, ws ++ tail) := by
  induction cs with
  | nil =>
    refine ⟨[], [], rfl, by simp, ?_⟩
    cases tail with
    | nil => rfl
    | cons c tail =>
      have hends := valueEnds_labelOrEnd htail
      simp [bracketValue, hends]
  | cons c cs ih =>
    by_cases hends : valueEnds (c :: cs ++ tail) = true
    · refine ⟨[], c :: cs, rfl, all_isSpace_of_valueEnds h hends, ?_⟩
      rw [List.cons_append] at hends
      simp [bracketValue, hends]
    · obtain ⟨value, ws, rfl, hws, hvalue⟩ := ih h.2
      refine ⟨c :: value, ws, rfl, hws, ?_⟩
      rw [List.cons_append] at hends
      rw [List.cons_append]
      unfold bracketValue
      rw [if_neg hends, hvalue]

/-- A label and its value up to the next label are one match. -/
theorem findBrackets_labelled (hne : label ≠ []) (hfree : '】' ∉ label) (h : Unlabelled cs)
    (htail : LabelOrEnd tail) :
    ∃ value, strip value = strip (String.ofList cs) ∧
      findBrackets ('【' :: (label ++ '】' :: (cs ++ tail))) =
        (String.ofList label, value) :: findBrackets tail := by
  have hdropped : (cs ++ tail).dropWhile isSpace = cs.dropWhile isSpace ++ tail := by
    rw [List.dropWhile_append]
    split_ifs with hempty
    · rw [List.isEmpty_iff.mp hempty]
      rcases htail with rfl | ⟨_, _, _, _, rfl⟩
      · rfl
      · have hspace : isSpace '【' = false := by decide
        simp [hspace]
    · rfl
  obtain ⟨value, ws, hsplit, hws, hvalue⟩ := bracketValue_append (h.dropWhile isSpace) htail
  have hunlabelled : Unlabelled ws := by
    apply unlabelled_of_notMem
    intro hmem
    have hspace := hws _ hmem
    revert hspace
    decide
  refine ⟨String.ofList value, ?_, ?_⟩
  · simp only [strip, String.toList_ofList]
    rw [← stripChars_dropWhile cs, hsplit, stripChars_append value hws]
  · rw [← findBrackets_skip hunlabelled tail]
    unfold findBrackets
    rw [List.length_cons, bracketFields]
    simp only [if_true, bracketLabel_append hne hfree, hdropped, hvalue, List.cons.injEq, true_and]
    apply bracketFields_fuel
    · have hlength := congrArg List.length hsplit
      have hdrop := List.length_dropWhile_le isSpace cs
      simp only [List.length_append, List.length_cons] at hlength ⊢
      omega
    · exact le_rfl

end Pattern

/-- A label and what is said under it; the label ends at the first closing bracket. -/
structure Segment where
  label : String
  value : String
  label_free : '】' ∉ label.toList
  value_free : '【' ∉ value.toList

def Segment.text (s : Segment) : List Char := '【' :: (s.label.toList ++ '】' :: s.value.toList)

def requestOf (segments : List Segment) : String :=
  String.ofList (segments.flatMap Segment.text)

def fieldOf (label : String) : Option String := taskFieldAliases.lookup (normalizeTaskLabel label)

/-- The segments before the next label: brackets with nothing in them are none. -/
def blanks : List Segment → List Char
  | [] => []
  | s :: segments => if s.label = "" then s.text ++ blanks segments else []

/-- The labels of a request, each with all that comes before the next one. -/
def readings : List Segment → List (String × String)
  | [] => []
  | s :: segments =>
    if s.label = "" then readings segments
    else (s.label, s.value ++ String.ofList (blanks segments)) :: readings segments

/-- What the request says last under the labels of a field. -/
def lastValue (segments : List Segment) (key : String) : Option String :=
  ((readings segments).filterMap fun reading =>
    (fieldOf reading.1).map fun key => (key, reading.2)).reverse.lookup key

section Segments

variable {segments : List Segment}

theorem unlabelled_text {s : Segment} (h : s.label = "") : Unlabelled s.text := by
  have hvalue := unlabelled_of_notMem s.value_free
  rw [Segment.text, h]
  exact ⟨fun _ => rfl, fun hc => absurd hc (by decide), hvalue⟩

theorem unlabelled_blanks (segments : List Segment) : Unlabelled (blanks segments) := by
  induction segments with
  | nil => trivial
  | cons s segments ih =>
    unfold blanks
    split_ifs with hlabel
    · exact (unlabelled_text hlabel).append ih
    · trivial

/-- What follows the blanks begins with a label. -/
theorem text_eq_blanks (segments : List Segment) :
    ∃ tail, segments.flatMap Segment.text = blanks segments ++ tail ∧ LabelOrEnd tail := by
  induction segments with
  | nil => exact ⟨[], rfl, .inl rfl⟩
  | cons s segments ih =>
    unfold blanks
    split_ifs with hlabel
    · obtain ⟨tail, htext, htail⟩ := ih
      refine ⟨tail, ?_, htail⟩
      rw [List.flatMap_cons, htext, List.append_assoc]
    · refine ⟨(s :: segments).flatMap Segment.text, rfl,
      .inr ⟨s.label.toList, s.value.toList ++ segments.flatMap Segment.text,
        ?_, s.label_free, ?_⟩⟩
      · simpa using hlabel
      · simp only [List.flatMap_cons, Segment.text, List.cons_append, List.append_assoc]

/-- The pattern finds the labels, with their values up to white space. -/
theorem findBrackets_segments (segments : List Segment) :
    (findBrackets (segments.flatMap Segment.text)).map (fun found => (found.1, strip found.2)) =
      (readings segments).map fun reading => (reading.1, strip reading.2) := by
  induction segments with
  | nil => rfl
  | cons s segments ih =>
    rw [List.flatMap_cons]
    unfold readings
    split_ifs with hlabel
    · rw [findBrackets_skip (unlabelled_text hlabel), ih]
    · obtain ⟨tail, htext, htail⟩ := text_eq_blanks segments
      have hne : s.label.toList ≠ [] := by simpa using hlabel
      have hunlabelled : Unlabelled (s.value.toList ++ blanks segments) :=
        (unlabelled_of_notMem s.value_free).append (unlabelled_blanks segments)
      obtain ⟨value, hvalue, hfound⟩ := findBrackets_labelled hne s.label_free hunlabelled htail
      have hsplit : s.text ++ segments.flatMap Segment.text =
          '【' :: (s.label.toList ++ '】' :: ((s.value.toList ++ blanks segments) ++ tail)) := by
        rw [htext]
        simp [Segment.text]
      have hrest : findBrackets tail = findBrackets (segments.flatMap Segment.text) := by
        rw [htext, findBrackets_skip (unlabelled_blanks segments)]
      have hread : strip (s.value ++ String.ofList (blanks segments)) = strip value := by
        rw [hvalue, String.ofList_append, String.ofList_toList]
      rw [hsplit, hfound, hrest, List.map_cons, List.map_cons, ih, hread, String.ofList_toList]

/-- The rules keep the last value of each field. -/
theorem lookup_rawFields (segments : List Segment) (key : String) :
    (rawFields (requestOf segments)).lookup key = (lastValue segments key).map strip := by
  have hfound : (findBrackets (segments.flatMap Segment.text)).filterMap (fun found =>
      (fieldOf found.1).map fun key => (key, strip found.2)) =
        ((readings segments).filterMap fun reading =>
          (fieldOf reading.1).map fun key => (key, reading.2)).map fun item =>
            (item.1, strip item.2) := by
    have hmap := congrArg (List.filterMap fun found : String × String =>
      (fieldOf found.1).map fun key => (key, found.2)) (findBrackets_segments segments)
    rw [List.filterMap_map, List.filterMap_map] at hmap
    rw [List.map_filterMap]
    simp only [Option.map_map, Function.comp_def] at hmap ⊢
    exact hmap
  have hraw : rawFields (requestOf segments) =
      (((readings segments).filterMap fun reading =>
        (fieldOf reading.1).map fun key => (key, reading.2)).reverse.map fun item =>
          (item.1, strip item.2)) := by
    rw [List.map_reverse, ← hfound]
    simp only [rawFields, requestOf, String.toList_ofList]
    rfl
  rw [hraw, lastValue]
  generalize ((readings segments).filterMap fun reading =>
    (fieldOf reading.1).map fun key => (key, reading.2)).reverse = items
  induction items with
  | nil => rfl
  | cons item items ih =>
    rw [List.map_cons, List.lookup_cons, List.lookup_cons, ih]
    split <;> rfl

end Segments

def ruleListKeys : List String := listFields.map (·.2)

/-- A text field has the value in it, a list field each of its items. -/
def InField (fields : Dict) (key value : String) : Prop :=
  (key ∈ textKeys → contains (cleanText (fields.get key)) (strip value) = true) ∧
    (key ∈ ruleListKeys → ∀ item ∈ splitRuleList value, item ∈ textList (fields.get key))

def InText (text key value : String) : Prop :=
  (key ∈ textKeys → contains text (strip value) = true) ∧
    (key ∈ ruleListKeys → ∀ item ∈ splitRuleList value, contains text item = true)

/-- What a segment says under a known label is in the fields, and in the text made of them. -/
structure KeepsAll (segments : List Segment) (fields : Dict) : Prop where
  field : ∀ s ∈ segments, ∀ key, fieldOf s.label = some key → strip s.value ≠ "" →
    InField fields key s.value
  text : ∀ s ∈ segments, ∀ key, fieldOf s.label = some key → strip s.value ≠ "" →
    ∀ intake : FeishuTaskIntake, intake.structuredFields = fields →
      InText intake.canonicalRequestText key s.value

/-- The parser keeps all of every request of segments that it reads. -/
def NothingLost : Prop :=
  ∀ (segments : List Segment) (fields : Dict),
    parseBracketedTaskFields (requestOf segments) = some fields → KeepsAll segments fields

def Covers (key kept value : String) : Prop :=
  (key ∈ textKeys → contains (strip kept) (strip value) = true) ∧
    (key ∈ ruleListKeys → ∀ item ∈ splitRuleList value, item ∈ splitRuleList kept)

/-- What is said last about a field repeats whatever was said about it before. -/
def LastCoversAll (segments : List Segment) : Prop :=
  ∀ s ∈ segments, ∀ key, fieldOf s.label = some key → strip s.value ≠ "" →
    ∃ last, lastValue segments key = some last ∧ Covers key last s.value

section Fields

variable {segments : List Segment} {fields : Dict} {key value last : String}

theorem parseBracketedTaskFields_eq_some {text : String}
    (h : parseBracketedTaskFields text = some fields) :
    fields = normalizeStructuredTaskFields (rulePayload (rawFields text)) ∧
      structuredTaskSummary fields ≠ "" := by
  simp only [parseBracketedTaskFields] at h
  split_ifs at h
  cases hvalid : validateTaskIntakeLlmOutput (.obj (rulePayload (rawFields text))) with
  | error exc => simp [hvalid, Except.toOption] at h
  | ok read =>
    simp only [hvalid, Except.toOption, Option.some.injEq] at h
    rw [← h]
    obtain ⟨hread, husable⟩ := validateTaskIntakeLlmOutput_eq_ok hvalid
    rw [Json.asDict] at hread
    exact ⟨hread, husable⟩

theorem splitRuleList_strip (value : String) : splitRuleList (strip value) = splitRuleList value := by
  simp only [splitRuleList, strip_strip]

theorem mem_splitRuleList {item : String} (h : item ∈ splitRuleList value) :
    strip item = item ∧ item ≠ "" := by
  obtain ⟨hitem, hne⟩ := List.mem_filter.mp h
  obtain ⟨part, _, rfl⟩ := List.mem_map.mp hitem
  exact ⟨strip_strip _, by simpa using hne⟩

theorem textList_splitRuleList (value : String) :
    textList (.arr ((splitRuleList value).map .str)) = splitRuleList value := by
  have hclean : ((splitRuleList value).map Json.str).map cleanText = splitRuleList value := by
    rw [List.map_map]
    conv_rhs => rw [← List.map_id (splitRuleList value)]
    apply List.map_congr_left
    intro item hitem
    exact (mem_splitRuleList hitem).1
  rw [textList, hclean, List.filter_eq_self]
  intro item hitem
  simpa using (mem_splitRuleList hitem).2

/-- The keys of what the rules hand over are distinct. -/
theorem keys_rulePayload (raw : List (String × String)) :
    ((textKeys.map (fun key => (key, Json.str ((raw.lookup key).getD ""))) ++
      (listFields.map (·.2)).map (fun key =>
        (key, Json.arr ((splitRuleList ((raw.lookup key).getD "")).map .str))) ++
      [("missing_fields", Json.arr ((ruleRequiredLabels.filter fun field =>
          strip ((raw.lookup field.1).getD "") = "").map fun field => .str field.2)),
        ("assumptions", .arr []), ("confidence", .float bracketedTaskRuleConfidence)]).map
          (·.1)).Nodup := by
  have hkeys : schemaKeys.Nodup := by decide +kernel
  simpa [Function.comp_def, schemaKeys, listKeys] using hkeys

theorem get_rulePayload_text (raw : List (String × String)) (h : key ∈ textKeys) :
    (rulePayload raw).get key = .str ((raw.lookup key).getD "") := by
  refine Dict.get_ofList_of_mem (keys_rulePayload raw) ?_
  exact List.mem_append_left _ (List.mem_append_left _ (List.mem_map.mpr ⟨key, h, rfl⟩))

theorem get_rulePayload_list (raw : List (String × String)) (h : key ∈ ruleListKeys) :
    (rulePayload raw).get key =
      .arr ((splitRuleList ((raw.lookup key).getD "")).map .str) := by
  refine Dict.get_ofList_of_mem (keys_rulePayload raw) ?_
  exact List.mem_append_left _ (List.mem_append_right _ (List.mem_map.mpr ⟨key, h, rfl⟩))

/-- The field holds what is said last about it. -/
theorem fields_last (h : parseBracketedTaskFields (requestOf segments) = some fields)
    (hlast : lastValue segments key = some last) :
    (key ∈ textKeys → cleanText (fields.get key) = strip last) ∧
      (key ∈ ruleListKeys → textList (fields.get key) = splitRuleList last) := by
  have hlookup : ((rawFields (requestOf segments)).lookup key).getD "" = strip last := by
    rw [lookup_rawFields, hlast]
    rfl
  rw [(parseBracketedTaskFields_eq_some h).1]
  constructor
  · intro hkey
    obtain ⟨field, hfield, rfl⟩ := List.mem_map.mp hkey
    rw [get_normalize_text _ hfield, get_rulePayload_text _ hkey, hlookup]
    simp only [cleanText, strip_strip]
  · intro hkey
    obtain ⟨field, hfield, rfl⟩ := List.mem_map.mp hkey
    rw [get_normalize_list _ hfield, get_rulePayload_list _ hkey, hlookup, splitRuleList_strip,
      textList_splitRuleList, textList_splitRuleList]

theorem mem_readings {s : Segment} (hs : s ∈ segments) (hlabel : s.label ≠ "") :
    ∃ value, (s.label, value) ∈ readings segments := by
  induction segments with
  | nil => cases hs
  | cons t segments ih =>
    unfold readings
    rcases List.mem_cons.mp hs with rfl | hs
    · rw [if_neg hlabel]
      exact ⟨_, List.mem_cons_self⟩
    · obtain ⟨value, hvalue⟩ := ih hs
      split_ifs
      · exact ⟨value, hvalue⟩
      · exact ⟨value, List.mem_cons_of_mem _ hvalue⟩

/-- A field with a segment has a last value. -/
theorem exists_lastValue {s : Segment} (hs : s ∈ segments) (hkey : fieldOf s.label = some key) :
    ∃ last, lastValue segments key = some last := by
  have hlabel : s.label ≠ "" := by
    intro hempty
    have hnone : fieldOf "" = none := by decide
    rw [hempty, hnone] at hkey
    cases hkey
  obtain ⟨value, hvalue⟩ := mem_readings hs hlabel
  apply Option.isSome_iff_exists.mp
  rw [lastValue, List.lookup_isSome_iff]
  refine ⟨(key, value), ?_, by simp⟩
  apply List.mem_reverse.mpr
  exact List.mem_filterMap.mpr ⟨(s.label, value), hvalue, by simp [hkey]⟩

theorem inField_iff (h : parseBracketedTaskFields (requestOf segments) = some fields)
    (hlast : lastValue segments key = some last) (value : String) :
    InField fields key value ↔ Covers key last value := by
  obtain ⟨htext, hlist⟩ := fields_last h hlast
  unfold InField Covers
  constructor
  · rintro ⟨hvalue, hitems⟩
    refine ⟨fun hkey => htext hkey ▸ hvalue hkey, fun hkey => ?_⟩
    rw [← hlist hkey]
    exact hitems hkey
  · rintro ⟨hvalue, hitems⟩
    refine ⟨fun hkey => (htext hkey).symm ▸ hvalue hkey, fun hkey => ?_⟩
    rw [hlist hkey]
    exact hitems hkey

theorem contains_trans {a b c : String} (hab : contains a b = true) (hbc : contains b c = true) :
    contains a c = true := by
  simp only [contains, decide_eq_true_eq] at hab hbc ⊢
  exact hbc.trans hab

theorem contains_append_right (a b : String) : contains (a ++ b) b = true := by
  simp only [contains, decide_eq_true_eq, String.toList_append]
  exact (List.suffix_append _ _).isInfix

theorem contains_intercalate_of_mem {part : String} {parts : List String} (sep : String)
    (h : part ∈ parts) : contains (sep.intercalate parts) part = true := by
  simp only [contains, decide_eq_true_eq, String.toList_intercalate]
  exact List.infix_intercalate_of_mem _ (List.mem_map_of_mem h)

/-- The summary has a line for each field that holds something. -/
theorem inText_summary (hne : strip value ≠ "") (h : InField fields key value) :
    InText (structuredTaskSummary fields) key value := by
  constructor
  · intro hkey
    obtain ⟨field, hfield, rfl⟩ := List.mem_map.mp hkey
    have hvalue := h.1 hkey
    have hnonempty : cleanText (fields.get field.2) ≠ "" := by
      intro hempty
      rw [hempty] at hvalue
      simp only [contains, decide_eq_true_eq, String.toList_empty, List.infix_nil] at hvalue
      exact hne (String.toList_inj.mp hvalue)
    have hline : textLine fields field =
        some (field.1 ++ ": " ++ cleanText (fields.get field.2)) := by
      simp [textLine, hnonempty]
    have hmem := List.mem_append_left (listFields.filterMap (listLine fields))
      (List.mem_filterMap.mpr ⟨field, hfield, hline⟩)
    exact contains_trans (contains_intercalate_of_mem "\n" hmem)
      (contains_trans (contains_append_right _ _) hvalue)
  · intro hkey item hitem
    obtain ⟨field, hfield, rfl⟩ := List.mem_map.mp hkey
    have hvalue := h.2 hkey item hitem
    have hnonempty : textList (fields.get field.2) ≠ [] := List.ne_nil_of_mem hvalue
    have hline : listLine fields field =
        some (field.1 ++ ": " ++ "、".intercalate (textList (fields.get field.2))) := by
      simp [listLine, hnonempty]
    have hmem := List.mem_append_right (textFields.filterMap (textLine fields))
      (List.mem_filterMap.mpr ⟨field, hfield, hline⟩)
    exact contains_trans (contains_intercalate_of_mem "\n" hmem)
      (contains_trans (contains_append_right _ _) (contains_intercalate_of_mem "、" hvalue))

theorem lastCoversAll_of_keepsAll
    (h : parseBracketedTaskFields (requestOf segments) = some fields)
    (hkeeps : KeepsAll segments fields) : LastCoversAll segments := by
  intro s hs key hkey hne
  obtain ⟨last, hlast⟩ := exists_lastValue hs hkey
  refine ⟨last, hlast, ?_⟩
  apply (inField_iff h hlast s.value).mp
  exact hkeeps.field s hs key hkey hne

theorem keepsAll_of_lastCoversAll
    (h : parseBracketedTaskFields (requestOf segments) = some fields)
    (hcovers : LastCoversAll segments) : KeepsAll segments fields := by
  have hfield : ∀ s ∈ segments, ∀ key, fieldOf s.label = some key → strip s.value ≠ "" →
      InField fields key s.value := by
    intro s hs key hkey hne
    obtain ⟨last, hlast, hcover⟩ := hcovers s hs key hkey hne
    exact (inField_iff h hlast s.value).mpr hcover
  refine ⟨hfield, ?_⟩
  intro s hs key hkey hne intake hintake
  have htext : intake.canonicalRequestText = structuredTaskSummary fields := by
    rw [FeishuTaskIntake.canonicalRequestText, hintake]
    exact if_neg (parseBracketedTaskFields_eq_some h).2
  rw [htext]
  exact inText_summary hne (hfield s hs key hkey hne)

/-- Nothing is lost exactly when what is said last about each field repeats the rest. -/
theorem keepsAll_iff (h : parseBracketedTaskFields (requestOf segments) = some fields) :
    KeepsAll segments fields ↔ LastCoversAll segments := by
  constructor
  · exact lastCoversAll_of_keepsAll h
  · exact keepsAll_of_lastCoversAll h

end Fields

def restrictedRequest : List Segment :=
  [⟨"任务", "岗位校准和人才地图", by decide, by decide⟩,
    ⟨"限制", "不要自动外部触达", by decide, by decide⟩,
    ⟨"约束", "所有业务动作先给我确认", by decide, by decide⟩]

theorem parse_restrictedRequest :
    ∃ fields, parseBracketedTaskFields (requestOf restrictedRequest) = some fields := by
  apply Option.isSome_iff_exists.mp
  decide +kernel

theorem keepsAll_iff_restrictedRequest : ∃ fields,
    parseBracketedTaskFields (requestOf restrictedRequest) = some fields ∧
      (KeepsAll restrictedRequest fields ↔ LastCoversAll restrictedRequest) := by
  obtain ⟨fields, hfields⟩ := parse_restrictedRequest
  exact ⟨fields, hfields, keepsAll_iff hfields⟩

/-- The first restriction is not in the fields. -/
theorem not_nothingLost : ¬NothingLost := by
  intro hall
  obtain ⟨fields, hfields⟩ := parse_restrictedRequest
  have hcovers := lastCoversAll_of_keepsAll hfields (hall _ _ hfields)
  obtain ⟨last, hlast, hcover⟩ := hcovers ⟨"限制", "不要自动外部触达", by decide, by decide⟩
    (by simp [restrictedRequest]) "constraints" (by decide) (by decide)
  have hsaid : lastValue restrictedRequest "constraints" = some "所有业务动作先给我确认" := by
    decide +kernel
  obtain rfl := Option.some.inj (hsaid.symm.trans hlast)
  have hitem := hcover.2 (by decide) "不要自动外部触达" (by decide +kernel)
  revert hitem
  decide +kernel

end Headhunt.Feishu
