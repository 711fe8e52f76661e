import Headhunt.Feishu.ForcedCouncil
import Headhunt.Lib.PyJsonText

/-! What the parse of a task promises, whatever the gateway answers: at most two calls, and fields
that meet their own schema. -/
namespace Headhunt.Feishu
open Headhunt.Policy Headhunt.Storage Py

/-- The calls the loop makes: it goes on after an answer that does not meet the schema. -/
def gatewayCalls : List LlmAnswer → Nat
  | [] => 0
  | .error _ :: _ => 1
  | .ok answer :: rest =>
    match validateTaskIntakeLlmOutput answer with
    | .error (.schema _) => gatewayCalls rest + 1
    | _ => 1

theorem gatewayCalls_le (answers : List LlmAnswer) : gatewayCalls answers ≤ answers.length := by
  induction answers with
  | nil => exact Nat.le_refl 0
  | cons answer rest ih =>
    simp only [List.length_cons]
    cases answer with
    | error exc =>
      simp only [gatewayCalls]
      omega
    | ok answer =>
      unfold gatewayCalls
      split
      · omega
      · omega

/-- Answers to calls that are not made change nothing. -/
theorem parseAttempts_congr {intake : FeishuTaskIntake} {lastSchemaError : Option String}
    {answers answers' : List LlmAnswer} (hlength : answers'.length = answers.length)
    (htake : answers'.take (gatewayCalls answers) = answers.take (gatewayCalls answers)) :
    parseAttempts intake lastSchemaError answers' = parseAttempts intake lastSchemaError answers := by
  induction answers generalizing lastSchemaError answers' with
  | nil => rw [List.length_eq_zero_iff.mp hlength]
  | cons answer rest ih =>
    cases answers' with
    | nil => cases hlength
    | cons answer' rest' =>
      have hsame : answer' = answer := by
        have hpos : 0 < gatewayCalls (answer :: rest) := by
          cases answer with
          | error exc =>
            simp only [gatewayCalls]
            omega
          | ok answer =>
            unfold gatewayCalls
            split
            · omega
            · omega
        have hhead := congrArg List.head? htake
        rw [List.head?_take, List.head?_take, if_neg (by omega), if_neg (by omega)] at hhead
        exact Option.some.inj hhead
      subst hsame
      cases answer' with
      | error exc =>
        cases exc <;> rfl
      | ok answer =>
        unfold parseAttempts
        cases hvalid : validateTaskIntakeLlmOutput answer with
        | ok fields => rfl
        | error exc =>
          cases exc with
          | overflow => rfl
          | schema message =>
            simp only [gatewayCalls, hvalid, List.take_succ_cons, List.cons.injEq, true_and] at htake
            exact ih (by simpa using hlength) htake

/-- The fields of a parsed task: the keys of the schema, each with a clean value of its kind. -/
structure CleanFields (fields : Dict) : Prop where
  keys : (fields.map (·.1)).Perm schemaKeys
  count : fields.length = 16
  texts : ∀ key ∈ textKeys, ∃ text, fields.get key = .str text ∧ strip text = text
  lists : ∀ key ∈ listKeys, ∃ items : List String, fields.get key = .arr (items.map .str) ∧
    ∀ item ∈ items, strip item = item ∧ item ≠ ""
  confidence : ∃ x, fields.get "confidence" = .float x ∧ inUnit x = true
  usable : (∃ field ∈ textFields, fields.get field.2 ≠ .str "") ∨
    ∃ field ∈ listFields, fields.get field.2 ≠ .arr []
  fixed : validateTaskIntakeLlmOutput (.obj fields) = .ok fields

section Normalize

variable (payload : Dict)

theorem get_normalize_textKey {key : String} (h : key ∈ textKeys) :
    (normalizeStructuredTaskFields payload).get key = .str (cleanText (payload.get key)) := by
  refine Dict.get_ofList_of_mem (keys_normalize payload) ?_
  exact List.mem_append_left _ (List.mem_append_left _ (List.mem_map.mpr ⟨_, h, rfl⟩))

theorem get_normalize_listKey {key : String} (h : key ∈ listKeys) :
    (normalizeStructuredTaskFields payload).get key =
      .arr ((textList (payload.get key)).map .str) := by
  refine Dict.get_ofList_of_mem (keys_normalize payload) ?_
  exact List.mem_append_left _ (List.mem_append_right _ (List.mem_map.mpr ⟨_, h, rfl⟩))

theorem get_normalize_confidence :
    (normalizeStructuredTaskFields payload).get "confidence" =
      .float (confidenceOf (payload.get "confidence")) := by
  refine Dict.get_ofList_of_mem (keys_normalize payload) ?_
  exact List.mem_append_right _ (List.mem_singleton.mpr rfl)

theorem keys_normalize_perm :
    ((normalizeStructuredTaskFields payload).map (·.1)).Perm schemaKeys := by
  have hperm := Dict.keys_ofList (keys_normalize payload)
  simpa [Function.comp_def, schemaKeys, normalizeStructuredTaskFields] using hperm

theorem strip_cleanText (value : Json) : strip (cleanText value) = cleanText value := by
  cases value with
  | str text => exact strip_strip text
  | _ => rfl

theorem mem_textList {value : Json} {item : String} (h : item ∈ textList value) :
    strip item = item ∧ item ≠ "" := by
  cases value with
  | arr elems =>
    obtain ⟨hmem, hne⟩ := List.mem_filter.mp h
    obtain ⟨elem, _, rfl⟩ := List.mem_map.mp hmem
    exact ⟨strip_cleanText elem, by simpa using hne⟩
  | _ => cases h

/-- Clean texts are kept as they are. -/
theorem textList_texts {items : List String} (h : ∀ item ∈ items, strip item = item ∧ item ≠ "") :
    textList (.arr (items.map .str)) = items := by
  have hclean : (items.map Json.str).map cleanText = items := by
    rw [List.map_map]
    exact (List.map_congr_left fun item hitem => (h item hitem).1).trans (List.map_id _)
  unfold textList
  dsimp only
  rw [hclean, List.filter_eq_self]
  intro item hitem
  simpa using (h item hitem).2

theorem inUnit_clampUnit (x : Double) : inUnit (clampUnit x) = true := by
  have hzero : inUnit zeroDouble = true := by decide
  have hone : inUnit oneDouble = true := by decide +kernel
  cases x with
  | finite neg mantissa exponent =>
    unfold clampUnit
    dsimp only
    split_ifs with hunit
    · exact hzero
    · exact hunit
    · exact hzero
    · exact hone
  | inf neg => cases neg <;> simp [clampUnit, hzero, hone]
  | nan => exact hone

theorem inUnit_confidenceOf (value : Json) : inUnit (confidenceOf value) = true := by
  have hzero : inUnit zeroDouble = true := by decide
  have hone : inUnit oneDouble = true := by decide +kernel
  cases value with
  | bool b => cases b <;> simp [confidenceOf, hzero, hone]
  | int n =>
    unfold confidenceOf
    dsimp only
    cases floatOfInt n with
    | none => exact hzero
    | some x => exact inUnit_clampUnit x
  | float x => exact inUnit_clampUnit x
  | _ => exact hzero

/-- What is in the unit interval is not clamped; a negative zero has gone by then. -/
theorem clampUnit_clampUnit (x : Double) : clampUnit (clampUnit x) = clampUnit x := by
  have hzero : clampUnit zeroDouble = zeroDouble := by decide
  have hone : clampUnit oneDouble = oneDouble := by decide +kernel
  cases x with
  | finite neg mantissa exponent =>
    by_cases hunit : inUnit (.finite neg mantissa exponent) = true
    · by_cases hmantissa : mantissa = 0
      · subst hmantissa
        have hclamp : clampUnit (.finite neg 0 exponent) = zeroDouble := by
          simp [clampUnit, hunit]
        rw [hclamp, hzero]
      · have hclamp : clampUnit (.finite neg mantissa exponent) =
            .finite neg mantissa exponent := by
          simp [clampUnit, hunit, hmantissa]
        rw [hclamp, hclamp]
    · have hclamp : clampUnit (.finite neg mantissa exponent) =
          if neg then zeroDouble else oneDouble := by
        simp [clampUnit, hunit]
      rw [hclamp]
      split_ifs
      · exact hzero
      · exact hone
  | inf neg =>
    cases neg
    · exact hone
    · exact hzero
  | nan => exact hone

theorem confidenceOf_confidenceOf (value : Json) :
    confidenceOf (.float (confidenceOf value)) = confidenceOf value := by
  have hzero : clampUnit zeroDouble = zeroDouble := by decide
  have hone : clampUnit oneDouble = oneDouble := by decide +kernel
  change clampUnit (confidenceOf value) = confidenceOf value
  cases value with
  | bool b => cases b <;> simp [confidenceOf, hzero, hone]
  | int n =>
    unfold confidenceOf
    dsimp only
    cases floatOfInt n with
    | none => exact hzero
    | some x => exact clampUnit_clampUnit x
  | float x => exact clampUnit_clampUnit x
  | _ => exact hzero

theorem normalize_congr {payload payload' : Dict}
    (htexts : ∀ key ∈ textKeys, cleanText (payload.get key) = cleanText (payload'.get key))
    (hlists : ∀ key ∈ listKeys, textList (payload.get key) = textList (payload'.get key))
    (hconfidence : confidenceOf (payload.get "confidence") =
      confidenceOf (payload'.get "confidence")) :
    normalizeStructuredTaskFields payload = normalizeStructuredTaskFields payload' := by
  have htextItems := List.map_congr_left fun key hkey =>
    congrArg (fun text => (key, Json.str text)) (htexts key hkey)
  have hlistItems := List.map_congr_left fun key hkey =>
    congrArg (fun items : List String => (key, Json.arr (items.map .str))) (hlists key hkey)
  unfold normalizeStructuredTaskFields
  rw [htextItems, hlistItems, hconfidence]

/-- Normal fields are their own normal form. -/
theorem normalize_normalize :
    normalizeStructuredTaskFields (normalizeStructuredTaskFields payload) =
      normalizeStructuredTaskFields payload := by
  refine normalize_congr ?_ ?_ ?_
  · intro key hkey
    rw [get_normalize_textKey payload hkey]
    exact strip_cleanText _
  · intro key hkey
    rw [get_normalize_listKey payload hkey]
    exact textList_texts fun item hitem => mem_textList hitem
  · rw [get_normalize_confidence]
    exact confidenceOf_confidenceOf _

theorem validate_normalize (h : structuredTaskSummary (normalizeStructuredTaskFields payload) ≠ "") :
    validateTaskIntakeLlmOutput (.obj (normalizeStructuredTaskFields payload)) =
      .ok (normalizeStructuredTaskFields payload) := by
  have hmissing : (schemaKeys.filter fun key =>
      ((normalizeStructuredTaskFields payload).get? key).isNone) = [] := by
    refine List.filter_eq_nil_iff.mpr fun key hkey => ?_
    have hsome := Dict.mem_keys_iff.mp ((keys_normalize_perm payload).mem_iff.mpr hkey)
    simp [Option.isSome_iff_ne_none.mp hsome]
  have hunexpected : (((normalizeStructuredTaskFields payload).map (·.1)).filter
      fun key => key ∉ schemaKeys) = [] := by
    refine List.filter_eq_nil_iff.mpr fun key hkey => ?_
    simpa using (keys_normalize_perm payload).mem_iff.mp hkey
  have hconfidence : confidenceValid ((normalizeStructuredTaskFields payload).get "confidence") =
      .ok true := by
    rw [get_normalize_confidence]
    exact congrArg Except.ok (inUnit_confidenceOf _)
  have hinvalid : invalidFieldTypes (normalizeStructuredTaskFields payload) true = [] := by
    refine List.filter_eq_nil_iff.mpr fun key _ hfalse => ?_
    have hvalid : (if key ∈ textKeys then isText ((normalizeStructuredTaskFields payload).get key)
        else if key ∈ listKeys then
          isTextList ((normalizeStructuredTaskFields payload).get key)
        else true) = true := by
      split_ifs with htext hlist
      · rw [get_normalize_textKey payload htext]
        rfl
      · rw [get_normalize_listKey payload hlist]
        simp [isTextList, isText]
      · rfl
    cases hvalid.symm.trans (of_decide_eq_true hfalse)
  simp only [validateTaskIntakeLlmOutput, dictOrNone_obj, hmissing, hunexpected, hconfidence,
    hinvalid, ne_eq, not_true_eq_false, if_false, bind, Except.bind, normalize_normalize, h]

/-- Some line of the summary shows a field. -/
theorem usable_of_summary {fields : Dict} (h : structuredTaskSummary fields ≠ "") :
    (∃ field ∈ textFields, fields.get field.2 ≠ .str "") ∨
      ∃ field ∈ listFields, fields.get field.2 ≠ .arr [] := by
  by_contra hnone
  simp only [not_or, not_exists, not_and, not_not] at hnone
  obtain ⟨htexts, hlists⟩ := hnone
  have htextLines : textFields.filterMap (textLine fields) = [] := by
    refine List.filterMap_eq_nil_iff.mpr fun field hfield => ?_
    unfold textLine
    rw [htexts field hfield]
    rfl
  have hlistLines : listFields.filterMap (listLine fields) = [] := by
    refine List.filterMap_eq_nil_iff.mpr fun field hfield => ?_
    unfold listLine
    rw [hlists field hfield]
    rfl
  refine h ?_
  unfold structuredTaskSummary
  rw [htextLines, hlistLines]
  rfl

theorem cleanFields_normalize
    (h : structuredTaskSummary (normalizeStructuredTaskFields payload) ≠ "") :
    CleanFields (normalizeStructuredTaskFields payload) where
  keys := keys_normalize_perm payload
  count := by
    have hlength := (keys_normalize_perm payload).length_eq
    rw [List.length_map] at hlength
    exact hlength
  texts key hkey := ⟨_, get_normalize_textKey payload hkey, strip_cleanText _⟩
  lists key hkey := ⟨_, get_normalize_listKey payload hkey, fun _ hitem => mem_textList hitem⟩
  confidence := ⟨_, get_normalize_confidence payload, inUnit_confidenceOf _⟩
  usable := usable_of_summary h
  fixed := validate_normalize payload h

end Normalize

theorem cleanFields_of_validate {answer : Json} {fields : Dict}
    (h : validateTaskIntakeLlmOutput answer = .ok fields) : CleanFields fields := by
  obtain ⟨hfields, husable⟩ := validateTaskIntakeLlmOutput_eq_ok h
  rw [hfields] at husable ⊢
  exact cleanFields_normalize answer.asDict husable

/-- The text of every schema error says which output it is about. -/
theorem schema_message_ne {answer : Json} {message : String}
    (h : validateTaskIntakeLlmOutput answer = .error (.schema message)) : message ≠ "" := by
  rintro rfl
  unfold validateTaskIntakeLlmOutput at h
  cases hpayload : dictOrNone answer with
  | none => simp [hpayload] at h
  | some payload =>
    simp only [hpayload, bind, Except.bind] at h
    cases hconfidence : confidenceValid (Dict.get payload "confidence") with
    | error exc =>
      simp only [hconfidence] at h
      split_ifs at h with hmissing hunexpected
      · simp at h
      · simp at h
      · obtain rfl := Except.error.inj h
        unfold confidenceValid at hconfidence
        split at hconfidence
        · split at hconfidence <;> cases hconfidence
        · cases hconfidence
        · cases hconfidence
    | ok valid =>
      simp only [hconfidence] at h
      split_ifs at h <;> simp at h

theorem ne_of_containsAny {text : String} {patterns : List String}
    (hpatterns : ∀ pattern ∈ patterns, pattern ≠ "") (h : containsAny text patterns = true) :
    text ≠ "" := by
  rintro rfl
  obtain ⟨pattern, hpattern, hcontains⟩ := List.any_eq_true.mp h
  have hnil : pattern.toList = [] := List.infix_nil.mp (of_decide_eq_true hcontains)
  exact hpatterns pattern hpattern (String.toList_eq_nil_iff.mp hnil)

theorem rulesOr_status {intake parsed : FeishuTaskIntake} {message : String} {exc : ParseError}
    (hmessage : message ≠ "") (h : rulesOr intake message exc = .ok parsed) :
    parsed.parserStatus = .ruleParsedAfterLlmFailed := by
  unfold rulesOr at h
  cases hrules : parseTaskIntakeWithRules intake (some message) with
  | none => simp [hrules] at h
  | some read =>
    simp only [hrules, Except.ok.injEq] at h
    subst h
    obtain ⟨fields, _, rfl⟩ := Option.map_eq_some_iff.mp hrules
    simp [FeishuTaskIntake.withFields, nonemptyText, hmessage]

theorem parseAttempts_status {intake parsed : FeishuTaskIntake} {lastSchemaError : Option String}
    {answers : List LlmAnswer} (hlast : ∀ message ∈ lastSchemaError, message ≠ "")
    (h : parseAttempts intake lastSchemaError answers = .ok parsed) :
    parsed.parserStatus = .llmParsed ∨ parsed.parserStatus = .ruleParsedAfterLlmFailed := by
  induction answers generalizing lastSchemaError with
  | nil =>
    cases lastSchemaError with
    | none => simp [parseAttempts] at h
    | some message => exact .inr (rulesOr_status (hlast message rfl) h)
  | cons answer rest ih =>
    cases answer with
    | error exc =>
      cases exc with
      | gateway message =>
        simp only [parseAttempts] at h
        split_ifs at h with hmarker
        exact .inr (rulesOr_status (ne_of_containsAny (by decide) hmarker) h)
      | _ => simp [parseAttempts] at h
    | ok answer =>
      simp only [parseAttempts] at h
      cases hvalid : validateTaskIntakeLlmOutput answer with
      | ok fields =>
        simp only [hvalid, Except.ok.injEq] at h
        rw [← h]
        exact .inl rfl
      | error exc =>
        cases exc with
        | overflow => simp [hvalid] at h
        | schema message =>
          simp only [hvalid] at h
          refine ih ?_ h
          intro last hlast
          rw [← Option.mem_some_iff.mp hlast]
          exact schema_message_ne hvalid

/-- The merged list keeps the items of the input and has each of its items once. -/
structure Merged (texts merged : List String) : Prop where
  kept : ∀ item ∈ texts, item ∈ merged
  nodup : merged.Nodup

/-- The loop adds what is not there yet. -/
theorem merge_foldl (items merged : List String) (h : merged.Nodup) :
    let all := items.foldl
      (fun merged item => if item ∈ merged then merged else merged ++ [item]) merged
    all.Nodup ∧ ∀ item, item ∈ all ↔ item ∈ merged ∨ item ∈ items := by
  induction items generalizing merged with
  | nil => simp [h]
  | cons item items ih =>
    dsimp only [List.foldl_cons]
    by_cases hitem : item ∈ merged
    · obtain ⟨hnodup, hmem⟩ := ih merged h
      rw [if_pos hitem]
      refine ⟨hnodup, fun other => ?_⟩
      rw [hmem]
      constructor
      · rintro (hold | hnew)
        · exact .inl hold
        · exact .inr (List.mem_cons_of_mem _ hnew)
      · rintro (hold | hnew)
        · exact .inl hold
        · rcases List.mem_cons.mp hnew with rfl | hnew
          · exact .inl hitem
          · exact .inr hnew
    · have happend : (merged ++ [item]).Nodup := by
        refine List.nodup_append.mpr ⟨h, List.pairwise_singleton _ item, ?_⟩
        intro old hold new hnew
        rintro rfl
        exact hitem (List.mem_singleton.mp hnew ▸ hold)
      obtain ⟨hnodup, hmem⟩ := ih (merged ++ [item]) happend
      rw [if_neg hitem]
      refine ⟨hnodup, fun other => ?_⟩
      rw [hmem, List.mem_append, List.mem_singleton, List.mem_cons, or_assoc]

theorem merged_mergeTextLists {texts more : List String}
    (h : ∀ item ∈ texts, strip item = item ∧ item ≠ "") :
    Merged texts (mergeTextLists [texts, more]) := by
  obtain ⟨hnodup, hmem⟩ := merge_foldl
    ([texts, more].flatMap fun texts => (texts.map strip).filter (· ≠ "")) [] List.nodup_nil
  refine ⟨fun item hitem => (hmem item).mpr (.inr ?_), hnodup⟩
  refine List.mem_flatMap.mpr ⟨texts, List.mem_cons_self, List.mem_filter.mpr ⟨?_, ?_⟩⟩
  · exact List.mem_map.mpr ⟨item, hitem, (h item hitem).1⟩
  · simpa using (h item hitem).2

/-- What `parse_task_intake` itself reports is clean. -/
theorem clean_of_parse {crypto : Crypto} {payload : Dict} {tenantKey : Option String}
    {intake : FeishuTaskIntake} (h : parseTaskIntake crypto payload tenantKey = .ok intake) :
    (∀ item ∈ intake.missingFields, strip item = item ∧ item ≠ "") ∧
      ∀ item ∈ intake.assumptions, strip item = item ∧ item ≠ "" := by
  have hmissing : ∀ item ∈ ["任务目标或岗位/候选人背景不足", "任务类型需要用户确认"],
      strip item = item ∧ item ≠ "" := by decide +kernel
  have hassumption : strip triageAssumption = triageAssumption ∧ triageAssumption ≠ "" := by
    decide +kernel
  unfold parseTaskIntake at h
  split at h
  · cases h
  · split at h
    · cases h
    · split at h
      · cases h
      · obtain ⟨text, _, h⟩ := Except.bind_eq_ok.mp h
        obtain rfl := Except.ok.inj h
        constructor
        · intro item hitem
          refine hmissing item ?_
          dsimp only [missingFieldsOf] at hitem
          split_ifs at hitem <;> simp_all
        · intro item hitem
          dsimp only at hitem
          split_ifs at hitem
          · cases hitem
          · obtain rfl := List.mem_singleton.mp hitem
            exact hassumption

structure SameIdentity (intake parsed : FeishuTaskIntake) : Prop where
  threadId : parsed.threadId = intake.threadId
  taskId : parsed.taskId = intake.taskId
  sourceRef : parsed.sourceRef = intake.sourceRef
  chatId : parsed.chatId = intake.chatId
  tenantKey : parsed.tenantKey = intake.tenantKey
  messageId : parsed.messageId = intake.messageId
  requestText : parsed.requestText = intake.requestText
  senderOpenId : parsed.senderOpenId = intake.senderOpenId
  senderUserId : parsed.senderUserId = intake.senderUserId
  senderUnionId : parsed.senderUnionId = intake.senderUnionId

structure ParseContract (intake parsed : FeishuTaskIntake) : Prop where
  status : parsed.parserStatus = .llmParsed ∨ parsed.parserStatus = .ruleParsedAfterLlmFailed
  fields : CleanFields parsed.structuredFields
  identity : SameIdentity intake parsed
  missingFields : Merged intake.missingFields parsed.missingFields
  assumptions : Merged intake.assumptions parsed.assumptions

/-- The parse asks the gateway at most twice, and what it returns meets the contract. -/
theorem parseTaskIntakeWithLlm_contract {crypto : Crypto} {payload : Dict}
    {tenantKey : Option String} {intake : FeishuTaskIntake}
    (h : parseTaskIntake crypto payload tenantKey = .ok intake) (gateway : Nat → LlmAnswer) :
    let calls := gatewayCalls [gateway 0, gateway 1]
    calls ≤ 2 ∧
      (∀ gateway' : Nat → LlmAnswer, (∀ call < calls, gateway' call = gateway call) →
        parseTaskIntakeWithLlm intake (gateway' 0) (gateway' 1) =
          parseTaskIntakeWithLlm intake (gateway 0) (gateway 1)) ∧
      ∀ parsed, parseTaskIntakeWithLlm intake (gateway 0) (gateway 1) = .ok parsed →
        ParseContract intake parsed := by
  dsimp only
  have hcalls : gatewayCalls [gateway 0, gateway 1] ≤ 2 := gatewayCalls_le _
  refine ⟨hcalls, ?_, ?_⟩
  · intro gateway' hsame
    refine parseAttempts_congr rfl ?_
    have hcases : gatewayCalls [gateway 0, gateway 1] = 0 ∨
        gatewayCalls [gateway 0, gateway 1] = 1 ∨ gatewayCalls [gateway 0, gateway 1] = 2 := by
      omega
    rcases hcases with hzero | hone | htwo
    · rw [hzero]
      rfl
    · rw [hone]
      rw [hone] at hsame
      simp [hsame 0 (by omega)]
    · rw [htwo]
      rw [htwo] at hsame
      simp [hsame 0 (by omega), hsame 1 (by omega)]
  · intro parsed hparsed
    obtain ⟨_, _, hvalid⟩ := parseAttempts_eq_ok hparsed
    obtain ⟨fields, status, parserError, source, _, rfl⟩ := parsedFrom_of_attempts hparsed
    obtain ⟨hmissing, hassumptions⟩ := clean_of_parse h
    have hstatus := parseAttempts_status (by simp) hparsed
    exact
      { status := hstatus
        fields := cleanFields_of_validate hvalid
        identity := ⟨rfl, rfl, rfl, rfl, rfl, rfl, rfl, rfl, rfl, rfl⟩
        missingFields := merged_mergeTextLists hmissing
        assumptions := merged_mergeTextLists hassumptions }

theorem parseTaskIntakeWithLlm_contract_triggerEvent : ∃ intake parsed,
    parseTaskIntake Crypto.plain triggerEvent none = .ok intake ∧
      parseTaskIntakeWithLlm intake triggerlessAnswer triggerlessAnswer = .ok parsed ∧
      gatewayCalls [triggerlessAnswer, triggerlessAnswer] ≤ 2 ∧ ParseContract intake parsed := by
  obtain ⟨intake, parsed, hintake, hparse, _, _⟩ := parse_triggerEvent
  obtain ⟨hcalls, _, hcontract⟩ :=
    parseTaskIntakeWithLlm_contract hintake fun _ => triggerlessAnswer
  exact ⟨intake, parsed, hintake, hparse, hcalls, hcontract parsed hparse⟩

end Headhunt.Feishu
