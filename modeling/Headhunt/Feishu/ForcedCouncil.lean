import Headhunt.Feishu.TaskParsing
import Headhunt.Lib.Substring

/-! When a request for the full council reaches the plan. The plan is made of the summary of
the structured fields, so a trigger counts only where one of them repeats it. -/
namespace Headhunt.Feishu
open Headhunt.Policy Py

def textOf (value : Json) : String := value.asStr.getD ""

def elemsOf : Json → List Json
  | .arr elems => elems
  | _ => []

def mentions (payload : Dict) (pattern : String) : Bool :=
  (textFields.any fun field => contains (textOf (payload.get field.2)) pattern) ||
    listFields.any fun field => (elemsOf (payload.get field.2)).any fun item =>
      contains (textOf item) pattern

def mentionsTrigger (payload : Dict) : Bool := fullCouncilTriggers.any (mentions payload)

/-- The answer the fields are read from: the first one of the model that meets the schema, or
what the bracket rules find. -/
def acceptedAnswer (intake : FeishuTaskIntake) : List LlmAnswer → Dict
  | .ok answer :: rest =>
    if (validateTaskIntakeLlmOutput answer).toOption.isSome then answer.asDict
    else acceptedAnswer intake rest
  | _ => rulePayload (rawFields intake.requestText)

/-- What the summary puts between and before the fields is in no trigger. -/
theorem solid_triggers : ∀ trigger ∈ fullCouncilTriggers, Solid ['\n', '、', ':'] trigger := by
  have h : ∀ trigger ∈ fullCouncilTriggers, ∃ hne : trigger.toList ≠ [],
      isSpace (trigger.toList.head hne) = false ∧ isSpace (trigger.toList.getLast hne) = false ∧
        (['\n', '、', ':'].all fun c => c ∉ trigger.toList) = true := by
    decide +kernel
  intro trigger htrigger
  obtain ⟨hne, hhead, hlast, hsep⟩ := h trigger htrigger
  exact ⟨hne, hhead, hlast, fun c hc => by simpa using List.all_eq_true.mp hsep c hc⟩

theorem labels_plain : ∀ trigger ∈ fullCouncilTriggers, ∀ field ∈ textFields ++ listFields,
    contains field.1 trigger = false := by
  decide +kernel

theorem keys_normalize (payload : Dict) :
    ((textKeys.map (fun key => (key, Json.str (cleanText (payload.get key)))) ++
      listKeys.map (fun key => (key, Json.arr ((textList (payload.get key)).map .str))) ++
      [("confidence", Json.float (confidenceOf (payload.get "confidence")))]).map (·.1)).Nodup := by
  have hkeys : schemaKeys.Nodup := by decide +kernel
  simpa [Function.comp_def, schemaKeys] using hkeys

theorem get_normalize_text (payload : Dict) {field : String × String} (h : field ∈ textFields) :
    (normalizeStructuredTaskFields payload).get field.2 =
      .str (cleanText (payload.get field.2)) := by
  refine Dict.get_ofList_of_mem (keys_normalize payload) ?_
  have hkey : field.2 ∈ textKeys := List.mem_map_of_mem h
  exact List.mem_append_left _ (List.mem_append_left _ (List.mem_map.mpr ⟨_, hkey, rfl⟩))

theorem get_normalize_list (payload : Dict) {field : String × String} (h : field ∈ listFields) :
    (normalizeStructuredTaskFields payload).get field.2 =
      .arr ((textList (payload.get field.2)).map .str) := by
  refine Dict.get_ofList_of_mem (keys_normalize payload) ?_
  have hkey : field.2 ∈ listKeys := List.mem_append_left _ (List.mem_map_of_mem h)
  exact List.mem_append_left _ (List.mem_append_right _ (List.mem_map.mpr ⟨_, hkey, rfl⟩))

section Solid

variable {trigger : String} (h : Solid ['\n', '、', ':'] trigger)
include h

theorem contains_cleanText (value : Json) :
    contains (cleanText value) trigger = contains (textOf value) trigger := by
  cases value with
  | str s => exact h.contains_strip s
  | _ => rfl

theorem any_textList (value : Json) :
    (textList value).any (contains · trigger) =
      (elemsOf value).any fun item => contains (textOf item) trigger := by
  cases value with
  | arr elems =>
    rw [Bool.eq_iff_iff]
    simp only [textList, elemsOf, List.any_eq_true, List.mem_filter, List.mem_map, decide_eq_true_eq]
    constructor
    · rintro ⟨_, ⟨⟨item, hitem, rfl⟩, _⟩, hin⟩
      exact ⟨item, hitem, contains_cleanText h item ▸ hin⟩
    · rintro ⟨item, hitem, hin⟩
      rw [← contains_cleanText h item] at hin
      refine ⟨cleanText item, ⟨⟨item, hitem, rfl⟩, ?_⟩, hin⟩
      intro hempty
      rw [hempty, h.contains_empty] at hin
      cases hin
  | _ => rfl

/-- The line of a text field contains what its value does. -/
theorem any_textLine (fields : Dict) {field : String × String}
    (hlabel : contains field.1 trigger = false) :
    (textLine fields field).any (contains · trigger) =
      contains (textOf (fields.get field.2)) trigger := by
  rw [← contains_cleanText h]
  unfold textLine
  by_cases hempty : cleanText (fields.get field.2) = ""
  · simp [hempty, h.contains_empty]
  · simp [hempty, h.contains_label (by decide) field.1, hlabel]

/-- The line of a list field contains what one of its items does. -/
theorem any_listLine (fields : Dict) {field : String × String}
    (hlabel : contains field.1 trigger = false) :
    (listLine fields field).any (contains · trigger) =
      (elemsOf (fields.get field.2)).any fun item => contains (textOf item) trigger := by
  rw [← any_textList h]
  unfold listLine
  by_cases hempty : textList (fields.get field.2) = []
  · simp [hempty]
  · simp [hempty, h.contains_label (by decide) field.1, hlabel,
      h.contains_intercalate "、" '、' rfl (by decide)]

theorem contains_structuredTaskSummary (fields : Dict)
    (hlabels : ∀ field ∈ textFields ++ listFields, contains field.1 trigger = false) :
    contains (structuredTaskSummary fields) trigger = mentions fields trigger := by
  have htext : ∀ field ∈ textFields, (textLine fields field).any (contains · trigger) =
      contains (textOf (fields.get field.2)) trigger := fun field hfield =>
    any_textLine h fields (hlabels field (List.mem_append_left _ hfield))
  have hlist : ∀ field ∈ listFields, (listLine fields field).any (contains · trigger) =
      (elemsOf (fields.get field.2)).any fun item => contains (textOf item) trigger :=
    fun field hfield => any_listLine h fields (hlabels field (List.mem_append_right _ hfield))
  unfold structuredTaskSummary mentions
  rw [h.contains_intercalate "\n" '\n' rfl (by decide), List.any_append, List.any_filterMap_eq htext,
    List.any_filterMap_eq hlist]

/-- Cleaning the fields keeps what they mention. -/
theorem mentions_normalize (payload : Dict) :
    mentions (normalizeStructuredTaskFields payload) trigger = mentions payload trigger := by
  have htext : ∀ field ∈ textFields,
      contains (textOf ((normalizeStructuredTaskFields payload).get field.2)) trigger =
        contains (textOf (payload.get field.2)) trigger := by
    intro field hfield
    rw [get_normalize_text payload hfield]
    exact contains_cleanText h _
  have hlist : ∀ field ∈ listFields,
      ((elemsOf ((normalizeStructuredTaskFields payload).get field.2)).any fun item =>
        contains (textOf item) trigger) =
      (elemsOf (payload.get field.2)).any fun item => contains (textOf item) trigger := by
    intro field hfield
    rw [get_normalize_list payload hfield, ← any_textList h (payload.get field.2)]
    simp [elemsOf, textOf, Json.asStr, Function.comp_def]
  unfold mentions
  rw [List.any_eq_of_mem htext, List.any_eq_of_mem hlist]

end Solid

theorem containsAny_summary (payload : Dict) :
    containsAny (structuredTaskSummary (normalizeStructuredTaskFields payload))
      fullCouncilTriggers = mentionsTrigger payload := by
  refine List.any_eq_of_mem fun trigger htrigger => ?_
  have hsolid := solid_triggers trigger htrigger
  rw [contains_structuredTaskSummary hsolid _ (labels_plain trigger htrigger),
    mentions_normalize hsolid]

theorem asDict_of_dictOrNone {value : Json} {payload : Dict} (h : dictOrNone value = some payload) :
    value.asDict = payload := by
  cases value with
  | obj d => exact Option.some.inj h
  | _ => cases h

theorem validateTaskIntakeLlmOutput_eq_ok {answer : Json} {fields : Dict}
    (h : validateTaskIntakeLlmOutput answer = .ok fields) :
    fields = normalizeStructuredTaskFields answer.asDict ∧ structuredTaskSummary fields ≠ "" := by
  unfold validateTaskIntakeLlmOutput at h
  cases hpayload : dictOrNone answer with
  | none => simp [hpayload] at h
  | some payload =>
    simp only [hpayload, bind, Except.bind] at h
    rw [asDict_of_dictOrNone hpayload]
    cases hconfidence : confidenceValid (Dict.get payload "confidence") with
    | error exc =>
      simp only [hconfidence] at h
      split_ifs at h
    | ok valid =>
      simp only [hconfidence] at h
      split_ifs at h with hmissing hunexpected htypes hempty
      rw [← Except.ok.inj h]
      exact ⟨rfl, hempty⟩

theorem parseTaskIntakeWithRules_eq_some {intake parsed : FeishuTaskIntake}
    {parserError : Option String} (h : parseTaskIntakeWithRules intake parserError = some parsed) :
    validateTaskIntakeLlmOutput (.obj (rulePayload (rawFields intake.requestText))) =
      .ok parsed.structuredFields := by
  obtain ⟨fields, hfields, rfl⟩ := Option.map_eq_some_iff.mp h
  simp only [parseBracketedTaskFields] at hfields
  split_ifs at hfields
  cases hvalid : validateTaskIntakeLlmOutput (.obj (rulePayload (rawFields intake.requestText))) with
  | error exc => simp [hvalid, Except.toOption] at hfields
  | ok fields =>
    simp only [hvalid, Except.toOption, Option.some.injEq] at hfields
    rw [← hfields]
    rfl

theorem rulesOr_eq_ok {intake parsed : FeishuTaskIntake} {message : String} {exc : ParseError}
    (h : rulesOr intake message exc = .ok parsed) :
    validateTaskIntakeLlmOutput (.obj (rulePayload (rawFields intake.requestText))) =
      .ok parsed.structuredFields := by
  unfold rulesOr at h
  cases hrules : parseTaskIntakeWithRules intake (some message) with
  | none => simp [hrules] at h
  | some read =>
    simp only [hrules, Except.ok.injEq] at h
    exact h ▸ parseTaskIntakeWithRules_eq_some hrules

theorem acceptedAnswer_nil (intake : FeishuTaskIntake) :
    (Json.obj (rulePayload (rawFields intake.requestText))).asDict = acceptedAnswer intake [] := by
  rw [acceptedAnswer, Json.asDict]
  simp

theorem acceptedAnswer_error (intake : FeishuTaskIntake) (exc : ParseError)
    (rest : List LlmAnswer) :
    (Json.obj (rulePayload (rawFields intake.requestText))).asDict =
      acceptedAnswer intake (.error exc :: rest) := by
  rw [acceptedAnswer, Json.asDict]
  simp

theorem parseAttempts_eq_ok {intake parsed : FeishuTaskIntake} {lastSchemaError : Option String}
    {answers : List LlmAnswer} (h : parseAttempts intake lastSchemaError answers = .ok parsed) :
    ∃ answer, answer.asDict = acceptedAnswer intake answers ∧
      validateTaskIntakeLlmOutput answer = .ok parsed.structuredFields := by
  induction answers generalizing lastSchemaError with
  | nil =>
    cases lastSchemaError with
    | none => simp [parseAttempts] at h
    | some message => exact ⟨_, acceptedAnswer_nil intake, rulesOr_eq_ok h⟩
  | cons answer rest ih =>
    cases answer with
    | error exc =>
      cases exc with
      | gateway message =>
        simp only [parseAttempts] at h
        split_ifs at h
        exact ⟨_, acceptedAnswer_error intake _ rest, rulesOr_eq_ok h⟩
      | _ => simp [parseAttempts] at h
    | ok answer =>
      simp only [parseAttempts] at h
      cases hvalid : validateTaskIntakeLlmOutput answer with
      | ok fields =>
        simp only [hvalid, Except.ok.injEq] at h
        refine ⟨answer, ?_, ?_⟩
        · simp [acceptedAnswer, hvalid, Except.toOption]
        · rw [← h]
          exact hvalid
      | error exc =>
        cases exc with
        | schema message =>
          simp only [hvalid] at h
          obtain ⟨accepted, haccepted, hfields⟩ := ih h
          exact ⟨accepted, by simp [acceptedAnswer, hvalid, Except.toOption, haccepted], hfields⟩
        | overflow => simp [hvalid] at h

/-- The plan deliberates in the full council, because the user asked for it. -/
def FullCouncilForced (plan : TaskPlan) : Prop :=
  plan.councilMode = .fullCouncil ∧ plan.userForcedFullCouncil = true ∧
    plan.requiredAgents = fullCouncilAgents

theorem createTaskPlan_forced_iff (fresh : FreshPlan) (request : CouncilDeliberateRequest) :
    FullCouncilForced (Policy.createTaskPlan fresh request) ↔
      containsAny request.requestText fullCouncilTriggers = true := by
  constructor
  · rintro ⟨_, hforced, _⟩
    exact hforced
  · intro h
    simp [FullCouncilForced, Policy.createTaskPlan, selectCouncil_of_forced h, h]

/-- The plan gets the full council exactly if the accepted answer mentions a trigger. -/
theorem fullCouncilForced_iff {intake parsed : FeishuTaskIntake} {first second : LlmAnswer}
    (h : parseTaskIntakeWithLlm intake first second = .ok parsed) (fresh : FreshPlan) :
    ∃ plan, parsed.createTaskPlan fresh = some plan ∧
      (FullCouncilForced plan ↔
        mentionsTrigger (acceptedAnswer intake [first, second]) = true) := by
  obtain ⟨answer, haccepted, hvalid⟩ := parseAttempts_eq_ok h
  obtain ⟨hfields, husable⟩ := validateTaskIntakeLlmOutput_eq_ok hvalid
  have htext : parsed.canonicalRequestText = structuredTaskSummary parsed.structuredFields := by
    simp [FeishuTaskIntake.canonicalRequestText, husable]
  have hne : parsed.canonicalRequestText ≠ "" := htext ▸ husable
  refine ⟨_, dif_pos hne, ?_⟩
  rw [← haccepted, ← containsAny_summary, ← hfields, ← htext]
  exact createTaskPlan_forced_iff fresh ⟨_, _, _, hne⟩

/-- A trigger in the request makes every plan of the request a forced one. -/
def ForcedCouncilKept : Prop :=
  ∀ (crypto : Crypto) (payload : Dict) (tenantKey : Option String) (first second : LlmAnswer)
    (intake parsed : FeishuTaskIntake) (fresh : FreshPlan) (plan : TaskPlan),
    parseTaskIntake crypto payload tenantKey = .ok intake →
    containsAny intake.requestText fullCouncilTriggers = true →
    parseTaskIntakeWithLlm intake first second = .ok parsed →
    parsed.createTaskPlan fresh = some plan → FullCouncilForced plan

def triggerEvent : Dict := Dict.ofList
  [("event", .obj (Dict.ofList
    [("message", .obj (Dict.ofList
      [("chat_id", .str "oc_chat"), ("message_id", .str "om_message"),
        ("content",
          .str "\x7b\"text\": \"请启动三省六部会审\\n【任务】寻找电控候选人\"\x7d")]))]))]

def triggerlessAnswer : LlmAnswer := .ok (.obj (rulePayload [("task", "寻找电控候选人")]))

def triggerIntake : Option FeishuTaskIntake :=
  (parseTaskIntake Crypto.plain triggerEvent none).toOption

def triggerParsed : Option FeishuTaskIntake := triggerIntake.bind fun intake =>
  (parseTaskIntakeWithLlm intake triggerlessAnswer triggerlessAnswer).toOption

theorem parse_triggerEvent : ∃ intake parsed,
    parseTaskIntake Crypto.plain triggerEvent none = .ok intake ∧
      parseTaskIntakeWithLlm intake triggerlessAnswer triggerlessAnswer = .ok parsed ∧
      triggerIntake = some intake ∧ triggerParsed = some parsed := by
  have hsome : triggerParsed.isSome = true := by decide +kernel
  obtain ⟨parsed, hparsed⟩ := Option.isSome_iff_exists.mp hsome
  obtain ⟨intake, hintake, hparse⟩ := Option.bind_eq_some_iff.mp hparsed
  exact ⟨intake, parsed, Except.toOption_eq_some.mp hintake, Except.toOption_eq_some.mp hparse,
    hintake, hparsed⟩

/-- The task goes to triage. -/
theorem not_forcedCouncilKept : ¬ForcedCouncilKept := by
  intro h
  obtain ⟨intake, parsed, hintake, hparse, htrigger, hparsed⟩ := parse_triggerEvent
  have hrequest : triggerIntake.all (fun intake =>
      containsAny intake.requestText fullCouncilTriggers) = true := by
    decide +kernel
  have hplan : triggerParsed.any (fun parsed =>
      (parsed.createTaskPlan ⟨.ofNat 1, .ofNat 2⟩).any fun plan =>
        plan.userForcedFullCouncil = false) = true := by
    decide +kernel
  rw [htrigger, Option.all_some] at hrequest
  rw [hparsed, Option.any_some] at hplan
  obtain ⟨plan, hcreate, hforced⟩ := (Option.any_eq_true _ _).mp hplan
  have hkept := h Crypto.plain triggerEvent none _ _ intake parsed _ plan hintake hrequest hparse
    hcreate
  rw [hkept.2.1] at hforced
  exact absurd hforced (by decide)

theorem fullCouncilForced_iff_triggerEvent : ∃ intake parsed plan,
    triggerIntake = some intake ∧
      parseTaskIntakeWithLlm intake triggerlessAnswer triggerlessAnswer = .ok parsed ∧
      parsed.createTaskPlan ⟨.ofNat 1, .ofNat 2⟩ = some plan ∧
      (FullCouncilForced plan ↔ mentionsTrigger
        (acceptedAnswer intake [triggerlessAnswer, triggerlessAnswer]) = true) := by
  obtain ⟨intake, parsed, _, hparse, htrigger, _⟩ := parse_triggerEvent
  obtain ⟨plan, hcreate, hiff⟩ := fullCouncilForced_iff hparse ⟨.ofNat 1, .ofNat 2⟩
  exact ⟨intake, parsed, plan, htrigger, hparse, hcreate, hiff⟩

end Headhunt.Feishu
