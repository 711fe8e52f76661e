import Headhunt.Feishu.TaskIntake

/-! `parse_task_intake_with_llm`: the fields of a task as the model or the bracket rules
read them, and the plan and payload made of them. -/
namespace Headhunt.Feishu
open Headhunt.Policy Headhunt.Storage Py

def cleanText : Json → String
  | .str s => strip s
  | _ => ""

def textList : Json → List String
  | .arr elems => (elems.map cleanText).filter (· ≠ "")
  | _ => []

/-- The fields that hold one text, with their labels in the summary. -/
def textFields : List (String × String) :=
  [("任务", "task"), ("项目", "project"), ("岗位", "role"), ("地点", "location"),
    ("职级/年限", "level_years"), ("薪资", "compensation"), ("JD", "job_description")]

def listFields : List (String × String) :=
  [("Must-have", "must_have"), ("Nice-to-have", "nice_to_have"), ("目标公司", "target_companies"),
    ("排除公司", "excluded_companies"), ("交付物", "deliverables"), ("限制", "constraints")]

def textKeys : List String := textFields.map (·.2)

/-- The list fields the schema asks for, two more than the summary shows. -/
def listKeys : List String := listFields.map (·.2) ++ ["missing_fields", "assumptions"]

def textLine (fields : Dict) (field : String × String) : Option String :=
  let value := cleanText (fields.get field.2)
  if value = "" then none else some (field.1 ++ ": " ++ value)

def listLine (fields : Dict) (field : String × String) : Option String :=
  let values := textList (fields.get field.2)
  if values = [] then none else some (field.1 ++ ": " ++ "、".intercalate values)

def structuredTaskSummary (fields : Dict) : String :=
  "\n".intercalate
    (textFields.filterMap (textLine fields) ++ listFields.filterMap (listLine fields))

/-- `summary or self.request_text`. -/
def FeishuTaskIntake.canonicalRequestText (intake : FeishuTaskIntake) : String :=
  let summary := structuredTaskSummary intake.structuredFields
  if summary = "" then intake.requestText else summary

def schemaKeys : List String := textKeys ++ listKeys ++ ["confidence"]

inductive AnswerError
  | schema (message : String)
  /-- `float` of an integer that is too large. -/
  | overflow
deriving DecidableEq

/-- `float(n)`; `none` is an `OverflowError`. -/
def floatOfInt (n : Int) : Option Double :=
  match Double.ofFraction (n < 0) n.natAbs 1 with
  | .inf _ => none
  | x => some x

def inUnit : Double → Bool
  | .finite neg mantissa exponent =>
    let (num, den) := Double.scale 2 mantissa 1 exponent
    mantissa = 0 ∨ neg = false ∧ num ≤ den
  | _ => false

def confidenceValid : Json → Except AnswerError Bool
  | .int n =>
    match floatOfInt n with
    | some x => .ok (inUnit x)
    | none => .error .overflow
  | .float x => .ok (inUnit x)
  | _ => .ok false

def clampUnit : Double → Double
  | .finite neg mantissa exponent =>
    if inUnit (.finite neg mantissa exponent) then
      if mantissa = 0 then zeroDouble else .finite neg mantissa exponent
    else if neg then zeroDouble else oneDouble
  | .inf true => zeroDouble
  | _ => oneDouble

def confidenceOf : Json → Double
  | .bool b => if b then oneDouble else zeroDouble
  | .int n => (floatOfInt n).elim zeroDouble clampUnit
  | .float x => clampUnit x
  | _ => zeroDouble

def isText : Json → Bool
  | .str _ => true
  | _ => false

def isTextList : Json → Bool
  | .arr elems => elems.all isText
  | _ => false

/-- The text and list fields of a wrong type, sorted by name with the confidence. -/
def invalidFieldTypes (payload : Dict) (confidence : Bool) : List String :=
  let valid (key : String) : Bool :=
    if key ∈ textKeys then isText (payload.get key)
    else if key ∈ listKeys then isTextList (payload.get key)
    else confidence
  ["assumptions", "compensation", "confidence", "constraints", "deliverables",
    "excluded_companies", "job_description", "level_years", "location", "missing_fields",
    "must_have", "nice_to_have", "project", "role", "target_companies", "task"].filter
      fun key => valid key = false

def normalizeStructuredTaskFields (payload : Dict) : Dict := Dict.ofList
  (textKeys.map (fun key => (key, .str (cleanText (payload.get key)))) ++
    listKeys.map (fun key => (key, .arr ((textList (payload.get key)).map .str))) ++
    [("confidence", .float (confidenceOf (payload.get "confidence")))])

/-- The unexpected fields are named in the order of the dict, which is sorted here; the source names
them in the order of the answer. -/
def validateTaskIntakeLlmOutput (answer : Json) : Except AnswerError Dict :=
  match dictOrNone answer with
  | none => .error (.schema "LLM task intake output must be a JSON object")
  | some payload => do
    let missing := schemaKeys.filter fun key => (payload.get? key).isNone
    let unexpected := (payload.map (·.1)).filter fun key => key ∉ schemaKeys
    if missing ≠ [] then
      .error (.schema
        ("LLM task intake output missing required fields: " ++ ", ".intercalate missing))
    else if unexpected ≠ [] then
      .error (.schema
        ("LLM task intake output contains unexpected fields: " ++ ", ".intercalate unexpected))
    else do
      let invalid := invalidFieldTypes payload (← confidenceValid (payload.get "confidence"))
      if invalid ≠ [] then
        .error (.schema
          ("LLM task intake output has invalid field types: " ++ ", ".intercalate invalid))
      else
        let fields := normalizeStructuredTaskFields payload
        if structuredTaskSummary fields = "" then
          .error (.schema "LLM task intake output contains no usable recruiting fields")
        else .ok fields

/-- `[^】]+】`: the label and what follows it. -/
def bracketLabel (cs : List Char) : Option (List Char × List Char) :=
  let label := cs.takeWhile (· ≠ '】')
  match cs.dropWhile (· ≠ '】') with
  | _ :: rest => if label = [] then none else some (label, rest)
  | [] => none

/-- Where the value ends: before white space and a label, or at the end of the text. -/
def valueEnds (cs : List Char) : Bool :=
  match cs.dropWhile isSpace with
  | '【' :: rest => (bracketLabel rest).isSome
  | _ => cs = [] ∨ cs = ['\n']

/-- The shortest value, and what follows it. -/
def bracketValue : List Char → List Char × List Char
  | [] => ([], [])
  | c :: cs =>
    if valueEnds (c :: cs) then ([], c :: cs)
    else ((c :: (bracketValue cs).1), (bracketValue cs).2)

/-- `findall` of the pattern. Every match consumes a bracket, so the length is enough. -/
def bracketFields : Nat → List Char → List (String × String)
  | 0, _ => []
  | _, [] => []
  | fuel + 1, c :: cs =>
    match if c = '【' then bracketLabel cs else none with
    | none => bracketFields fuel cs
    | some (label, rest) =>
      let value := bracketValue (rest.dropWhile isSpace)
      (String.ofList label, String.ofList value.1) :: bracketFields fuel value.2

def taskFieldAliases : List (String × String) :=
  [("任务", "task"), ("项目", "project"), ("岗位", "role"), ("职位", "role"), ("地点", "location"),
    ("城市", "location"), ("职级/年限", "level_years"), ("职级年限", "level_years"),
    ("年限", "level_years"), ("薪资", "compensation"), ("薪酬", "compensation"),
    ("jd", "job_description"), ("岗位描述", "job_description"), ("职位描述", "job_description"),
    ("must-have", "must_have"), ("musthave", "must_have"), ("must", "must_have"),
    ("nice-to-have", "nice_to_have"), ("nicetohave", "nice_to_have"), ("nice", "nice_to_have"),
    ("目标公司", "target_companies"), ("目标企业", "target_companies"),
    ("排除公司", "excluded_companies"), ("排除企业", "excluded_companies"),
    ("交付物", "deliverables"), ("输出", "deliverables"), ("限制", "constraints"),
    ("约束", "constraints")]

def normalizeTaskLabel (label : String) : String :=
  lower (String.ofList (stripChars (fun c => c = ':' || c = '：')
    (label.toList.filter fun c => !isSpace c)))

/-- `re.split` at the separators, the empty parts dropped afterwards anyway. -/
def splitRuleList (value : String) : List String :=
  let isSeparator (c : Char) : Bool := c ∈ ['、', '，', ',', '；', ';', '\n']
  (((strip value).toList.splitOnP isSeparator).map fun part => strip (String.ofList part)).filter
    (· ≠ "")

/-- The last bracket with a key counts. -/
def rawFields (text : String) : List (String × String) :=
  ((bracketFields text.toList.length text.toList).filterMap fun field =>
    (taskFieldAliases.lookup (normalizeTaskLabel field.1)).map fun key =>
      (key, strip field.2)).reverse

def ruleRequiredLabels : List (String × String) :=
  [("task", "任务"), ("project", "项目"), ("role", "岗位"), ("location", "地点")]

/-- `BRACKETED_TASK_RULE_CONFIDENCE`, 0.82. -/
def bracketedTaskRuleConfidence : Double := Double.ofDecimal false 82 (-2)

def rulePayload (raw : List (String × String)) : Dict :=
  let value (key : String) : String := (raw.lookup key).getD ""
  Dict.ofList
    (textKeys.map (fun key => (key, .str (value key))) ++
      (listFields.map (·.2)).map (fun key =>
        (key, .arr ((splitRuleList (value key)).map .str))) ++
      [("missing_fields", .arr ((ruleRequiredLabels.filter fun field =>
          strip (value field.1) = "").map fun field => .str field.2)),
        ("assumptions", .arr []), ("confidence", .float bracketedTaskRuleConfidence)])

def parseBracketedTaskFields (text : String) : Option Dict :=
  let raw := rawFields text
  if raw = [] then none else (validateTaskIntakeLlmOutput (.obj (rulePayload raw))).toOption

def mergeTextLists (lists : List (List String)) : List String :=
  (((lists.flatMap fun texts => (texts.map strip).filter (· ≠ ""))).foldl
    (fun merged item => if item ∈ merged then merged else merged ++ [item]) [])

def takeText (n : Nat) (text : String) : String := String.ofList (text.toList.take n)

/-- `replace(intake, ...)` with the fields that have been read. -/
def FeishuTaskIntake.withFields (intake : FeishuTaskIntake) (fields : Dict)
    (status : ParserStatus) (parserError : Option String) (source : String) : FeishuTaskIntake :=
  { intake with
    structuredFields := fields
    parserStatus := status
    parserError := parserError
    fieldSources := intake.fieldSources ++ [Dict.ofList
      [("field", .str "structured_fields"), ("source", .str source),
        ("confidence", fields.get "confidence")]]
    missingFields := mergeTextLists [intake.missingFields, textList (fields.get "missing_fields")]
    assumptions := mergeTextLists [intake.assumptions, textList (fields.get "assumptions")] }

def parseTaskIntakeWithRules (intake : FeishuTaskIntake) (parserError : Option String) :
    Option FeishuTaskIntake :=
  (parseBracketedTaskFields intake.requestText).map fun fields =>
    let error := nonemptyText parserError
    intake.withFields fields
      (if error.isSome then .ruleParsedAfterLlmFailed else .ruleParsed)
      (error.map (takeText 300)) "rule.bracketed_task_fields"

def jsonOutputErrorMarkers : List String :=
  ["JSON content", "not valid JSON", "must be a JSON object", "structured JSON text"]

/-- What a parse raises: an `LLMGatewayError`, an exception of the transport, one of another
class, or the error of the schema. -/
inductive ParseError
  | gateway (message : String)
  | transport (name message : String)
  | other (name message : String)
  | schema (message : String)
deriving DecidableEq

/-- One call of `generate_structured`. -/
abbrev LlmAnswer := Except ParseError Json

/-- The rules, or the error that called for them. -/
def rulesOr (intake : FeishuTaskIntake) (message : String) (exc : ParseError) :
    Except ParseError FeishuTaskIntake :=
  match parseTaskIntakeWithRules intake (some message) with
  | some parsed => .ok parsed
  | none => .error exc

/-- The loop over the attempts; `lastSchemaError` is that of the attempt before. -/
def parseAttempts (intake : FeishuTaskIntake) (lastSchemaError : Option String) :
    List LlmAnswer → Except ParseError FeishuTaskIntake
  | [] =>
    match lastSchemaError with
    | some message => rulesOr intake message (.schema message)
    | none => .error (.schema "LLM task intake output is invalid")
  | .error (.gateway message) :: _ =>
    if containsAny message jsonOutputErrorMarkers then rulesOr intake message (.gateway message)
    else .error (.gateway message)
  | .error exc :: _ => .error exc
  | .ok answer :: rest =>
    match validateTaskIntakeLlmOutput answer with
    | .ok fields => .ok (intake.withFields fields .llmParsed none "llm.FeishuTaskIntakeParser")
    | .error (.schema message) => parseAttempts intake (some message) rest
    | .error .overflow => .error (.other "OverflowError" "int too large to convert to float")

/-- `parse_task_intake_with_llm` with the answers of its two attempts. -/
def parseTaskIntakeWithLlm (intake : FeishuTaskIntake) (first second : LlmAnswer) :
    Except ParseError FeishuTaskIntake :=
  parseAttempts intake none [first, second]

/-- `create_task_plan`; an empty text is a `ValidationError`. -/
def FeishuTaskIntake.createTaskPlan (intake : FeishuTaskIntake) (fresh : FreshPlan) :
    Option TaskPlan :=
  if h : intake.canonicalRequestText ≠ "" then
    some { Policy.createTaskPlan fresh
      { requestText := intake.canonicalRequestText
        source := "feishu"
        threadId := some intake.threadId
        nonempty := h } with taskId := intake.taskId }
  else none

def textArray (texts : List String) : Json := .arr (texts.map .str)

def buildGraphDispatchPayload (intake : FeishuTaskIntake) (plan : TaskPlan) (modelProfileId : UUID)
    (embeddingProfileId : Option UUID) : Dict := Dict.ofList
  [("thread_id", .str plan.threadId.str), ("task_id", .str plan.taskId.str),
    ("source", .str "feishu"), ("source_ref", .str intake.sourceRef),
    ("user_input", .str plan.requestText), ("task_type", .str plan.taskType),
    ("council_mode", .str plan.councilMode.value), ("mode_reason", .str plan.modeReason),
    ("required_agents", textArray plan.requiredAgents),
    ("optional_agents", textArray plan.optionalAgents),
    ("user_forced_full_council", .bool plan.userForcedFullCouncil),
    ("model_profile_id", .str modelProfileId.str),
    ("model_owner_user_id", optionalText intake.modelOwnerUserId),
    ("model_owner_id_type", optionalText intake.modelOwnerIdType),
    ("model_guild_id", .str intake.modelGuildId), ("model_tenant_id", optionalText intake.tenantKey),
    ("embedding_profile_id", optionalText (embeddingProfileId.map UUID.str)),
    ("authorization", .obj (Dict.ofList
      [("status", .str "pending_feishu_double_check"), ("source", .str "feishu_card")])),
    ("task_intake", .obj (Dict.ofList
      [("field_sources", .arr (intake.fieldSources.map .obj)),
        ("missing_fields", textArray intake.missingFields),
        ("assumptions", textArray intake.assumptions),
        ("structured_fields", .obj intake.structuredFields),
        ("parser_status", .str intake.parserStatus.value),
        ("parser_error", optionalText intake.parserError),
        ("raw_request_text", .str intake.requestText),
        ("message_id", optionalText intake.messageId)]))]

def confirmableTaskParseStatuses : List ParserStatus :=
  [.llmParsed, .ruleParsed, .ruleParsedAfterLlmFailed]

def ParsedFrom (intake parsed : FeishuTaskIntake) : Prop :=
  ∃ fields status parserError source, status ∈ confirmableTaskParseStatuses ∧
    parsed = intake.withFields fields status parserError source

theorem parsedFrom_of_rules {intake parsed : FeishuTaskIntake} {parserError : Option String}
    (h : parseTaskIntakeWithRules intake parserError = some parsed) : ParsedFrom intake parsed := by
  obtain ⟨fields, _, rfl⟩ := Option.map_eq_some_iff.mp h
  refine ⟨fields, _, _, _, ?_, rfl⟩
  split_ifs <;> simp [confirmableTaskParseStatuses]

theorem parsedFrom_of_rulesOr {intake parsed : FeishuTaskIntake} {message : String}
    {exc : ParseError} (h : rulesOr intake message exc = .ok parsed) : ParsedFrom intake parsed := by
  unfold rulesOr at h
  cases hrules : parseTaskIntakeWithRules intake (some message) with
  | none => simp [hrules] at h
  | some read =>
    simp only [hrules, Except.ok.injEq] at h
    exact h ▸ parsedFrom_of_rules hrules

theorem parsedFrom_of_attempts {intake parsed : FeishuTaskIntake} {lastSchemaError : Option String}
    {answers : List LlmAnswer} (h : parseAttempts intake lastSchemaError answers = .ok parsed) :
    ParsedFrom intake parsed := by
  induction answers generalizing lastSchemaError with
  | nil =>
    cases lastSchemaError with
    | none => simp [parseAttempts] at h
    | some message => exact parsedFrom_of_rulesOr h
  | cons answer rest ih =>
    cases answer with
    | error exc =>
      cases exc with
      | gateway message =>
        simp only [parseAttempts] at h
        split_ifs at h
        exact parsedFrom_of_rulesOr h
      | _ => simp [parseAttempts] at h
    | ok answer =>
      simp only [parseAttempts] at h
      cases hvalid : validateTaskIntakeLlmOutput answer with
      | ok fields =>
        simp only [hvalid, Except.ok.injEq] at h
        exact ⟨fields, .llmParsed, none, "llm.FeishuTaskIntakeParser",
          by simp [confirmableTaskParseStatuses], h.symm⟩
      | error exc =>
        cases exc with
        | schema message =>
          simp only [hvalid] at h
          exact ih h
        | overflow => simp [hvalid] at h

end Headhunt.Feishu
