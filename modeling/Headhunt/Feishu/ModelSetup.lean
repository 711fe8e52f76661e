import Headhunt.Feishu.Service
import Headhunt.Feishu.TaskPreparation
import Headhunt.Gateways.UrlSafety
import Headhunt.Lib.PyJsonSize

/-! The click on a model setup card: `parse_model_profile_setup_command` and
`_enqueue_model_profile_setup`. -/
namespace Headhunt.Feishu
open Headhunt.Core Headhunt.Gateways Headhunt.ModelProfiles Headhunt.Storage Py

inductive IdentityType
  | openId
  | userId
  | unionId
deriving DecidableEq, Repr

def IdentityType.value : IdentityType → String
  | .openId => "open_id"
  | .userId => "user_id"
  | .unionId => "union_id"

def IdentityType.ofString? (s : String) : Option IdentityType :=
  [IdentityType.openId, .userId, .unionId].find? fun idType => idType.value = s

structure FeishuModelProfileSetupCommand where
  eventId : String
  threadId : UUID
  sourceRef : String
  eventPayloadRef : String
  chatId : String
  modelOwnerUserId : String
  modelOwnerIdType : IdentityType
  provider : ModelProvider
  modelName : String
  apiKey : String
  displayName : Option String
  baseUrl : Option String
  usage : ModelUsage
  makeDefault : Bool
  idempotencyKey : String
  openMessageId : Option String
  openChatId : Option String
  cardUpdateTokenRef : String
  operatorOpenId : Option String
  operatorUserId : Option String
  operatorUnionId : Option String
deriving DecidableEq

def modelSetupKey (sourceRef : String) : String := s!"model_setup:{sourceRef}"

def modelSetupValue (threadId : UUID) (sourceRef eventPayloadRef chatId : String)
    (userId userIdType : Option String) (provider : ModelProvider) : Dict := Dict.ofList
  [("action_kind", .str "model_profile_setup"), ("thread_id", .str threadId.str),
    ("source_ref", .str sourceRef), ("event_payload_ref", .str eventPayloadRef),
    ("chat_id", .str chatId), ("model_owner_user_id", .str (userId.getD "")),
    ("model_owner_id_type", .str (userIdType.getD "")), ("usage", .str "chat"),
    ("idempotency_key", .str (modelSetupKey sourceRef)), ("make_default", .bool true),
    ("provider", .str provider.value)]

def formSubmitButton (label buttonType : String) (value : Dict) (name : String) : Dict :=
  (((button label buttonType value).set "name" (.str name)).set "action_type"
    (.str "form_submit")).set "form_action_type" (.str "submit")

/-- `_input`. -/
def formInput (name label placeholder : String) (required : Bool) (inputType : Option String) :
    Dict :=
  let item := Dict.ofList
    [("tag", .str "input"), ("name", .str name), ("label", plainText label),
      ("required", .bool required)]
  let item := match inputType with
    | some inputType => item.set "input_type" (.str inputType)
    | none => item
  item.set "placeholder" (plainText placeholder)

def setupInputs : List Dict :=
  [formInput "display_name" "显示名称（可选）" "例如 我的 OpenAI" false none,
    formInput "model_name" "模型名称（不填则用默认）"
      "OpenAI: gpt-4.1-mini / DeepSeek: deepseek-v4-pro" false none,
    formInput "api_key" "API Key" "sk-..." true (some "password"),
    formInput "base_url" "Base URL（可选）"
      "OpenAI: https://api.openai.com / DeepSeek: https://api.deepseek.com" false none]

def buildModelSetupRequiredCard (threadId : UUID)
    (sourceRef eventPayloadRef requestText chatId : String) (userId userIdType : Option String) :
    Dict :=
  let value := modelSetupValue threadId sourceRef eventPayloadRef chatId userId userIdType
  baseCard "请先配置模型" "orange" (cardText
    [cardSection "thread_id" threadId.str, cardSection "chat_id" chatId,
      cardSection "user_id" (textOr (userId.getD "") "unknown"),
      cardSection "收到的任务" (textOr requestText "未解析到文本"),
      "当前飞书用户没有默认 chat 模型 profile，系统已阻断正式 graph。" ++
        "请在下方填写 API Key 后保存，系统会加密存储，并在后台解析任务后发送确认卡。"])
    [.obj (Dict.ofList
      [("tag", .str "form"), ("name", .str "model_profile_setup"),
        ("elements", .arr (setupInputs.map .obj ++
          [.obj (formSubmitButton "保存 OpenAI" "primary" (value .openai)
              "model_profile_setup_openai_submit"),
            .obj (formSubmitButton "保存 DeepSeek" "default" (value .deepseek)
              "model_profile_setup_deepseek_submit")]))])]

def coerceOptionalMapping : Json → Except FeishuCallbackError Dict
  | .obj value => .ok value
  | .str text =>
    match loads text with
    | .ok (.obj parsed) => .ok parsed
    | .error .value => .error (.uncaught "ValueError")
    | _ => .ok []
  | _ => .ok []

/-- A candidate, with the form value in it laid over it. -/
def formValueOf (candidate : Json) : Except FeishuCallbackError Dict := do
  let formValue ← coerceOptionalMapping candidate
  let nested ← coerceOptionalMapping (formValue.get "form_value")
  .ok (formValue.merge nested)

def mergeFormValue (merged formValue : Dict) : Dict :=
  formValue.foldl (fun merged item => merged.setdefault item.1 item.2) merged

def mergeFormValues (candidates : List Json) : Except FeishuCallbackError Dict :=
  candidates.foldlM (fun merged candidate => (formValueOf candidate).map (mergeFormValue merged)) []

def formCandidates (event action : Dict) : List Json :=
  [action.get "form_value", action.get "form_values", action.get "input_value",
    action.get "value", event.get "form_value"]

def extractCardFormValues (payload : Dict) : Except FeishuCallbackError Dict :=
  let event := payloadEvent payload
  match event.get "action" with
  | .obj action => mergeFormValues (formCandidates event action)
  | _ => .ok []

def strippedText (s : String) : Option String := nonemptyText (some (strip s))

def formValueStr (formValues : Dict) (name : String) : Option String :=
  match formValues.get name with
  | .str s => strippedText s
  | .obj value => ["value", "text", "content"].findSome? fun key =>
    (Dict.get value key).asStr.bind strippedText
  | _ => none

def setupProvider (provider : String) : Except FeishuCallbackError ModelProvider :=
  if lower provider = "openai" then .ok .openai
  else if lower provider = "deepseek" then .ok .deepseek
  else .error (.payload "Feishu model setup provider is invalid")

/-- `str(usage or "chat").lower()`; only a text can be `chat`. -/
def setupUsage (usage : Json) : Except FeishuCallbackError ModelUsage :=
  match usage.orElse (.str "chat") with
  | .str s =>
    if lower s = "chat" then .ok .chat
    else .error (.payload "Feishu model setup currently supports chat profiles")
  | _ => .error (.payload "Feishu model setup currently supports chat profiles")

def setupApiKey (formValues : Dict) : Except FeishuCallbackError String :=
  match formValueStr formValues "api_key" with
  | some apiKey => .ok apiKey
  | none => .error (.payload "Feishu model setup requires api_key")

def defaultModel : ModelProvider → String
  | .deepseek => "deepseek-v4-pro"
  | .openai => "gpt-4.1-mini"

def optionalBool (value : Json) (default : Bool) : Except FeishuCallbackError Bool :=
  match value with
  | .null => .ok default
  | .bool b => .ok b
  | .str s =>
    let normalized := lower (strip s)
    if normalized ∈ ["true", "1", "yes", "y"] then .ok true
    else if normalized ∈ ["false", "0", "no", "n"] then .ok false
    else .error (.payload "Feishu model setup make_default is invalid")
  | _ => .error (.payload "Feishu model setup make_default is invalid")

/-- `_identity_type_str(value) or "open_id"`. -/
def setupOwnerIdType : Json → Except FeishuCallbackError IdentityType
  | .str s =>
    match IdentityType.ofString? (lower (strip s)) with
    | some idType => .ok idType
    | none => .error (.payload "Feishu model setup owner id type is invalid")
  | _ => .ok .openId

section Parse

variable (lib : UrlLibrary)

/-- No host is resolved here, so no resolver is asked. -/
def safeOptionalBaseUrl : Option String → Except FeishuCallbackError (Option String)
  | none => .ok none
  | some baseUrl =>
    match validateHttpsBaseUrl lib baseUrl [] false (fun _ => .ok []) with
    | .ok url => .ok (some url)
    | .error (.baseUrlSafety message) => .error (.payload s!"Feishu model setup {message}")
    | .error (.value _) => .error (.uncaught "ValueError")

def parseModelProfileSetupCommand (callback : VerifiedFeishuCallback) (payloadRef : String) :
    Except FeishuCallbackError FeishuModelProfileSetupCommand :=
  if callback.eventType ≠ "card.action.trigger" then
    .error (.payload "Feishu callback is not card.action.trigger")
  else do
    let event := payloadEvent callback.payload
    let value ← extractCardActionValue callback.payload
    if value.get "action_kind" ≠ .str "model_profile_setup" then
      .error (.payload "Feishu card action is not model_profile_setup")
    let provider ← setupProvider (← requiredStr value "provider")
    let usage ← setupUsage (value.get "usage")
    let formValues ← extractCardFormValues callback.payload
    let apiKey ← setupApiKey formValues
    let modelName := (formValueStr formValues "model_name").getD (defaultModel provider)
    let baseUrl ← safeOptionalBaseUrl lib (formValueStr formValues "base_url")
    let modelOwnerIdType ← setupOwnerIdType (value.get "model_owner_id_type")
    let context := (event.get "context").asDict
    let operator := (event.get "operator").asDict
    let idempotencyKey ← requiredStr value "idempotency_key"
    let threadId ← requiredUuid value "thread_id"
    let sourceRef ← requiredStr value "source_ref"
    let eventPayloadRef ← requiredStr value "event_payload_ref"
    let chatId ← requiredStr value "chat_id"
    let modelOwnerUserId ← requiredStr value "model_owner_user_id"
    let makeDefault ← optionalBool (value.get "make_default") true
    .ok
      { eventId := callback.eventId.getD s!"model-setup:{idempotencyKey}"
        threadId := threadId
        sourceRef := sourceRef
        eventPayloadRef := eventPayloadRef
        chatId := chatId
        modelOwnerUserId := modelOwnerUserId
        modelOwnerIdType := modelOwnerIdType
        provider := provider
        modelName := modelName
        apiKey := apiKey
        displayName := formValueStr formValues "display_name"
        baseUrl := baseUrl
        usage := usage
        makeDefault := makeDefault
        idempotencyKey := idempotencyKey
        openMessageId := firstStr [context.get "open_message_id"]
        openChatId := firstStr [context.get "open_chat_id"]
        cardUpdateTokenRef := payloadRef
        operatorOpenId := firstStr [operator.get "open_id"]
        operatorUserId := firstStr [operator.get "user_id"]
        operatorUnionId := firstStr [operator.get "union_id"] }

end Parse

namespace FeishuModelProfileSetupCommand

variable (command : FeishuModelProfileSetupCommand)

def operatorId : IdentityType → Option String
  | .openId => command.operatorOpenId
  | .userId => command.operatorUserId
  | .unionId => command.operatorUnionId

def operatorMatchesModelOwner : Bool :=
  command.operatorId command.modelOwnerIdType = some command.modelOwnerUserId

/-- The `CreateModelProfileRequest` of the setup, when it passes its schema. -/
def request? : Option CreateModelProfileRequest :=
  if h : (1 ≤ command.modelName.length ∧ command.modelName.length ≤ 200) ∧
      (∀ name ∈ command.displayName, name.length ≤ 120) ∧
      ∀ url ∈ command.baseUrl, url.length ≤ 500 then
    some
      { provider := command.provider
        modelName := command.modelName
        displayName := command.displayName
        baseUrl := command.baseUrl
        usage := .chat
        makeDefault := command.makeDefault
        modelName_length := h.1
        displayName_length := h.2.1
        baseUrl_length := h.2.2 }
  else none

end FeishuModelProfileSetupCommand

def secretKeys : List String := ["api_key", "apikey", "secret", "token"]

def redactedText : String := "***redacted***"

def stringMayContainSecret (value : String) : Bool :=
  contains (lower value) "api_key" || contains (lower value) "apikey" || contains value "sk-"

section Redaction

variable (redactText : String → Option String)

mutual

/-- `_redact_secret_keys` on a copy, with the redaction of a text that may contain a secret;
`none` is a `ValueError`. A text that is no value of a dict stays. -/
def redactSecretKeys : Json → Option Json
  | .obj items => (redactItems items).map .obj
  | .arr elems => (redactElems elems).map .arr
  | .str s => some (.str s)
  | .null => some .null
  | .bool b => some (.bool b)
  | .int n => some (.int n)
  | .float x => some (.float x)

def redactValue (key : String) : Json → Option Json
  | .str s =>
    if lower key ∈ secretKeys then some (.str redactedText)
    else if stringMayContainSecret s then (redactText s).map .str
    else some (.str s)
  | .obj items =>
    if lower key ∈ secretKeys then some (.str redactedText) else (redactItems items).map .obj
  | .arr elems =>
    if lower key ∈ secretKeys then some (.str redactedText) else (redactElems elems).map .arr
  | item => if lower key ∈ secretKeys then some (.str redactedText) else some item

def redactElems : List Json → Option (List Json)
  | [] => some []
  | elem :: elems => do
    let elem ← redactSecretKeys elem
    let elems ← redactElems elems
    some (elem :: elems)

def redactItems : Dict → Option Dict
  | [] => some []
  | (key, item) :: items => do
    let item ← redactValue key item
    let items ← redactItems items
    some ((key, item) :: items)

end

end Redaction

/-- `_redacted_secret_string`. The fuel counts the texts within texts, and each is shorter than
the one it stands in. -/
def redactedSecretString : Nat → String → Option String
  | 0, _ => none
  | fuel + 1, value =>
    match loads value with
    | .error .decode => some redactedText
    | .error .value => none
    | .ok (.obj items) => (redactItems (redactedSecretString fuel) items).map fun items =>
      dumps .compact (.obj items)
    | .ok (.arr elems) => (redactElems (redactedSecretString fuel) elems).map fun elems =>
      dumps .compact (.arr elems)
    | .ok _ => some redactedText

section Fuel

variable {n : Nat} {redact redact' : String → Option String}

mutual

theorem redactSecretKeys_congr (h : ∀ s : String, s.length < n → redact s = redact' s) :
    ∀ v : Json, v.Below n → redactSecretKeys redact v = redactSecretKeys redact' v
  | .obj items, hv => by
    rw [redactSecretKeys, redactSecretKeys, redactItems_congr h items hv]
  | .arr elems, hv => by
    rw [redactSecretKeys, redactSecretKeys, redactElems_congr h elems hv]
  | .str _, _ => rfl
  | .null, _ => rfl
  | .bool _, _ => rfl
  | .int _, _ => rfl
  | .float _, _ => rfl

theorem redactValue_congr (h : ∀ s : String, s.length < n → redact s = redact' s) (key : String) :
    ∀ v : Json, v.Below n → redactValue redact key v = redactValue redact' key v
  | .str s, hv => by rw [redactValue, redactValue, h s hv]
  | .obj items, hv => by rw [redactValue, redactValue, redactItems_congr h items hv]
  | .arr elems, hv => by rw [redactValue, redactValue, redactElems_congr h elems hv]
  | .null, _ => rfl
  | .bool _, _ => rfl
  | .int _, _ => rfl
  | .float _, _ => rfl

theorem redactElems_congr (h : ∀ s : String, s.length < n → redact s = redact' s) :
    ∀ elems : List Json, BelowElems n elems → redactElems redact elems = redactElems redact' elems
  | [], _ => rfl
  | v :: vs, ⟨hv, hvs⟩ => by
    rw [redactElems, redactElems, redactSecretKeys_congr h v hv, redactElems_congr h vs hvs]

theorem redactItems_congr (h : ∀ s : String, s.length < n → redact s = redact' s) :
    ∀ items : Dict, BelowItems n items → redactItems redact items = redactItems redact' items
  | [], _ => rfl
  | (key, v) :: items, ⟨hv, hitems⟩ => by
    rw [redactItems, redactItems, redactValue_congr h key v hv, redactItems_congr h items hitems]

end

/-- More fuel than the text is long changes nothing. -/
theorem redactedSecretString_fuel {fuel fuel' : Nat} {value : String} (h : value.length < fuel)
    (h' : value.length < fuel') :
    redactedSecretString fuel value = redactedSecretString fuel' value := by
  induction fuel generalizing fuel' value with
  | zero => omega
  | succ fuel ih =>
    cases fuel' with
    | zero => omega
    | succ fuel' =>
      have hshorter : ∀ s : String, s.length < value.length →
          redactedSecretString fuel s = redactedSecretString fuel' s :=
        fun s hs => ih (by omega) (by omega)
      unfold redactedSecretString
      cases hloads : loads value with
      | error exc =>
        cases exc with
        | decode => rfl
        | value => rfl
      | ok v =>
        have hbelow := below_of_loads hloads
        cases v with
        | obj items =>
          dsimp only
          rw [redactItems_congr hshorter items hbelow]
        | arr elems =>
          dsimp only
          rw [redactElems_congr hshorter elems hbelow]
        | null => rfl
        | bool b => rfl
        | int n => rfl
        | float x => rfl
        | str s => rfl

end Fuel

def redactModelSetupPayload (payload : Dict) : Option Dict :=
  redactItems (fun value => redactedSecretString (value.length + 1) value) payload

inductive ModelSetupStatus
  | duplicate
  | modelSetupFailed
  | modelSetupSaved
deriving DecidableEq, Repr

structure ModelSetupResult where
  status : ModelSetupStatus
  idempotencyKey : String
  payloadRef : String
  message : Option String
deriving DecidableEq

inductive SetupError
  | duplicateCardAction
  | raised (name message : String)
  | integrity
deriving DecidableEq

/-- What an execution draws, and the texts of the exceptions of the libraries. -/
structure SetupRun where
  profileId : UUID
  /-- What `encrypt_api_key` makes of the key and of the nonce it draws. -/
  encryptedApiKey : String
  prepareRow : RowDefaults
  cardRow : RowDefaults
  integrityText : String
  validationText : String

/-- `str(exc) or exc.__class__.__name__`. -/
def SetupError.text (run : SetupRun) : SetupError → String
  | .duplicateCardAction => "DuplicateCardActionError"
  | .raised name message => textOr message name
  | .integrity => textOr run.integrityText "IntegrityError"

def safeModelSetupError (text : String) : String :=
  if contains text "sk-" || contains (lower text) "api_key" || contains (lower text) "secret" then
    "模型配置失败：API Key 未保存或验证失败。"
  else "模型配置失败：" ++ takeText 240 text

def storageSetupError : StorageError → SetupError
  | .integrity _ => .integrity
  | exc => .raised (storagePrepareError exc).name (storagePrepareError exc).message

def intakeSetupError (exc : IntakeError) : SetupError :=
  .raised (intakePrepareError exc).name (intakePrepareError exc).message

def payloadSetupError (message : String) : SetupError :=
  .raised "FeishuCallbackPayloadError" message

structure SetupDatabase extends Database where
  profiles : ProfileTable := []
deriving DecidableEq

/-- `_validate_model_setup_intake`; the error is the text of a `FeishuCallbackPayloadError`. -/
def validateModelSetupIntake (intake : FeishuTaskIntake)
    (command : FeishuModelProfileSetupCommand) : Except String Unit :=
  if intake.sourceRef ≠ command.sourceRef then
    .error "model setup source_ref does not match original task"
  else if intake.chatId ≠ command.chatId then
    .error "model setup chat_id does not match original task"
  else if intake.threadId ≠ command.threadId then
    .error "model setup thread_id does not match original task"
  else if intake.modelOwnerUserId ≠ some command.modelOwnerUserId then
    .error "model setup owner does not match original task"
  else if intake.modelOwnerIdType ≠ some command.modelOwnerIdType.value then
    .error "model setup owner id type does not match original task"
  else .ok ()

def buildTaskConfirmationPreparePayload (chatId eventPayloadRef : String) (modelProfileId : UUID)
    (intake : FeishuTaskIntake) : Dict := Dict.ofList
  [("chat_id", .str chatId), ("event_payload_ref", .str eventPayloadRef),
    ("model_profile_id", .str modelProfileId.str), ("source_ref", .str intake.sourceRef),
    ("tenant_key", optionalText intake.tenantKey),
    ("model_owner_user_id", optionalText intake.modelOwnerUserId),
    ("model_owner_id_type", optionalText intake.modelOwnerIdType),
    ("model_guild_id", .str intake.modelGuildId), ("thread_id", .str intake.threadId.str)]

def buildModelSetupSavedCard (threadId : UUID) (provider : ModelProvider) (modelName : String) :
    Dict :=
  baseCard "模型已保存" "green" (cardText
    [cardSection "thread_id" threadId.str,
      cardSection "模型" s!"{provider.value}:{modelName}",
      "API Key 已加密保存。正在解析任务并发送确认卡，请稍后在新卡片中确认后启动。"]) []

def setupActionRow (command : FeishuModelProfileSetupCommand) (profileId : UUID)
    (payloadRef : String) : FeishuCardAction where
  eventId := command.eventId
  threadId := command.threadId
  actionId := profileId
  interruptId := none
  idempotencyKey := command.idempotencyKey
  openMessageId := command.openMessageId
  openChatId := command.openChatId
  cardUpdateTokenRef := command.cardUpdateTokenRef
  operatorOpenId := command.operatorOpenId
  decision := .approve
  editedPayloadRef := some payloadRef
  status := .received

def prepareAfterSetupKey (idempotencyKey : String) : String :=
  s!"task_confirmation_prepare_after_model_setup:{idempotencyKey}"

def setupCardSavedKey (idempotencyKey : String) : String :=
  s!"model_setup_card_saved:{idempotencyKey}"

def setupIsDuplicate (idempotencyKey : String) (db : Database) : Bool :=
  (Table.find FeishuCardAction.idempotencyKey idempotencyKey db.cardActions).isSome

section Transaction

variable (crypto : Crypto) (run : SetupRun) (callback : VerifiedFeishuCallback)
  (command : FeishuModelProfileSetupCommand)

def storeRedactedPayload (db : Database) : Except SetupError Database :=
  match redactModelSetupPayload callback.payload with
  | none => .error (.raised "ValueError" "Exceeds the limit for integer string conversion")
  | some redacted =>
    let redactedRaw := dumps .compact (.obj redacted)
    (storeJsonPayload (buildPayloadRef callback) redacted redactedRaw
      (sha256Hex crypto redactedRaw) db).mapError storageSetupError

def originalIntake (db : Database) : Except SetupError FeishuTaskIntake := do
  let originalPayload ← (getJsonPayload command.eventPayloadRef db).mapError storageSetupError
  let intake ← (parseTaskIntake crypto originalPayload callback.tenantKey).mapError intakeSetupError
  (validateModelSetupIntake intake command).mapError payloadSetupError
  .ok intake

/-- `ModelProfileService.create_profile` without its commit. -/
def createSetupProfile (profiles : ProfileTable) : Except SetupError ProfileTable :=
  match command.request? with
  | none => .error (.raised "ValidationError" run.validationText)
  | some request =>
    (profiles.createProfile run.profileId callback.tenantKey command.chatId
      command.modelOwnerUserId request run.encryptedApiKey).mapError fun _ => .integrity

def recordSetup (db : Database) : Except SetupError Database :=
  (db.insertCardAction (setupActionRow command run.profileId (buildPayloadRef callback))).mapError
    fun exc => if exc = .integrity true then .duplicateCardAction else storageSetupError exc

def setupPreparePayload (intake : FeishuTaskIntake) : Dict :=
  buildTaskConfirmationPreparePayload command.chatId command.eventPayloadRef run.profileId intake

def savedCardUpdate (openMessageId : String) : Dict := Dict.ofList
  [("open_message_id", .str openMessageId),
    ("card", .obj (buildModelSetupSavedCard command.threadId command.provider command.modelName))]

/-- The item that has the task prepared. -/
def queuePreparation (intake : FeishuTaskIntake) (db : Database) : Except SetupError Database :=
  let payload := setupPreparePayload run command intake
  let ref := taskConfirmationPrepareRef crypto intake.sourceRef run.profileId
  let statements := do
    let db ← storeJsonPayload ref payload (dumps .compact (.obj payload))
      (stableHash crypto payload) db
    let stored ← getJsonPayload ref db
    enqueueJson crypto run.prepareRow .taskConfirmationPrepare
      (prepareAfterSetupKey command.idempotencyKey) stored (some command.threadId) (some ref) db
  (statements.map Prod.snd).mapError storageSetupError

def queueSavedCard (db : Database) : Except SetupError Database :=
  match command.openMessageId with
  | none => .ok db
  | some openMessageId =>
    ((enqueueJson crypto run.cardRow .cardUpdate (setupCardSavedKey command.idempotencyKey)
      (savedCardUpdate command openMessageId) (some command.threadId) none db).map
        Prod.snd).mapError storageSetupError

/-- The transaction; a click that is known writes nothing. -/
def setupModelProfile (db : SetupDatabase) : Except SetupError SetupDatabase :=
  if setupIsDuplicate command.idempotencyKey db.toDatabase then .error .duplicateCardAction
  else do
    let stored ← storeRedactedPayload crypto callback db.toDatabase
    let intake ← originalIntake crypto callback command stored
    let profiles ← createSetupProfile run callback command db.profiles
    let recorded ← recordSetup run callback command stored
    let queued ← queuePreparation crypto run command intake recorded
    let answered ← queueSavedCard crypto run command queued
    .ok { answered with profiles := profiles }

def setupResult (db : SetupDatabase) :
    Except SetupError SetupDatabase → ModelSetupResult × SetupDatabase
  | .ok db => (⟨.modelSetupSaved, command.idempotencyKey, buildPayloadRef callback,
      some "模型已保存，正在解析任务，确认卡稍后发送。"⟩, db)
  | .error .duplicateCardAction =>
    (⟨.duplicate, command.idempotencyKey, buildPayloadRef callback, none⟩, db)
  | .error exc =>
    (⟨.modelSetupFailed, command.idempotencyKey, buildPayloadRef callback,
      some (safeModelSetupError (exc.text run))⟩, db)

end Transaction

/-- What leaves the service: a callback error, or the `ModelSecretError` of a blank key. -/
inductive SetupServiceError
  | callback (exc : FeishuCallbackError)
  | modelSecret (message : String)
deriving DecidableEq

section Service

variable (crypto : Crypto) (lib : UrlLibrary) (settings : Settings) (run : SetupRun)
  (callback : VerifiedFeishuCallback)

def setupRefused (command : FeishuModelProfileSetupCommand) (message : String) :
    ModelSetupResult :=
  ⟨.modelSetupFailed, command.idempotencyKey, buildPayloadRef callback, some message⟩

def enqueueModelProfileSetup (db : SetupDatabase) :
    Except SetupServiceError (ModelSetupResult × SetupDatabase) :=
  match parseModelProfileSetupCommand lib callback (buildPayloadRef callback) with
  | .error exc => .error (.callback exc)
  | .ok command =>
    if command.operatorMatchesModelOwner = false then
      .ok (setupRefused callback command "只能由原任务发起人配置该任务的模型。", db)
    else
      match settings.modelSecretEncryptionKey with
      | none => .ok (setupRefused callback command
          (safeModelSetupError "MODEL_SECRET_ENCRYPTION_KEY is required"), db)
      | some encryptionKey =>
        if strip encryptionKey = "" then
          .error (.modelSecret "MODEL_SECRET_ENCRYPTION_KEY is required")
        else .ok (setupResult run callback command db
          (setupModelProfile crypto run callback command db))

end Service
end Headhunt.Feishu
