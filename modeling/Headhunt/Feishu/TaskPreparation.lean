import Headhunt.Feishu.OutboxHandlers
import Headhunt.Feishu.TaskCards
import Headhunt.ModelProfiles.GatewayFactory
import Headhunt.Storage.Transactions

/-! `FeishuTaskConfirmationPrepareHandler`: a task is read with the model of its owner and
answered with the confirmation card, or with the one that says why it could not be. -/
namespace Headhunt.Feishu
open Headhunt.Core Headhunt.ModelProfiles Headhunt.Policy Headhunt.Storage Py

/-- An exception of the preparation: one of the model calls, one of another class, or an
`IntegrityError`, after which the transaction takes no other statement. -/
inductive PrepareError
  | parse (exc : ParseError)
  | raised (name message : String)
  | integrity
deriving DecidableEq

def ParseError.name : ParseError → String
  | .gateway _ => "LLMGatewayError"
  | .transport name _ => name
  | .other name _ => name
  | .schema _ => "TaskIntakeSchemaError"

def ParseError.message : ParseError → String
  | .gateway message => message
  | .transport _ message => message
  | .other _ message => message
  | .schema message => message

def PrepareError.name : PrepareError → String
  | .parse exc => exc.name
  | .raised name _ => name
  | .integrity => "IntegrityError"

def PrepareError.message : PrepareError → String
  | .parse exc => exc.message
  | .raised _ message => message
  | .integrity => ""

def safeIntakeParseError (exc : PrepareError) : String :=
  let text := if exc.message = "" then exc.name else exc.message
  let lowered := lower text
  if contains text "sk-" || contains lowered "api_key" || contains lowered "secret" then
    exc.name ++ ": model credential rejected or unavailable"
  else exc.name ++ ": " ++ takeText 240 text

/-- What follows the first `marker`. -/
def afterMarker (marker : List Char) : List Char → Option (List Char)
  | [] => none
  | c :: cs =>
    if marker.isPrefixOf (c :: cs) then some ((c :: cs).drop marker.length)
    else afterMarker marker cs

def httpStatusFromError (text : String) : Option Nat :=
  match (afterMarker "HTTP ".toList text.toList).map (List.takeWhile isDigit) with
  | none | some [] => none
  | some digits => some (digits.foldl (fun n c => 10 * n + (c.toNat - '0'.toNat)) 0)

def isRetryableTaskPrepareError : PrepareError → Bool
  | .parse (.transport _ _) => true
  | .parse (.gateway message) =>
    (httpStatusFromError message).any fun status =>
      status ∈ [408, 409, 425, 429] || 500 ≤ status && status ≤ 599
  | _ => false

def taskConfirmationPrepareRetrySeconds : Int := 120

def gatewayErrorName : GatewayError → String
  | .userModelGateway _ => "UserModelGatewayError"
  | .profile (.notFound _) => "ModelProfileNotFoundError"
  | .profile (.access _) => "ModelProfileAccessError"
  | .profile .integrity => "IntegrityError"
  | .modelSecret _ => "ModelSecretError"

def storagePrepareError : StorageError → PrepareError
  | .integrity _ => .integrity
  | .outboxPayloadConflict message => .raised "OutboxPayloadConflictError" message
  | .duplicateCardAction => .raised "DuplicateCardActionError" ""
  | .invalidHumanApproval message => .raised "InvalidHumanApprovalError" message
  | .bitableActionNotApproved message => .raised "BitableActionNotApprovedError" message
  | .keyError contentRef => .raised "KeyError" (reprText contentRef)

def intakePrepareError : IntakeError → PrepareError
  | .valueError message => .raised "ValueError" message
  | .attributeError typeName =>
    .raised "AttributeError" ("'" ++ typeName ++ "' object has no attribute 'get'")

def dispatchPrepareError (message : String) : PrepareError := .raised "OutboxDispatchError" message

/-- The fields of the payload without which nothing is caught. -/
structure PrepareItem where
  chatId : String
  eventPayloadRef : String
  sourceRef : String
  modelProfileId : UUID
  threadId : UUID
deriving DecidableEq

/-- `_required_uuid`. -/
def requiredPayloadUuid (payload : Dict) (key : String) : Except HandlerError UUID := do
  let value ← requiredPayloadStr payload key
  match UUID.parse value with
  | some id => .ok id
  | none => .error (.uncaught (UUID.errorText value))

def prepareItem (payload : Dict) : Except HandlerError PrepareItem := do
  let chatId ← requiredPayloadStr payload "chat_id"
  let eventPayloadRef ← requiredPayloadStr payload "event_payload_ref"
  let sourceRef ← requiredPayloadStr payload "source_ref"
  let modelProfileId ← requiredPayloadUuid payload "model_profile_id"
  let threadId ← requiredPayloadUuid payload "thread_id"
  .ok ⟨chatId, eventPayloadRef, sourceRef, modelProfileId, threadId⟩

def expectedPrepareFields (intake : FeishuTaskIntake) (modelProfileId : UUID) :
    List (String × Json) :=
  [("source_ref", .str intake.sourceRef), ("chat_id", .str intake.chatId),
    ("thread_id", .str intake.threadId.str), ("model_profile_id", .str modelProfileId.str),
    ("model_owner_user_id", optionalText intake.modelOwnerUserId),
    ("model_owner_id_type", optionalText intake.modelOwnerIdType),
    ("model_guild_id", .str intake.modelGuildId)]

def validatePreparePayload (intake : FeishuTaskIntake) (payload : Dict) (modelProfileId : UUID) :
    Except PrepareError Unit :=
  match (expectedPrepareFields intake modelProfileId).find? fun field =>
      payload.get field.1 ≠ field.2 with
  | some field => .error (dispatchPrepareError s!"task_confirmation_prepare {field.1} does not match")
  | none => .ok ()

/-- What one execution meets: the profiles, the two answers of the model, and what it draws. -/
structure PrepareRun where
  profiles : ProfileTable
  first : LlmAnswer
  second : LlmAnswer
  fresh : FreshPlan
  row : RowDefaults

section Prepare

variable (settings : Settings) (crypto : Crypto) (decryptGcm : DecryptGcm)

/-- `_parse_with_user_model`: the parsed task and the label of its model. -/
def parseWithUserModel (intake : FeishuTaskIntake) (modelProfileId : UUID) (run : PrepareRun) :
    Except PrepareError (FeishuTaskIntake × String) :=
  match settings.modelSecretEncryptionKey with
  | none =>
    .error (.raised "RuntimeError" "MODEL_SECRET_ENCRYPTION_KEY is required for task parsing")
  | some encryptionKey =>
    if !truthyText intake.modelOwnerUserId || intake.modelGuildId = "" then
      .error (.raised "RuntimeError" "missing BYOK owner scope")
    else do
      let gateway ← (do
        let secretService ← modelSecretService crypto decryptGcm encryptionKey
        UserModelGatewayFactory.buildChatGateway ⟨secretService, providerAllowlist settings⟩
          run.profiles
          ⟨modelProfileId, intake.tenantKey, some intake.modelGuildId, intake.modelOwnerUserId⟩
        ).mapError fun exc => .raised (gatewayErrorName exc) exc.message
      let parsed ← (parseTaskIntakeWithLlm intake run.first run.second).mapError .parse
      .ok (parsed, s!"{gateway.provider.value}:{gateway.model}")

/-- The `try` block up to the parsed task. It writes nothing. -/
def readTask (item : PrepareItem) (payload : Dict) (run : PrepareRun) (db : Database) :
    Except PrepareError (FeishuTaskIntake × String) := do
  let eventPayload ← (getJsonPayload item.eventPayloadRef db).mapError storagePrepareError
  let intake ← (parseTaskIntake crypto eventPayload (firstStr [payload.get "tenant_key"])).mapError
    intakePrepareError
  validatePreparePayload intake payload item.modelProfileId
  parseWithUserModel settings crypto decryptGcm intake item.modelProfileId run

def confirmablePlan (intake : FeishuTaskIntake) (fresh : FreshPlan) : Except PrepareError TaskPlan :=
  if intake.parserStatus ∉ confirmableTaskParseStatuses ∨ intake.structuredFields = [] then
    .error (dispatchPrepareError
      s!"task confirmation requires parsed structured fields: {intake.parserStatus.value}")
  else
    match intake.createTaskPlan fresh with
    | some plan => .ok plan
    | none => .error (.raised "ValidationError" "")

def taskConfirmationKey (sourceRef : String) (modelProfileId : UUID) : String :=
  s!"task_confirmation:{sourceRef}:{modelProfileId.str}"

def taskParseFailedKey (sourceRef : String) (modelProfileId : UUID) : String :=
  s!"task_parse_failed:{sourceRef}:{modelProfileId.str}"

def confirmationCardPayload (chatId : String) (intake : FeishuTaskIntake) (plan : TaskPlan) : Dict :=
  Dict.ofList
    [("chat_id", .str chatId), ("card", .obj (buildTaskConfirmationCard intake plan))]

def parseFailedCardPayload (item : PrepareItem) (modelLabel errorSummary : String) : Dict :=
  Dict.ofList
    [("chat_id", .str item.chatId),
      ("card", .obj (buildTaskParseFailedCard item.threadId item.sourceRef modelLabel errorSummary))]

def storeTaskPayload (item : PrepareItem) (intake : FeishuTaskIntake) (plan : TaskPlan)
    (db : Database) : Except StorageError Database :=
  let graphPayload := buildGraphDispatchPayload intake plan item.modelProfileId none
  storeJsonPayload (taskPayloadRef plan.threadId plan.taskId) graphPayload
    (dumps .compact (.obj graphPayload)) (stableHash crypto graphPayload) db

def enqueueCard (item : PrepareItem) (intake : FeishuTaskIntake) (plan : TaskPlan)
    (row : RowDefaults) (db : Database) : Except StorageError (String × Database) :=
  enqueueJson crypto row .cardSend (taskConfirmationKey intake.sourceRef item.modelProfileId)
    (confirmationCardPayload item.chatId intake plan) (some plan.threadId)
    (some (taskConfirmationCardRef plan.threadId plan.taskId)) db

def enqueueParseFailedCard (item : PrepareItem) (modelLabel errorSummary : String)
    (row : RowDefaults) (db : Database) : Except StorageError (String × Database) :=
  enqueueJson crypto row .cardSend (taskParseFailedKey item.sourceRef item.modelProfileId)
    (parseFailedCardPayload item modelLabel errorSummary) (some item.threadId)
    (some (taskParseFailedCardRef crypto item.sourceRef item.modelProfileId)) db

/-- `_enqueue_task_confirmation_card`, and the tables after it also where it raises: the
handler goes on in the same transaction. -/
def enqueueTaskConfirmationCard (item : PrepareItem) (intake : FeishuTaskIntake)
    (run : PrepareRun) (db : Database) : Except PrepareError Unit × Database :=
  match confirmablePlan intake run.fresh with
  | .error exc => (.error exc, db)
  | .ok plan =>
    match storeTaskPayload crypto item intake plan db with
    | .error exc => (.error (storagePrepareError exc), db)
    | .ok db =>
      match enqueueCard crypto item intake plan run.row db with
      | .error exc => (.error (storagePrepareError exc), db)
      | .ok (_, db) => (.ok (), db)

/-- The `except` clause: another try later, or the card that says why there is none. -/
def failPreparation (item : PrepareItem) (modelLabel : String) (exc : PrepareError)
    (run : PrepareRun) (db : Database) : Except HandlerError Database :=
  let safeError := safeIntakeParseError exc
  if isRetryableTaskPrepareError exc then
    .error (.dispatch ⟨safeError, some taskConfirmationPrepareRetrySeconds⟩)
  else if exc = .integrity then .error (.uncaught "InternalError")
  else
    match enqueueParseFailedCard crypto item modelLabel safeError run.row db with
    | .error exc => .error (.uncaught (storagePrepareError exc).message)
    | .ok (_, db) => .ok db

/-- `prepare_task_confirmation` after its required fields. -/
def prepareTask (item : PrepareItem) (payload : Dict) (run : PrepareRun) (db : Database) :
    Except HandlerError Database :=
  match readTask settings crypto decryptGcm item payload run db with
  | .error exc => failPreparation crypto item item.modelProfileId.str exc run db
  | .ok (intake, modelLabel) =>
    match enqueueTaskConfirmationCard crypto item intake run db with
    | (.ok (), db) => .ok db
    | (.error exc, db) => failPreparation crypto item modelLabel exc run db

def prepareTaskConfirmation (payload : Dict) (run : PrepareRun) (db : Database) :
    Except HandlerError Database := do
  let item ← prepareItem payload
  prepareTask settings crypto decryptGcm item payload run db

end Prepare

structure PayloadNames (payload : Dict) (item : PrepareItem) : Prop where
  chatId : payload.get "chat_id" = .str item.chatId
  eventPayloadRef : payload.get "event_payload_ref" = .str item.eventPayloadRef
  sourceRef : payload.get "source_ref" = .str item.sourceRef
  sourceRef_ne : item.sourceRef ≠ ""

theorem requiredPayloadStr_eq_ok {payload : Dict} {key value : String}
    (h : requiredPayloadStr payload key = .ok value) :
    payload.get key = .str value ∧ value ≠ "" := by
  unfold requiredPayloadStr at h
  split at h
  · rename_i text htext
    obtain rfl := Except.ok.inj h
    exact firstStr_singleton_eq_some.mp htext
  · cases h

theorem prepareItem_eq_ok {payload : Dict} {item : PrepareItem} (h : prepareItem payload = .ok item) :
    PayloadNames payload item := by
  simp only [prepareItem, Except.bind_eq_ok, Except.ok.injEq] at h
  obtain ⟨chatId, hchat, eventPayloadRef, href, sourceRef, hsource, _, _, _, _, rfl⟩ := h
  exact ⟨(requiredPayloadStr_eq_ok hchat).1, (requiredPayloadStr_eq_ok href).1,
    (requiredPayloadStr_eq_ok hsource).1, (requiredPayloadStr_eq_ok hsource).2⟩

theorem validatePreparePayload_eq_ok {intake : FeishuTaskIntake} {payload : Dict}
    {modelProfileId : UUID} (h : validatePreparePayload intake payload modelProfileId = .ok ()) :
    ∀ field ∈ expectedPrepareFields intake modelProfileId, payload.get field.1 = field.2 := by
  intro field hfield
  unfold validatePreparePayload at h
  split at h
  · cases h
  · rename_i hnone
    simpa using List.find?_eq_none.mp hnone field hfield

/-- What `parse_task_intake` makes of a message: its ids come from the source ref. -/
structure Identified (crypto : Crypto) (intake : FeishuTaskIntake) : Prop where
  threadId : intake.threadId = feishuThreadId crypto intake.sourceRef
  taskId : intake.taskId = feishuTaskId crypto intake.sourceRef

theorem identified_of_parse {crypto : Crypto} {payload : Dict} {tenantKey : Option String}
    {intake : FeishuTaskIntake} (h : parseTaskIntake crypto payload tenantKey = .ok intake) :
    Identified crypto intake := by
  unfold parseTaskIntake at h
  split at h
  · cases h
  · split at h
    · cases h
    · split at h
      · cases h
      · obtain ⟨text, _, h⟩ := Except.bind_eq_ok.mp h
        obtain rfl := Except.ok.inj h
        exact ⟨rfl, rfl⟩

/-- The plan of a parsed task has its ids and its text. -/
theorem confirmablePlan_eq_ok {parsed : FeishuTaskIntake} {fresh : FreshPlan} {plan : TaskPlan}
    (h : confirmablePlan parsed fresh = .ok plan) : parsed.createTaskPlan fresh = some plan ∧
      plan.threadId = parsed.threadId ∧ plan.taskId = parsed.taskId := by
  unfold confirmablePlan at h
  split_ifs at h
  split at h
  · rename_i made hmade
    obtain rfl := Except.ok.inj h
    refine ⟨hmade, ?_⟩
    unfold FeishuTaskIntake.createTaskPlan at hmade
    split_ifs at hmade
    obtain rfl := Option.some.inj hmade
    exact ⟨rfl, rfl⟩
  · cases h

theorem taskConfirmationKey_toList (sourceRef : String) (modelProfileId : UUID) :
    (taskConfirmationKey sourceRef modelProfileId).toList =
      "task_confirmation:".toList ++
        (sourceRef.toList ++ (":".toList ++ modelProfileId.str.toList)) := by
  unfold taskConfirmationKey
  simp only [ToString.toString, String.toList_append, List.append_assoc]

theorem taskParseFailedKey_toList (sourceRef : String) (modelProfileId : UUID) :
    (taskParseFailedKey sourceRef modelProfileId).toList =
      "task_parse_failed:".toList ++
        (sourceRef.toList ++ (":".toList ++ modelProfileId.str.toList)) := by
  unfold taskParseFailedKey
  simp only [ToString.toString, String.toList_append, List.append_assoc]

/-- The two keys of one item tell as much about it. -/
theorem taskConfirmationKey_eq_iff {a b : String} {p q : UUID} :
    taskConfirmationKey a p = taskConfirmationKey b q ↔
      taskParseFailedKey a p = taskParseFailedKey b q := by
  rw [← String.toList_inj, ← String.toList_inj, taskConfirmationKey_toList,
    taskConfirmationKey_toList, taskParseFailedKey_toList, taskParseFailedKey_toList,
    List.append_cancel_left_eq, List.append_cancel_left_eq]

/-- The text of a UUID has a fixed length, so the key names the task. -/
theorem sourceRef_of_taskConfirmationKey {a b : String} {p q : UUID}
    (h : taskConfirmationKey a p = taskConfirmationKey b q) : a = b := by
  have hlist := congrArg String.toList h
  rw [taskConfirmationKey_toList, taskConfirmationKey_toList] at hlist
  have hlength : (":".toList ++ p.str.toList).length = (":".toList ++ q.str.toList).length := by
    simp only [List.length_append, String.length_toList, UUID.length_str]
  exact String.toList_inj.mp (List.append_inj' (List.append_cancel_left hlist) hlength).1

section Read

variable {settings : Settings} {crypto : Crypto} {decryptGcm : DecryptGcm} {item : PrepareItem}
  {payload : Dict} {run : PrepareRun} {db db' : Database} {parsed : FeishuTaskIntake}
  {modelLabel : String}

theorem parseWithUserModel_eq_ok {intake : FeishuTaskIntake} {modelProfileId : UUID}
    (h : parseWithUserModel settings crypto decryptGcm intake modelProfileId run =
      .ok (parsed, modelLabel)) :
    truthyText intake.modelOwnerUserId = true ∧ intake.modelGuildId ≠ "" ∧
      ParsedFrom intake parsed := by
  unfold parseWithUserModel at h
  split at h
  · cases h
  · split_ifs at h with hscope
    simp only [Except.bind_eq_ok, Except.mapError_eq_ok, Except.ok.injEq, Prod.mk.injEq] at h
    obtain ⟨_, _, parsed', hparse, rfl, _⟩ := h
    simp only [Bool.or_eq_true, Bool.not_eq_true', decide_eq_true_eq, not_or,
      Bool.not_eq_false] at hscope
    exact ⟨hscope.1, hscope.2, parsedFrom_of_attempts hparse⟩

/-- A task that has been read: the one the item names, with a scope for its model. -/
structure TaskRead (crypto : Crypto) (item : PrepareItem) (parsed : FeishuTaskIntake) : Prop where
  identified : Identified crypto parsed
  sourceRef : parsed.sourceRef = item.sourceRef
  chatId : parsed.chatId = item.chatId
  owner : truthyText parsed.modelOwnerUserId = true
  guild : parsed.modelGuildId ≠ ""
  status : parsed.parserStatus ∈ confirmableTaskParseStatuses

theorem taskRead_of_readTask (hnames : PayloadNames payload item)
    (h : readTask settings crypto decryptGcm item payload run db = .ok (parsed, modelLabel)) :
    TaskRead crypto item parsed := by
  simp only [readTask, Except.bind_eq_ok, Except.mapError_eq_ok] at h
  obtain ⟨eventPayload, _, intake, hintake, _, hvalidate, hparse⟩ := h
  have hfields := validatePreparePayload_eq_ok hvalidate
  have hsource : Json.str item.sourceRef = .str intake.sourceRef :=
    hnames.sourceRef.symm.trans
      (hfields ("source_ref", .str intake.sourceRef) (by simp [expectedPrepareFields]))
  have hchat : Json.str item.chatId = .str intake.chatId :=
    hnames.chatId.symm.trans
      (hfields ("chat_id", .str intake.chatId) (by simp [expectedPrepareFields]))
  obtain ⟨howner, hguild, fields, status, parserError, source, hstatus, rfl⟩ :=
    parseWithUserModel_eq_ok hparse
  obtain ⟨hthread, htask⟩ := identified_of_parse hintake
  exact
    { identified := ⟨hthread, htask⟩
      sourceRef := (Json.str.inj hsource).symm
      chatId := (Json.str.inj hchat).symm
      owner := howner
      guild := hguild
      status := hstatus }

/-- The statements of an execution that sends the confirmation card. -/
structure SendsConfirmation (crypto : Crypto) (item : PrepareItem) (parsed : FeishuTaskIntake)
    (run : PrepareRun) (plan : TaskPlan) (db db' : Database) : Prop where
  planned : confirmablePlan parsed run.fresh = .ok plan
  statements : ∃ db₁ ref, storeTaskPayload crypto item parsed plan db = .ok db₁ ∧
    enqueueCard crypto item parsed plan run.row db₁ = .ok (ref, db')

theorem enqueueTaskConfirmationCard_eq_ok :
    enqueueTaskConfirmationCard crypto item parsed run db = (.ok (), db') ↔
      ∃ plan, SendsConfirmation crypto item parsed run plan db db' := by
  unfold enqueueTaskConfirmationCard
  constructor
  · intro h
    split at h
    · cases h
    · rename_i plan hplan
      split at h
      · cases h
      · rename_i db₁ hstore
        split at h
        · cases h
        · rename_i ref db₂ henqueue
          obtain rfl := (Prod.mk.inj h).2
          exact ⟨plan, hplan, db₁, ref, hstore, henqueue⟩
  · rintro ⟨plan, hplan, db₁, ref, hstore, henqueue⟩
    simp only [hplan, hstore, henqueue]

/-- An execution that does not send the card may have stored the payload of the task. -/
theorem enqueueTaskConfirmationCard_error {exc : PrepareError}
    (h : enqueueTaskConfirmationCard crypto item parsed run db = (.error exc, db')) :
    db.Grows db' ∧ db' = { db with artifactBlobs := db'.artifactBlobs } := by
  unfold enqueueTaskConfirmationCard at h
  split at h
  · obtain rfl := (Prod.mk.inj h).2
    exact ⟨.refl _, rfl⟩
  · split at h
    · obtain rfl := (Prod.mk.inj h).2
      exact ⟨.refl _, rfl⟩
    · rename_i db₁ hstore
      split at h
      · obtain rfl := (Prod.mk.inj h).2
        exact ⟨storeJsonPayload_grows hstore, storeJsonPayload_frame hstore⟩
      · cases h

inductive PrepareEnd (settings : Settings) (crypto : Crypto) (decryptGcm : DecryptGcm)
    (item : PrepareItem) (payload : Dict) (run : PrepareRun) (db db' : Database) : Prop
  | confirmed (parsed : FeishuTaskIntake) (modelLabel : String) (plan : TaskPlan)
      (hread : readTask settings crypto decryptGcm item payload run db = .ok (parsed, modelLabel))
      (hsends : SendsConfirmation crypto item parsed run plan db db')
  | failed (modelLabel : String) (exc : PrepareError) (view : Database) (ref : String)
      (hcause : readTask settings crypto decryptGcm item payload run db = .error exc ∧ view = db ∨
        ∃ parsed, readTask settings crypto decryptGcm item payload run db =
          .ok (parsed, modelLabel) ∧
            enqueueTaskConfirmationCard crypto item parsed run db = (.error exc, view))
      (hretry : isRetryableTaskPrepareError exc = false)
      (henqueue : enqueueParseFailedCard crypto item modelLabel (safeIntakeParseError exc) run.row
        view = .ok (ref, db'))

theorem failPreparation_eq_ok {exc : PrepareError}
    (h : failPreparation crypto item modelLabel exc run db = .ok db') :
    isRetryableTaskPrepareError exc = false ∧ ∃ ref, enqueueParseFailedCard crypto item modelLabel
      (safeIntakeParseError exc) run.row db = .ok (ref, db') := by
  unfold failPreparation at h
  dsimp only at h
  split_ifs at h with hretry hintegrity
  split at h
  · cases h
  · rename_i ref db₂ henqueue
    obtain rfl := Except.ok.inj h
    exact ⟨Bool.not_eq_true _ ▸ hretry, ref, henqueue⟩

theorem prepareTask_eq_ok
    (h : prepareTask settings crypto decryptGcm item payload run db = .ok db') :
    PrepareEnd settings crypto decryptGcm item payload run db db' := by
  unfold prepareTask at h
  split at h
  · rename_i exc hread
    obtain ⟨hretry, ref, henqueue⟩ := failPreparation_eq_ok h
    exact .failed _ exc db ref (.inl ⟨hread, rfl⟩) hretry henqueue
  · rename_i parsed modelLabel hread
    split at h
    · rename_i view hsends
      obtain rfl := Except.ok.inj h
      obtain ⟨plan, hsends⟩ := enqueueTaskConfirmationCard_eq_ok.mp hsends
      exact .confirmed parsed modelLabel plan hread hsends
    · rename_i exc view hfails
      obtain ⟨hretry, ref, henqueue⟩ := failPreparation_eq_ok h
      exact .failed modelLabel exc view ref (.inr ⟨parsed, hread, hfails⟩) hretry henqueue

theorem prepareTaskConfirmation_eq_ok :
    prepareTaskConfirmation settings crypto decryptGcm payload run db = .ok db' ↔
      ∃ item, prepareItem payload = .ok item ∧
        prepareTask settings crypto decryptGcm item payload run db = .ok db' := by
  simp only [prepareTaskConfirmation, Except.bind_eq_ok]

end Read

end Headhunt.Feishu
