import Headhunt.Feishu.Cards
import Headhunt.Feishu.Service

/-! The click on a task confirmation card: its command, and the transaction that records
the decision and starts an approved task. -/
namespace Headhunt.Feishu
open Headhunt.Storage Py

structure FeishuTaskConfirmationCommand where
  eventId : String
  threadId : UUID
  taskId : UUID
  idempotencyKey : String
  decision : Decision
  sourceRef : String
  taskPayloadRef : String
  openMessageId : Option String
  openChatId : Option String
  cardUpdateTokenRef : String
  operatorOpenId : Option String
deriving DecidableEq

def parseTaskConfirmationCommand (callback : VerifiedFeishuCallback) (payloadRef : String) :
    Except FeishuCallbackError FeishuTaskConfirmationCommand :=
  if callback.eventType ≠ "card.action.trigger" then
    .error (.payload "Feishu callback is not card.action.trigger")
  else do
    let event := payloadEvent callback.payload
    let value ← extractCardActionValue callback.payload
    if value.get "action_kind" ≠ .str "task_double_check" then
      .error (.payload "Feishu card action is not task_double_check")
    else do
      let decisionText ← requiredStr value "decision"
      match (Decision.ofString? decisionText).filter (· ≠ .edit) with
      | none => .error (.payload "Feishu task confirmation decision is invalid")
      | some decision => do
        let context := (event.get "context").asDict
        let operator := (event.get "operator").asDict
        let idempotencyKey ← requiredStr value "idempotency_key"
        let threadId ← requiredUuid value "thread_id"
        let taskId ← requiredUuid value "task_id"
        let sourceRef ← requiredStr value "source_ref"
        let taskPayloadRef ← requiredStr value "task_payload_ref"
        .ok
          { eventId := callback.eventId.getD s!"task-confirm:{idempotencyKey}"
            threadId := threadId
            taskId := taskId
            idempotencyKey := idempotencyKey
            decision := decision
            sourceRef := sourceRef
            taskPayloadRef := taskPayloadRef
            openMessageId := firstStr [context.get "open_message_id"]
            openChatId := firstStr [context.get "open_chat_id"]
            cardUpdateTokenRef := payloadRef
            operatorOpenId := firstStr [operator.get "open_id"] }

/-- The fields of the task payload a confirmation must match. -/
def expectedFields (command : FeishuTaskConfirmationCommand) : List (String × String) :=
  [("thread_id", command.threadId.str), ("task_id", command.taskId.str), ("source", "feishu"),
    ("source_ref", command.sourceRef)]

def requiredModelScope : List String :=
  ["model_profile_id", "model_owner_user_id", "model_guild_id"]

def validateTaskConfirmationPayload (taskPayload : Dict) (command : FeishuTaskConfirmationCommand) :
    Except FeishuCallbackError Unit :=
  match (expectedFields command).find? fun field => taskPayload.get field.1 ≠ .str field.2 with
  | some field => .error (.payload s!"task confirmation {field.1} does not match")
  | none =>
    if requiredModelScope.all fun key => (taskPayload.get key).truthy then .ok ()
    else .error (.payload "task confirmation payload missing BYOK model scope")

def confirmationRow (command : FeishuTaskConfirmationCommand) : FeishuCardAction where
  eventId := command.eventId
  threadId := command.threadId
  actionId := command.taskId
  interruptId := none
  idempotencyKey := command.idempotencyKey
  openMessageId := command.openMessageId
  openChatId := command.openChatId
  cardUpdateTokenRef := command.cardUpdateTokenRef
  operatorOpenId := command.operatorOpenId
  decision := command.decision
  editedPayloadRef := none
  status := if command.decision = .approve then .queued else .received

def recordConfirmation (command : FeishuTaskConfirmationCommand) (db : Database) :
    Except StorageError Database :=
  (db.insertCardAction (confirmationRow command)).mapError fun exc =>
    if exc = .integrity true then .duplicateCardAction else exc

def approvedTaskPayloadRef (taskPayloadRef : String) : String := s!"{taskPayloadRef}:approved"

def authorizedTaskPayload (taskPayload : Dict) (operatorOpenId : Option String)
    (authorizedAt : String) : Dict :=
  taskPayload.set "authorization" (.obj (Dict.ofList
    [("status", .str "authorized"), ("source", .str "feishu_card"),
      ("approver", .obj (Dict.ofList
        [("source", .str "feishu"), ("open_id", optionalText operatorOpenId)])),
      ("authorized_at", .str authorizedAt)]))

def textField (taskPayload : Dict) (key : String) : Except FeishuCallbackError String :=
  match taskPayload.get? key with
  | some (.str text) => .ok text
  | some _ => .error (.uncaught "TypeError")
  | none => .error (.uncaught "KeyError")

def uuidField (taskPayload : Dict) (key : String) : Except FeishuCallbackError UUID := do
  match UUID.parse (← textField taskPayload key) with
  | some id => .ok id
  | none => .error (.uncaught "ValueError")

/-- `task_payload[key]` where the column may be null. -/
def nullableField (taskPayload : Dict) (key : String) :
    Except FeishuCallbackError (Option String) :=
  match taskPayload.get? key with
  | some (.str text) => .ok (some text)
  | some .null => .ok none
  | some _ => .error (.uncaught "TypeError")
  | none => .error (.uncaught "KeyError")

def authorizedThread (taskPayload : Dict) : Except FeishuCallbackError GraphThread := do
  let id ← uuidField taskPayload "thread_id"
  let sourceRef ← textField taskPayload "source_ref"
  let taskType ← textField taskPayload "task_type"
  let councilMode ← nullableField taskPayload "council_mode"
  let modeReason ← nullableField taskPayload "mode_reason"
  let taskId ← textField taskPayload "task_id"
  let userInput ← textField taskPayload "user_input"
  .ok
    { id := id
      source := "feishu"
      sourceRef := sourceRef
      taskType := taskType
      councilMode := councilMode
      modeReason := modeReason
      status := .queued
      stateSummary := Dict.ofList
        [("authorization_status", .str "authorized"), ("task_id", .str taskId),
          ("request_summary", .str (String.ofList (userInput.toList.take 240))),
          ("council_mode", optionalText councilMode), ("mode_reason", optionalText modeReason),
          ("source_ref", .str sourceRef)] }

def upsertThread (row : GraphThread) (db : Database) : Database :=
  { db with
    graphThreads :=
      Table.upsert GraphThread.id row (fun old => { row with id := old.id }) db.graphThreads }

def graphDispatchKey (idempotencyKey : String) : String := s!"graph_dispatch:{idempotencyKey}"

inductive ConfirmationStatus
  | queued
  | rejected
  | duplicate
deriving DecidableEq, Repr

structure ConfirmationResult where
  status : ConfirmationStatus
  idempotencyKey : String
  payloadRef : String
deriving DecidableEq

section Service

variable (crypto : Crypto) (row : RowDefaults) (authorizedAt : String)

def startTask (command : FeishuTaskConfirmationCommand) (taskPayload : Dict) (db : Database) :
    Except ServiceError Database := do
  let approvedPayload := authorizedTaskPayload taskPayload command.operatorOpenId authorizedAt
  let thread ← (authorizedThread approvedPayload).mapError .callback
  let (_, db) ← (enqueueJson crypto row .graphDispatch (graphDispatchKey command.idempotencyKey)
    approvedPayload (some command.threadId)
    (some (approvedTaskPayloadRef command.taskPayloadRef)) (upsertThread thread db)).mapError .storage
  .ok db

def confirmTask (callback : VerifiedFeishuCallback) (rawText : String)
    (command : FeishuTaskConfirmationCommand) (db : Database) : Except ServiceError Database := do
  let db ← (storeJsonPayload (buildPayloadRef callback) callback.payload rawText
    callback.payloadHash db).mapError .storage
  let taskPayload ← (getJsonPayload command.taskPayloadRef db).mapError .storage
  (validateTaskConfirmationPayload taskPayload command).mapError .callback
  let db ← (recordConfirmation command db).mapError .storage
  if command.decision = .approve then startTask crypto row authorizedAt command taskPayload db
  else .ok db

def confirmationResult (command : FeishuTaskConfirmationCommand) (payloadRef : String)
    (db : Database) :
    Except ServiceError Database → Except ServiceError (ConfirmationResult × Database)
  | .ok db =>
    .ok (⟨if command.decision = .approve then .queued else .rejected, command.idempotencyKey,
      payloadRef⟩, db)
  | .error exc =>
    if exc = .storage .duplicateCardAction then
      .ok (⟨.duplicate, command.idempotencyKey, payloadRef⟩, db)
    else .error exc

def enqueueTaskConfirmation (callback : VerifiedFeishuCallback) (db : Database) :
    Except ServiceError (ConfirmationResult × Database) :=
  match parseTaskConfirmationCommand callback (buildPayloadRef callback) with
  | .error exc => .error (.callback exc)
  | .ok command =>
    match String.fromUTF8? callback.rawBody with
    | none => .error (.callback (.uncaught "UnicodeDecodeError"))
    | some rawText =>
      confirmationResult command (buildPayloadRef callback) db
        (confirmTask crypto row authorizedAt callback rawText command db)

end Service

def TaskCard.command (card : TaskCard) (decision : Decision) (callback : VerifiedFeishuCallback)
    (payloadRef : String) : FeishuTaskConfirmationCommand :=
  let event := payloadEvent callback.payload
  { eventId := callback.eventId.getD s!"task-confirm:{card.idempotencyKey}"
    threadId := card.threadId
    taskId := card.taskId
    idempotencyKey := card.idempotencyKey
    decision := decision
    sourceRef := card.sourceRef
    taskPayloadRef := card.taskPayloadRef
    openMessageId := firstStr [(event.get "context").asDict.get "open_message_id"]
    openChatId := firstStr [(event.get "context").asDict.get "open_chat_id"]
    cardUpdateTokenRef := payloadRef
    operatorOpenId := firstStr [(event.get "operator").asDict.get "open_id"] }

theorem TaskCard.get_value (card : TaskCard) (decision : Decision) :
    (card.value decision).get "action_kind" = .str "task_double_check" ∧
      (card.value decision).get "thread_id" = .str card.threadId.str ∧
      (card.value decision).get "task_id" = .str card.taskId.str ∧
      (card.value decision).get "task_payload_ref" = .str card.taskPayloadRef ∧
      (card.value decision).get "source_ref" = .str card.sourceRef ∧
      (card.value decision).get "idempotency_key" = .str card.idempotencyKey ∧
      (card.value decision).get "decision" = .str decision.value := by
  simp [TaskCard.value, Dict.get_ofList, Dict.get_cons]

theorem requiredUuid_of_str {value : Dict} {key : String} {id : UUID}
    (h : value.get key = .str id.str) : requiredUuid value key = .ok id := by
  have hne : id.str ≠ "" := by
    intro hempty
    have hlen := UUID.length_str id
    simp [hempty] at hlen
  exact requiredUuid_eq_ok.mpr ⟨id.str, h, hne, UUID.parse_str id⟩

theorem TaskCard.idempotencyKey_ne (card : TaskCard) : card.idempotencyKey ≠ "" := by
  intro h
  have hlist := congrArg String.toList h
  simp [TaskCard.idempotencyKey, taskConfirmKey, ToString.toString] at hlist

theorem parseTaskConfirmationCommand_card {card : TaskCard} {decision : Decision}
    {callback : VerifiedFeishuCallback} (payloadRef : String)
    (htype : callback.eventType = "card.action.trigger")
    (hvalue : extractCardActionValue callback.payload = .ok (card.value decision))
    (hdecision : decision ≠ .edit) (hsource : card.sourceRef ≠ "")
    (href : card.taskPayloadRef ≠ "") :
    parseTaskConfirmationCommand callback payloadRef =
      .ok (card.command decision callback payloadRef) := by
  obtain ⟨hkind, hthread, htask, hpayload, hsrc, hkey, hdec⟩ := card.get_value decision
  have hdecText := requiredStr_eq_ok.mpr ⟨hdec, decision.value_ne⟩
  have hof : (Decision.ofString? decision.value).filter (· ≠ .edit) = some decision := by
    rw [Decision.ofString?_eq_some.mpr rfl]
    simp [hdecision]
  have hkeyText := requiredStr_eq_ok.mpr ⟨hkey, card.idempotencyKey_ne⟩
  have hsrcText := requiredStr_eq_ok.mpr ⟨hsrc, hsource⟩
  have hrefText := requiredStr_eq_ok.mpr ⟨hpayload, href⟩
  simp only [parseTaskConfirmationCommand, htype, ne_eq, not_true_eq_false, if_false, hvalue, hkind,
    hdecText, hof, hkeyText, requiredUuid_of_str hthread, requiredUuid_of_str htask, hsrcText,
    hrefText, bind, Except.bind, TaskCard.command]

/-- The check against the task payload does not look at the click. -/
theorem validate_command (card : TaskCard) (taskPayload : Dict) {decision decision' : Decision}
    {callback callback' : VerifiedFeishuCallback} {payloadRef payloadRef' : String}
    (h : validateTaskConfirmationPayload taskPayload (card.command decision callback payloadRef) =
      .ok ()) :
    validateTaskConfirmationPayload taskPayload (card.command decision' callback' payloadRef') =
      .ok () := h

theorem taskConfirmKey_toList (sourceRef : String) :
    (taskConfirmKey sourceRef).toList = "task_confirm:".toList ++ sourceRef.toList := by
  simp [taskConfirmKey, ToString.toString]

theorem taskConfirmKey_injective : Function.Injective taskConfirmKey := by
  intro a b h
  have h' := congrArg String.toList h
  rw [taskConfirmKey_toList, taskConfirmKey_toList] at h'
  exact String.toList_inj.mp (List.append_cancel_left h')

theorem graphDispatchKey_toList (key : String) :
    (graphDispatchKey key).toList = "graph_dispatch:".toList ++ key.toList := by
  simp [graphDispatchKey, ToString.toString]

theorem graphDispatchKey_injective : Function.Injective graphDispatchKey := by
  intro a b h
  have h' := congrArg String.toList h
  rw [graphDispatchKey_toList, graphDispatchKey_toList] at h'
  exact String.toList_inj.mp (List.append_cancel_left h')

section Transaction

variable {crypto : Crypto} {row : RowDefaults} {authorizedAt : String}
  {callback : VerifiedFeishuCallback} {rawText : String} {command : FeishuTaskConfirmationCommand}
  {taskPayload : Dict} {db db' : Database}

theorem recordConfirmation_eq_ok :
    recordConfirmation command db = .ok db' ↔
      db.insertCardAction (confirmationRow command) = .ok db' := by
  unfold recordConfirmation
  exact Except.mapError_eq_ok

/-- The rows an approved task leaves behind. -/
theorem startTask_eq_ok
    (h : startTask crypto row authorizedAt command taskPayload db = .ok db') :
    ∃ thread ref, authorizedThread
        (authorizedTaskPayload taskPayload command.operatorOpenId authorizedAt) = .ok thread ∧
      enqueueJson crypto row .graphDispatch (graphDispatchKey command.idempotencyKey)
        (authorizedTaskPayload taskPayload command.operatorOpenId authorizedAt)
        (some command.threadId) (some (approvedTaskPayloadRef command.taskPayloadRef))
        (upsertThread thread db) = .ok (ref, db') := by
  simp only [startTask, Except.bind_eq_ok, Except.mapError_eq_ok, Except.ok.injEq] at h
  obtain ⟨thread, hthread, ⟨ref, db₁⟩, henqueue, rfl⟩ := h
  exact ⟨thread, ref, hthread, henqueue⟩

theorem confirmTask_eq_ok
    (h : confirmTask crypto row authorizedAt callback rawText command db = .ok db') :
    ∃ db₁ taskPayload db₂,
      storeJsonPayload (buildPayloadRef callback) callback.payload rawText callback.payloadHash db =
        .ok db₁ ∧
      getJsonPayload command.taskPayloadRef db₁ = .ok taskPayload ∧
      validateTaskConfirmationPayload taskPayload command = .ok () ∧
      db₁.insertCardAction (confirmationRow command) = .ok db₂ ∧
      (if command.decision = .approve then
        startTask crypto row authorizedAt command taskPayload db₂ = .ok db'
      else db' = db₂) := by
  simp only [confirmTask, Except.bind_eq_ok, Except.mapError_eq_ok, recordConfirmation_eq_ok] at h
  obtain ⟨db₁, hstore, taskPayload, hget, hvalid, hvalidate, db₂, hinsert, h⟩ := h
  refine ⟨db₁, taskPayload, db₂, hstore, hget, hvalidate, hinsert, ?_⟩
  by_cases happrove : command.decision = .approve
  · simpa [happrove] using h
  · simpa [happrove, eq_comm] using h

theorem upsertThread_grows (thread : GraphThread) : db.Grows (upsertThread thread db) where
  blobs h := h
  threads := by
    intro id h
    have hkey : ∀ old : GraphThread, ({ thread with id := old.id } : GraphThread).id = old.id :=
      fun _ => rfl
    unfold Database.hasThread upsertThread Table.upsert at *
    dsimp only
    split_ifs
    · rw [Table.find_modify hkey, Option.isSome_map]
      exact h
    · obtain ⟨old, hold⟩ := Option.isSome_iff_exists.mp h
      rw [Table.find_append_of_some hold]
      rfl
  proposals {_ p} h := ⟨p.status, h, fun _ => rfl⟩
  approvals h := h
  outbox {_ r} h := ⟨r, h, SameItem.refl r⟩

/-- What a confirmation that goes through leaves in the tables. -/
structure Confirms (callback : VerifiedFeishuCallback) (command : FeishuTaskConfirmationCommand)
    (db db' : Database) : Prop where
  grows : db.Grows db'
  cardActions : db'.cardActions = db.cardActions ++ [confirmationRow command]
  first : Table.find FeishuCardAction.idempotencyKey command.idempotencyKey db.cardActions = none
  taskPayload : ∃ taskPayload, getJsonPayload command.taskPayloadRef db' = .ok taskPayload ∧
    validateTaskConfirmationPayload taskPayload command = .ok ()
  outbox : ∀ key, (db'.outboxForKey? key).isSome = true ↔ (db.outboxForKey? key).isSome = true ∨
    command.decision = .approve ∧ key = graphDispatchKey command.idempotencyKey
  blobs : ∀ ref b, db'.blob? ref = some b → db.blob? ref = some b ∨
    ref = buildPayloadRef callback ∧ b.sha256 = callback.payloadHash ∨
    ref = approvedTaskPayloadRef command.taskPayloadRef

theorem approvedTaskPayloadRef_ne (taskPayloadRef : String) :
    approvedTaskPayloadRef taskPayloadRef ≠ "" := by
  intro h
  have hlist := congrArg String.toList h
  simp [approvedTaskPayloadRef, ToString.toString] at hlist

theorem confirmTask_confirms
    (h : confirmTask crypto row authorizedAt callback rawText command db = .ok db') :
    Confirms callback command db db' := by
  obtain ⟨db₁, taskPayload, db₂, hstore, hget, hvalidate, hinsert, h⟩ := confirmTask_eq_ok h
  have hgrows₂ := (storeJsonPayload_grows hstore).trans (.insertCardAction hinsert)
  have hget₂ := (Database.Grows.insertCardAction hinsert).getJsonPayload hget
  obtain ⟨_, hfirst, _, rfl⟩ := Database.insertCardAction_eq_ok.mp hinsert
  have hframe := storeJsonPayload_frame hstore
  have hactions : db₁.cardActions = db.cardActions := by rw [hframe]
  have houtbox : db₁.outbox = db.outbox := by rw [hframe]
  rw [hactions] at hfirst
  by_cases happrove : command.decision = .approve
  · rw [if_pos happrove] at h
    obtain ⟨thread, ref, _, henqueue⟩ := startTask_eq_ok h
    have hgrows := (upsertThread_grows thread).trans (enqueueJson_grows henqueue)
    refine ⟨hgrows₂.trans hgrows, ?_, hfirst, ⟨taskPayload, hgrows.getJsonPayload hget₂, hvalidate⟩,
      ?_, ?_⟩
    · rw [enqueueJson_frame henqueue, ← hactions]
      rfl
    · intro key
      rw [isSome_outboxForKey?_enqueueJson henqueue]
      simp [Database.outboxForKey?, upsertThread, houtbox, happrove]
    · intro r b hb
      rcases blob?_of_enqueueJson henqueue hb with hb | hr
      · exact (blob?_of_storeJsonPayload hstore hb).imp_right .inl
      · rw [resolvedContentRef_some _ _ (approvedTaskPayloadRef_ne _)] at hr
        exact .inr (.inr hr)
  · rw [if_neg happrove] at h
    subst h
    refine ⟨hgrows₂, by rw [← hactions], hfirst, ⟨taskPayload, hget₂, hvalidate⟩, ?_, ?_⟩
    · intro key
      simp [Database.outboxForKey?, houtbox, happrove]
    · intro r b hb
      exact (blob?_of_storeJsonPayload hstore hb).imp_right .inl

/-- A click whose key is taken is a duplicate, as long as the task can still be read. -/
theorem confirmTask_of_recorded {action : FeishuCardAction}
    (hblob : ∀ b, db.blob? (buildPayloadRef callback) = some b → b.sha256 = callback.payloadHash)
    (hget : getJsonPayload command.taskPayloadRef db = .ok taskPayload)
    (hvalidate : validateTaskConfirmationPayload taskPayload command = .ok ())
    (haction : action ∈ db.cardActions) (hkey : action.idempotencyKey = command.idempotencyKey) :
    confirmTask crypto row authorizedAt callback rawText command db =
      .error (.storage .duplicateCardAction) := by
  have hstore : ∃ db₁, storeJsonPayload (buildPayloadRef callback) callback.payload rawText
      callback.payloadHash db = .ok db₁ ∧ db.Grows db₁ ∧ db₁.cardActions = db.cardActions := by
    cases hb : db.blob? (buildPayloadRef callback) with
    | some b =>
      exact ⟨db, storeJsonPayload_eq_ok.mpr (.inl ⟨b, hb, hblob b hb, rfl⟩), .refl db, rfl⟩
    | none => exact ⟨_, storeJsonPayload_eq_ok.mpr (.inr ⟨hb, rfl⟩), .insertBlobOrIgnore _, rfl⟩
  obtain ⟨db₁, hstore, hgrows, hactions⟩ := hstore
  have hfind : (Table.find FeishuCardAction.idempotencyKey command.idempotencyKey
      db₁.cardActions).isSome = true := by
    rw [hactions, ← hkey]
    exact Option.isSome_iff_exists.mpr (Table.exists_find_of_mem haction)
  have hrecord : recordConfirmation command db₁ = .error .duplicateCardAction := by
    have hinsert : db₁.insertCardAction (confirmationRow command) = .error (.integrity true) :=
      if_pos (.inr hfind)
    simp [recordConfirmation, hinsert, Except.mapError]
  simp only [confirmTask, hstore, hgrows.getJsonPayload hget, hvalidate, hrecord, Except.mapError,
    bind, Except.bind]

end Transaction

end Headhunt.Feishu
