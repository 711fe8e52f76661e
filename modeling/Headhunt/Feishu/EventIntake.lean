import Headhunt.Feishu.ModelSetupCompletion
import Headhunt.Feishu.TaskConfirmation
import Headhunt.ModelProfiles.Defaults

/-! `enqueue_event`: a message becomes a task that is prepared with the model of its sender,
or a card that asks the sender for one. -/
namespace Headhunt.Feishu
open Headhunt.Core Headhunt.ModelProfiles Headhunt.Storage Py Transition

/-- A row of the event log as `record_event_and_enqueue` inserts it, `queued`. -/
structure FeishuEventLog where
  eventId : String
  eventType : String
  tenantKey : Option String
  appId : Option String
  messageId : Option String
  dedupeKey : String
  idempotencyKey : String
  payloadHash : String
  payloadRef : String
deriving DecidableEq

structure IntakeDatabase extends SetupDatabase where
  eventLogs : List FeishuEventLog := []
deriving DecidableEq

/-- What the partial unique index on messages compares. A missing tenant equals no other. -/
def FeishuEventLog.messageIdentity (log : FeishuEventLog) : Option (String × String × String) := do
  let tenantKey ← log.tenantKey
  let messageId ← log.messageId
  some (tenantKey, log.eventType, messageId)

/-- The two rows violate a unique constraint of the event log. -/
def FeishuEventLog.Clashes (log other : FeishuEventLog) : Prop :=
  other.eventId = log.eventId ∨ other.dedupeKey = log.dedupeKey ∨
    other.idempotencyKey = log.idempotencyKey ∨
    (log.messageIdentity.isSome ∧ other.messageIdentity = log.messageIdentity)

instance (log other : FeishuEventLog) : Decidable (log.Clashes other) := by
  unfold FeishuEventLog.Clashes
  infer_instance

def IntakeDatabase.insertEventLog (db : IntakeDatabase) (log : FeishuEventLog) :
    Except StorageError IntakeDatabase :=
  if ∃ other ∈ db.eventLogs, log.Clashes other then .error (.integrity true)
  else .ok { db with eventLogs := db.eventLogs ++ [log] }

def buildEventDedupeKey (callback : VerifiedFeishuCallback) : String :=
  let identity := ((nonemptyText callback.messageId).or (nonemptyText callback.eventId)).getD
    callback.payloadHash
  let tenant := (nonemptyText callback.tenantKey).getD "unknown_tenant"
  s!"{tenant}:{callback.eventType}:{identity}"

def eventIdempotencyKey (dedupeKey : String) : String := s!"feishu:event:{dedupeKey}"

def buildEventIdempotencyKey (callback : VerifiedFeishuCallback) : String :=
  eventIdempotencyKey (buildEventDedupeKey callback)

def eventLog (callback : VerifiedFeishuCallback) : FeishuEventLog where
  eventId := (nonemptyText callback.eventId).getD callback.payloadHash
  eventType := callback.eventType
  tenantKey := callback.tenantKey
  appId := callback.appId
  messageId := callback.messageId
  dedupeKey := buildEventDedupeKey callback
  idempotencyKey := buildEventIdempotencyKey callback
  payloadHash := callback.payloadHash
  payloadRef := buildPayloadRef callback

inductive EventError
  | duplicateEvent
  | callback (exc : FeishuCallbackError)
  | storage (exc : StorageError)
  | multipleResults
deriving DecidableEq

def defaultModelProfile (intake : FeishuTaskIntake) (profiles : ProfileTable) :
    Except EventError (Option UserModelProfile) :=
  match nonemptyText intake.modelOwnerUserId with
  | none => .ok none
  | some userId =>
    match profiles.getDefaultProfile intake.modelGuildId userId .chat with
    | .ok profile => .ok (if profile.secret.isSome then some profile else none)
    | .error (.profile _) => .ok none
    | .error .multipleResults => .error .multipleResults

/-- What is stored for the event beside the event itself, and how it goes on. -/
structure EventPlan where
  ref : String
  payload : Dict
  kind : OutboxKind
  threadState : String

def modelSetupCardPayload (intake : FeishuTaskIntake) (chatId eventPayloadRef : String) : Dict :=
  Dict.ofList
    [("chat_id", .str chatId),
      ("card", .obj (buildModelSetupRequiredCard intake.threadId intake.sourceRef eventPayloadRef
        intake.requestText chatId intake.modelOwnerUserId intake.modelOwnerIdType))]

section Transaction

variable (crypto : Crypto) (intake : FeishuTaskIntake) (chatId eventPayloadRef : String)

/-- `_store_model_setup_card` or `_store_task_confirmation_prepare_payload`. -/
def eventPlan : Option UserModelProfile → EventPlan
  | none =>
    ⟨modelSetupCardRef crypto intake.sourceRef,
      modelSetupCardPayload intake chatId eventPayloadRef, .cardSend, "pending_model_profile"⟩
  | some profile =>
    ⟨taskConfirmationPrepareRef crypto intake.sourceRef profile.id,
      buildTaskConfirmationPreparePayload chatId eventPayloadRef profile.id intake,
      .taskConfirmationPrepare, "pending_task_parse"⟩

def storeEventPlan (plan : EventPlan) (db : Database) : Except StorageError Database :=
  storeJsonPayload plan.ref plan.payload (dumps .compact (.obj plan.payload))
    (stableHash crypto plan.payload) db

def pendingIntakeThread (status : String) : GraphThread where
  id := intake.threadId
  source := "feishu"
  sourceRef := intake.sourceRef
  taskType := "task_intake"
  councilMode := none
  modeReason := none
  status := .queued
  stateSummary := Dict.ofList
    [("authorization_status", .str status), ("task_id", .str intake.taskId.str),
      ("request_summary", .str (takeText 240 intake.requestText)),
      ("source_ref", .str intake.sourceRef), ("message_id", optionalText intake.messageId),
      ("chat_id", .str intake.chatId),
      ("model_owner_user_id", optionalText intake.modelOwnerUserId),
      ("model_owner_id_type", optionalText intake.modelOwnerIdType)]

/-- A thread that is there keeps its type, its council and its status. -/
def upsertPendingIntakeThread (status : String) (db : Database) : Database :=
  let row := pendingIntakeThread intake status
  { db with
    graphThreads := Table.upsert GraphThread.id row (fun old =>
      { old with
        source := row.source
        sourceRef := row.sourceRef
        stateSummary := row.stateSummary }) db.graphThreads }

def recordEventAndEnqueue (row : RowDefaults) (log : FeishuEventLog) (outboxKind : OutboxKind)
    (outboxPayloadRef : String) (threadId : UUID) (db : IntakeDatabase) :
    Except EventError IntakeDatabase :=
  let statements := do
    let logged ← db.insertEventLog log
    let outboxed ← logged.toDatabase.insertOutbox (pendingOutbox row outboxKind log.idempotencyKey
      (some threadId) (textOr outboxPayloadRef log.payloadRef))
    .ok { logged with toDatabase := outboxed }
  statements.mapError fun exc =>
    if exc = .integrity true then .duplicateEvent else .storage exc

end Transaction

section Service

variable (crypto : Crypto) (defaultChatId : Option String) (row : RowDefaults)
  (callback : VerifiedFeishuCallback)

/-- A `ValueError` becomes a payload error, an `AttributeError` is not caught. -/
def intakeEventError : IntakeError → EventError
  | .valueError message => .callback (.payload message)
  | .attributeError _ => .callback (.uncaught "AttributeError")

/-- `intake.chat_id or self.settings.feishu_default_chat_id`. -/
def eventChatId (intake : FeishuTaskIntake) : Option String :=
  (nonemptyText (some intake.chatId)).or (nonemptyText defaultChatId)

def recordEvent (intake : FeishuTaskIntake) (chatId : String) (db : IntakeDatabase) :
    Except EventError IntakeDatabase :=
  match String.fromUTF8? callback.rawBody with
  | none => .error (.callback (.uncaught "UnicodeDecodeError"))
  | some rawText => do
    let payloadRef := buildPayloadRef callback
    let stored ← (storeJsonPayload payloadRef callback.payload rawText callback.payloadHash
      db.toDatabase).mapError .storage
    let profile ← defaultModelProfile intake db.profiles
    let plan := eventPlan crypto intake chatId payloadRef profile
    let planned ← (storeEventPlan crypto plan stored).mapError .storage
    let threaded := upsertPendingIntakeThread intake plan.threadState planned
    recordEventAndEnqueue row (eventLog callback) plan.kind plan.ref intake.threadId
      { db with toDatabase := threaded }

def eventResult (db : IntakeDatabase) :
    Except EventError IntakeDatabase → Except EventError (FeishuEnqueueResult × IntakeDatabase)
  | .ok db => .ok (⟨.queued, buildEventIdempotencyKey callback, buildPayloadRef callback⟩, db)
  | .error .duplicateEvent =>
    .ok (⟨.duplicate, buildEventIdempotencyKey callback, buildPayloadRef callback⟩, db)
  | .error exc => .error exc

def enqueueEvent (db : IntakeDatabase) :
    Except EventError (FeishuEnqueueResult × IntakeDatabase) :=
  match parseTaskIntake crypto callback.payload callback.tenantKey with
  | .error exc => .error (intakeEventError exc)
  | .ok intake =>
    match eventChatId defaultChatId intake with
    | none => .error (.callback (.payload "Feishu task intake requires chat_id"))
    | some chatId =>
      eventResult callback db (recordEvent crypto row callback intake chatId db)

end Service

section Recorded

variable {crypto : Crypto} {defaultChatId : Option String} {row : RowDefaults}
  {callback : VerifiedFeishuCallback} {intake : FeishuTaskIntake} {chatId : String}
  {db db' : IntakeDatabase}

theorem insertEventLog_eq_ok {log : FeishuEventLog} : db.insertEventLog log = .ok db' ↔
    (∀ other ∈ db.eventLogs, ¬log.Clashes other) ∧
      db' = { db with eventLogs := db.eventLogs ++ [log] } := by
  unfold IntakeDatabase.insertEventLog
  rw [Except.ite_error_eq_ok, Except.ok.injEq, @eq_comm _ db']
  simp only [not_exists, not_and]

theorem recordEventAndEnqueue_eq_ok {log : FeishuEventLog} {kind : OutboxKind} {ref : String}
    {threadId : UUID} : recordEventAndEnqueue row log kind ref threadId db = .ok db' ↔
      (∀ other ∈ db.eventLogs, ¬log.Clashes other) ∧
        ∃ outboxed, db.toDatabase.insertOutbox (pendingOutbox row kind log.idempotencyKey
            (some threadId) (textOr ref log.payloadRef)) = .ok outboxed ∧
          db' = { db with eventLogs := db.eventLogs ++ [log], toDatabase := outboxed } := by
  unfold recordEventAndEnqueue
  simp only [Except.mapError_eq_ok, Except.bind_eq_ok, insertEventLog_eq_ok, Except.ok.injEq]
  constructor
  · rintro ⟨logged, ⟨hfree, rfl⟩, outboxed, houtbox, rfl⟩
    exact ⟨hfree, outboxed, houtbox, rfl⟩
  · rintro ⟨hfree, outboxed, houtbox, rfl⟩
    exact ⟨_, ⟨hfree, rfl⟩, outboxed, houtbox, rfl⟩

/-- With its thread in place an event that is not recorded is a duplicate. -/
theorem recordEventAndEnqueue_error {log : FeishuEventLog} {kind : OutboxKind} {ref : String}
    {threadId : UUID} {exc : EventError} (hthread : db.hasThread threadId = true)
    (h : recordEventAndEnqueue row log kind ref threadId db = .error exc) :
    exc = .duplicateEvent := by
  unfold recordEventAndEnqueue at h
  cases hlog : db.insertEventLog log with
  | error failure =>
    have hfailure : failure = .integrity true := by
      unfold IntakeDatabase.insertEventLog at hlog
      split_ifs at hlog
      exact (Except.error.inj hlog).symm
    simp only [hlog, hfailure, bind, Except.bind, Except.mapError, if_true,
      Except.error.injEq] at h
    exact h.symm
  | ok logged =>
    obtain ⟨_, rfl⟩ := insertEventLog_eq_ok.mp hlog
    simp only [hlog, bind, Except.bind] at h
    cases houtbox : db.toDatabase.insertOutbox (pendingOutbox row kind log.idempotencyKey
        (some threadId) (textOr ref log.payloadRef)) with
    | ok outboxed => simp [houtbox, Except.mapError] at h
    | error failure =>
      have hfailure : failure = .integrity true := by
        apply Database.insertOutbox_unique _ houtbox
        intro id hid
        obtain rfl := Option.some.inj hid
        exact hthread
      simp only [houtbox, hfailure, Except.mapError, if_true, Except.error.injEq] at h
      exact h.symm

theorem hasThread_upsertPendingIntakeThread (intake : FeishuTaskIntake) (status : String)
    (db : Database) :
    (upsertPendingIntakeThread intake status db).hasThread intake.threadId = true := by
  unfold Database.hasThread upsertPendingIntakeThread
  apply Table.find_upsert_isSome
  · exact fun _ => rfl
  · exact .inr rfl

/-- The transactions of the callback service write payloads and outbox items, beside threads and
card actions. -/
def intakeScope : Scope where
  blob _ := True
  outbox _ := True

theorem upsertPendingIntakeThread_statements (intake : FeishuTaskIntake) (status : String)
    (db : Database) : Statements intakeScope db (upsertPendingIntakeThread intake status db) := by
  unfold upsertPendingIntakeThread Table.upsert
  dsimp only
  split_ifs with hthere
  · exact .single (.updateThread intake.threadId fun _ => rfl)
  · have hinsert : Statement intakeScope db _ := .thread (pendingIntakeThread intake status)
    unfold Table.insertOrIgnore at hinsert
    rw [if_neg hthere] at hinsert
    exact .single hinsert

def eventItem (row : RowDefaults) (callback : VerifiedFeishuCallback) (intake : FeishuTaskIntake)
    (plan : EventPlan) : FeishuOutbox :=
  pendingOutbox row plan.kind (buildEventIdempotencyKey callback) (some intake.threadId) plan.ref

/-- What the transaction of an event has done. -/
structure Recorded (crypto : Crypto) (row : RowDefaults) (callback : VerifiedFeishuCallback)
    (intake : FeishuTaskIntake) (plan : EventPlan) (db db' : IntakeDatabase) : Prop where
  fresh : ∀ other ∈ db.eventLogs, ¬(eventLog callback).Clashes other
  logs : db'.eventLogs = db.eventLogs ++ [eventLog callback]
  profiles : db'.profiles = db.profiles
  newKey : db.outboxForKey? (buildEventIdempotencyKey callback) = none
  newId : Table.find FeishuOutbox.id row.id db.outbox = none
  outbox : db'.outbox = db.outbox ++ [eventItem row callback intake plan]
  event : ∃ b, db'.blob? (buildPayloadRef callback) = some b ∧ b.sha256 = callback.payloadHash
  payload : ∃ b, db'.blob? plan.ref = some b ∧ b.sha256 = stableHash crypto plan.payload
  statements : Statements intakeScope db.toDatabase db'.toDatabase

theorem modelSetupCardRef_toList (crypto : Crypto) (sourceRef : String) :
    (modelSetupCardRef crypto sourceRef).toList =
      "artifact://feishu-card/model-setup/".toList ++ (uuid5 crypto sourceRef).str.toList := by
  unfold modelSetupCardRef
  simp only [ToString.toString, String.toList_append]

theorem eventPlan_ref_ne (crypto : Crypto) (intake : FeishuTaskIntake) (chatId ref : String)
    (profile : Option UserModelProfile) : (eventPlan crypto intake chatId ref profile).ref ≠ "" := by
  intro h
  have hlist := congrArg String.toList h
  cases profile with
  | none =>
    rw [eventPlan, modelSetupCardRef_toList] at hlist
    cases hlist
  | some profile =>
    rw [eventPlan, prepareRef_toList] at hlist
    cases hlist

theorem recordEvent_eq_ok (h : recordEvent crypto row callback intake chatId db = .ok db') :
    ∃ profile, defaultModelProfile intake db.profiles = .ok profile ∧
      Recorded crypto row callback intake
        (eventPlan crypto intake chatId (buildPayloadRef callback) profile) db db' := by
  unfold recordEvent at h
  split at h
  · cases h
  · simp only [Except.bind_eq_ok, Except.mapError_eq_ok, recordEventAndEnqueue_eq_ok] at h
    obtain ⟨stored, hstored, profile, hprofile, planned, hplanned, hfresh, outboxed, houtbox, rfl⟩ :=
      h
    refine ⟨profile, hprofile, ?_⟩
    obtain ⟨hkey, hid, _, rfl⟩ := Database.insertOutbox_eq_ok.mp houtbox
    have hplannedGrows := storeJsonPayload_grows hplanned
    have hstoring : Statements intakeScope db.toDatabase planned :=
      (storeJsonPayload_statements hstored trivial).trans
        (storeJsonPayload_statements hplanned trivial)
    have hthreading := upsertPendingIntakeThread_statements intake
      (eventPlan crypto intake chatId (buildPayloadRef callback) profile).threadState planned
    have hsame : planned.outbox = db.outbox := by
      rw [storeJsonPayload_frame hplanned, storeJsonPayload_frame hstored]
    have hrow : textOr (eventPlan crypto intake chatId (buildPayloadRef callback) profile).ref
        (eventLog callback).payloadRef =
          (eventPlan crypto intake chatId (buildPayloadRef callback) profile).ref :=
      if_neg (eventPlan_ref_ne crypto intake chatId _ profile)
    obtain ⟨b, hb, hsha⟩ := blob?_storeJsonPayload hstored
    obtain ⟨b', hb', hsha'⟩ := blob?_storeJsonPayload hplanned
    constructor
    · exact hfresh
    · rfl
    · rfl
    · rw [← hkey]
      exact (congrArg (Table.find FeishuOutbox.idempotencyKey _) hsame).symm
    · rw [← hid]
      exact (congrArg (Table.find FeishuOutbox.id row.id) hsame).symm
    · change planned.outbox ++ [_] = db.outbox ++ [_]
      rw [hsame, hrow]
      rfl
    · exact ⟨b, hplannedGrows.blobs hb, hsha⟩
    · exact ⟨b', hb', hsha'⟩
    · exact (hstoring.trans hthreading).tail (.outbox houtbox trivial rfl)

/-- An event is queued, or it is a duplicate and changes nothing. -/
theorem enqueueEvent_eq_ok {result : FeishuEnqueueResult}
    (h : enqueueEvent crypto defaultChatId row callback db = .ok (result, db')) :
    ∃ intake chatId, parseTaskIntake crypto callback.payload callback.tenantKey = .ok intake ∧
      eventChatId defaultChatId intake = some chatId ∧
      (result.status = .queued ∧ recordEvent crypto row callback intake chatId db = .ok db' ∨
        result.status = .duplicate ∧ db' = db ∧
          recordEvent crypto row callback intake chatId db = .error .duplicateEvent) := by
  unfold enqueueEvent at h
  cases hintake : parseTaskIntake crypto callback.payload callback.tenantKey with
  | error exc => simp [hintake] at h
  | ok intake =>
    simp only [hintake] at h
    cases hchat : eventChatId defaultChatId intake with
    | none => simp [hchat] at h
    | some chatId =>
      simp only [hchat] at h
      refine ⟨intake, chatId, rfl, hchat, ?_⟩
      cases hrecord : recordEvent crypto row callback intake chatId db with
      | ok recorded =>
        simp only [hrecord, eventResult, Except.ok.injEq, Prod.mk.injEq] at h
        obtain ⟨rfl, rfl⟩ := h
        exact .inl ⟨rfl, rfl⟩
      | error exc =>
        rw [hrecord] at h
        cases exc with
        | duplicateEvent =>
          simp only [eventResult, Except.ok.injEq, Prod.mk.injEq] at h
          obtain ⟨rfl, rfl⟩ := h
          exact .inr ⟨rfl, rfl, rfl⟩
        | _ => cases h

end Recorded
end Headhunt.Feishu
