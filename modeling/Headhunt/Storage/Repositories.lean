import Headhunt.Lib.PyBytes
import Headhunt.Storage.Database

/-! The repositories of payloads, outbox rows and card actions. -/
namespace Headhunt.Storage
open Py

def ensureArtifactPayloadMatches (contentRef existingSha256 expectedSha256 : String) :
    Except StorageError Unit :=
  if existingSha256 ≠ expectedSha256 then
    .error (.outboxPayloadConflict
      s!"content_ref {contentRef} already exists with a different payload")
  else .ok ()

def jsonBlob (contentRef : String) (payload : Dict) (rawText sha256 : String) : ArtifactBlob where
  contentRef := contentRef
  contentJson := .obj payload
  contentText := rawText
  sha256 := sha256

/-- `store_json_payload`. A blob met under the ref must carry the same digest; the
check after the insert meets the row just written. The column takes every payload: that it refuses
a NaN and the character NUL is left out. -/
def storeJsonPayload (contentRef : String) (payload : Dict) (rawText sha256 : String)
    (db : Database) : Except StorageError Database :=
  match db.blob? contentRef with
  | some existing => do
    ensureArtifactPayloadMatches contentRef existing.sha256 sha256
    .ok db
  | none => do
    let db := db.insertBlobOrIgnore (jsonBlob contentRef payload rawText sha256)
    match db.blob? contentRef with
    | some existing => ensureArtifactPayloadMatches contentRef existing.sha256 sha256
    | none => .ok ()
    .ok db

def getJsonPayload (contentRef : String) (db : Database) : Except StorageError Dict :=
  match (db.blob? contentRef).map ArtifactBlob.contentJson with
  | some (.obj payload) => .ok payload
  | _ => .error (.keyError contentRef)

section Outbox

variable (crypto : Crypto)

/-- `sha256(text.encode("utf-8")).hexdigest()`. -/
def sha256Hex (text : String) : String := hexdigest (crypto.sha256 text.toUTF8)

def stableHash (payload : Dict) : String := sha256Hex crypto (dumps .compact (.obj payload))

/-- `content_ref or f"artifact://outbox/{...}"`. -/
def resolvedContentRef (payload : Dict) (contentRef : Option String) : String :=
  (contentRef.filter (· ≠ "")).getD s!"artifact://outbox/{stableHash crypto payload}"

def ensureExistingPayloadMatches (existingPayloadRef expectedSha256 idempotencyKey : String)
    (db : Database) : Except StorageError Unit :=
  match db.blob? existingPayloadRef with
  | some existing =>
    if existing.sha256 = expectedSha256 then .ok ()
    else .error (.outboxPayloadConflict
      s!"idempotency_key {idempotencyKey} already exists with a different payload")
  | none => .error (.outboxPayloadConflict
      s!"idempotency_key {idempotencyKey} already exists with a different payload")

/-- `enqueue_json`: the ref the row with this key has afterwards. -/
def enqueueJson (row : RowDefaults) (kind : OutboxKind) (idempotencyKey : String)
    (payload : Dict) (threadId : Option UUID) (contentRef : Option String) (db : Database) :
    Except StorageError (String × Database) := do
  let payloadSha256 := stableHash crypto payload
  let resolvedContentRef := resolvedContentRef crypto payload contentRef
  match db.outboxForKey? idempotencyKey with
  | some existing => do
    ensureExistingPayloadMatches existing.payloadRef payloadSha256 idempotencyKey db
    .ok (existing.payloadRef, db)
  | none => do
    let db ← storeJsonPayload resolvedContentRef payload (dumps .compact (.obj payload))
      payloadSha256 db
    let db ← db.insertOutboxOrIgnore
      (pendingOutbox row kind idempotencyKey threadId resolvedContentRef)
    match db.outboxForKey? idempotencyKey with
    | some persisted =>
      if persisted.payloadRef ≠ resolvedContentRef then do
        ensureExistingPayloadMatches persisted.payloadRef payloadSha256 idempotencyKey db
        .ok (persisted.payloadRef, db)
      else .ok (resolvedContentRef, db)
    | none => .ok (resolvedContentRef, db)

end Outbox

def resumeKey (idempotencyKey : String) : String := s!"resume:{idempotencyKey}"

theorem resumeKey_toList (key : String) :
    (resumeKey key).toList = "resume:".toList ++ key.toList := by
  simp [resumeKey, ToString.toString]

theorem resumeKey_injective {a b : String} (h : resumeKey a = resumeKey b) : a = b := by
  have h' := congrArg String.toList h
  rw [resumeKey_toList, resumeKey_toList] at h'
  exact String.toList_inj.mp (List.append_cancel_left h')

def approvalOfAction (action : FeishuCardAction) (interruptId : UUID) (approver : Dict) :
    HumanApproval where
  interruptId := interruptId
  actionId := action.actionId
  threadId := action.threadId
  approver := approver
  decision := action.decision
  editedPayloadRef := action.editedPayloadRef
  idempotencyKey := action.idempotencyKey

/-- The three inserts of `record_action_and_enqueue_resume`. -/
def insertActionAndResume (row : RowDefaults) (action : FeishuCardAction) (interruptId : UUID)
    (payloadRef : String) (approver : Dict) (db : Database) : Except StorageError Database := do
  let db ← db.insertCardAction action
  let db ← db.insertApproval (approvalOfAction action interruptId approver)
  db.insertOutbox
    (pendingOutbox row .resume (resumeKey action.idempotencyKey) action.threadId payloadRef)

/-- `record_action_and_enqueue_resume`, the card action with its `interrupt_id`. -/
def recordActionAndEnqueueResume (row : RowDefaults) (action : FeishuCardAction)
    (interruptId : UUID) (payloadRef : String) (approver : Dict) (db : Database) :
    Except StorageError Database :=
  match db.proposal? action.actionId with
  | none =>
    .error (.invalidHumanApproval s!"ActionProposal not found: {action.actionId.str}")
  | some proposal =>
    if proposal.threadId ≠ action.threadId then
      .error (.invalidHumanApproval "Card action thread_id does not match ActionProposal")
    else if proposal.interruptId ≠ interruptId then
      .error (.invalidHumanApproval "Card action interrupt_id does not match ActionProposal")
    else if proposal.idempotencyKey ≠ action.idempotencyKey then
      .error (.invalidHumanApproval "Card action idempotency_key does not match ActionProposal")
    else if proposal.status ≠ .pending then .error .duplicateCardAction
    else
      (insertActionAndResume row action interruptId payloadRef approver db).mapError fun exc =>
        if exc = .integrity true then .duplicateCardAction else exc

def ensureActionApproved (actionId : UUID) (db : Database) : Except StorageError Unit :=
  match db.proposal? actionId with
  | none => .error (.bitableActionNotApproved s!"ActionProposal not found: {actionId.str}")
  | some proposal =>
    if proposal.status = .approved ∨ proposal.status = .executed then .ok ()
    else .error (.bitableActionNotApproved
      s!"ActionProposal is not approved: {proposal.status.value}")

variable {db db' : Database}

theorem blob?_insertBlobOrIgnore (row : ArtifactBlob) (ref : String) :
    (db.insertBlobOrIgnore row).blob? ref =
      (db.blob? ref).or (if row.contentRef = ref then some row else none) :=
  Table.find_insertOrIgnore ref db.artifactBlobs row

theorem ensureArtifactPayloadMatches_eq_ok {ref existing expected : String} :
    ensureArtifactPayloadMatches ref existing expected = .ok () ↔ existing = expected := by
  unfold ensureArtifactPayloadMatches
  by_cases h : existing = expected <;> simp [h]

theorem storeJsonPayload_eq_ok {ref text sha : String} {payload : Dict} :
    storeJsonPayload ref payload text sha db = .ok db' ↔
      (∃ b, db.blob? ref = some b ∧ b.sha256 = sha ∧ db' = db) ∨
        (db.blob? ref = none ∧
          db' = db.insertBlobOrIgnore (jsonBlob ref payload text sha)) := by
  unfold storeJsonPayload
  cases hb : db.blob? ref with
  | some b =>
    simp only [Except.check_eq_ok, ensureArtifactPayloadMatches_eq_ok, Except.ok.injEq,
      Option.some.injEq, reduceCtorEq, false_and, or_false, exists_eq_left', @eq_comm _ db']
  | none =>
    simp only [blob?_insertBlobOrIgnore, hb, jsonBlob, if_true, Option.none_or, Except.check_eq_ok,
      ensureArtifactPayloadMatches_eq_ok, Except.ok.injEq, true_and, reduceCtorEq, false_and,
      exists_false, false_or, @eq_comm _ db']

/-- The blob under the ref carries the digest, whether it was there before or not. -/
theorem blob?_storeJsonPayload {ref text sha : String} {payload : Dict}
    (h : storeJsonPayload ref payload text sha db = .ok db') :
    ∃ b, db'.blob? ref = some b ∧ b.sha256 = sha := by
  rcases storeJsonPayload_eq_ok.mp h with ⟨b, hb, hsha, rfl⟩ | ⟨hb, rfl⟩
  · exact ⟨b, hb, hsha⟩
  · refine ⟨jsonBlob ref payload text sha, ?_, rfl⟩
    simp [blob?_insertBlobOrIgnore, hb, jsonBlob]

/-- A blob was there before, or it is the one just stored. -/
theorem blob?_of_storeJsonPayload {ref text sha : String} {payload : Dict} {b : ArtifactBlob}
    {r : String} (h : storeJsonPayload ref payload text sha db = .ok db')
    (hb : db'.blob? r = some b) : db.blob? r = some b ∨ r = ref ∧ b.sha256 = sha := by
  rcases storeJsonPayload_eq_ok.mp h with ⟨_, _, _, rfl⟩ | ⟨_, rfl⟩
  · exact .inl hb
  · rw [blob?_insertBlobOrIgnore] at hb
    rcases Option.or_eq_some_iff.mp hb with hb | ⟨_, hb⟩
    · exact .inl hb
    · split_ifs at hb with href
      obtain rfl := Option.some.inj hb
      exact .inr ⟨href.symm, rfl⟩

/-- Storing a payload touches no other table. -/
theorem storeJsonPayload_frame {ref text sha : String} {payload : Dict}
    (h : storeJsonPayload ref payload text sha db = .ok db') :
    db' = { db with artifactBlobs := db'.artifactBlobs } := by
  rcases storeJsonPayload_eq_ok.mp h with ⟨b, _, _, rfl⟩ | ⟨_, rfl⟩ <;> rfl

/-- The only error of the payload store is a conflict. -/
theorem storeJsonPayload_error {ref text sha : String} {payload : Dict} {exc : StorageError}
    (h : storeJsonPayload ref payload text sha db = .error exc) :
    ∃ message, exc = .outboxPayloadConflict message := by
  unfold storeJsonPayload ensureArtifactPayloadMatches at h
  cases hb : db.blob? ref with
  | some b =>
    simp only [hb] at h
    by_cases hsha : b.sha256 = sha
    · simp [hsha, bind, Except.bind] at h
    · simp only [ne_eq, hsha, not_false_eq_true, if_true, bind, Except.bind,
        Except.error.injEq] at h
      exact ⟨_, h.symm⟩
  | none =>
    simp [blob?_insertBlobOrIgnore, hb, jsonBlob, bind, Except.bind] at h

theorem resolvedContentRef_some (crypto : Crypto) (payload : Dict) {ref : String} (h : ref ≠ "") :
    resolvedContentRef crypto payload (some ref) = ref := by
  simp [resolvedContentRef, Option.filter, h]

section Enqueue

variable {crypto : Crypto} {row : RowDefaults} {kind : OutboxKind} {key : String} {payload : Dict}
  {threadId : Option UUID} {contentRef : Option String} {ref : String}

/-- The row just written is the one the last lookup finds. -/
theorem enqueueJson_of_none (hk : db.outboxForKey? key = none) :
    enqueueJson crypto row kind key payload threadId contentRef db =
      storeJsonPayload (resolvedContentRef crypto payload contentRef) payload
        (dumps .compact (.obj payload)) (stableHash crypto payload) db >>= fun db =>
      db.insertOutbox (pendingOutbox row kind key threadId
        (resolvedContentRef crypto payload contentRef)) >>= fun db =>
      .ok (resolvedContentRef crypto payload contentRef, db) := by
  unfold enqueueJson
  simp only [hk]
  cases hstore : storeJsonPayload (resolvedContentRef crypto payload contentRef) payload
      (dumps .compact (.obj payload)) (stableHash crypto payload) db with
  | error exc => rfl
  | ok db₁ =>
    have hk₁ : db₁.outboxForKey? key = none := by
      rw [storeJsonPayload_frame hstore]
      exact hk
    have hignore : ∀ ref, db₁.insertOutboxOrIgnore (pendingOutbox row kind key threadId ref) =
        db₁.insertOutbox (pendingOutbox row kind key threadId ref) := by
      intro ref
      simp [Database.insertOutboxOrIgnore, pendingOutbox, hk₁]
    simp only [bind, Except.bind, hignore]
    cases hinsert : db₁.insertOutbox (pendingOutbox row kind key threadId
        (resolvedContentRef crypto payload contentRef)) with
    | error exc => rfl
    | ok db₂ =>
      have hk₂ : db₂.outboxForKey? key = some (pendingOutbox row kind key threadId
          (resolvedContentRef crypto payload contentRef)) := by
        obtain ⟨_, _, _, rfl⟩ := Database.insertOutbox_eq_ok.mp hinsert
        change Table.find _ _ (_ ++ _) = _
        rw [Table.find_append_singleton, show Table.find _ key db₁.outbox = none from hk₁]
        simp [pendingOutbox]
      simp [hk₂, pendingOutbox]

/-- Either the key has a row already, and nothing is written, or a new row is. -/
theorem enqueueJson_cases
    (h : enqueueJson crypto row kind key payload threadId contentRef db = .ok (ref, db')) :
    (∃ existing, db.outboxForKey? key = some existing ∧ ref = existing.payloadRef ∧ db' = db) ∨
      (db.outboxForKey? key = none ∧ ref = resolvedContentRef crypto payload contentRef ∧
        ∃ db₁, storeJsonPayload ref payload (dumps .compact (.obj payload))
            (stableHash crypto payload) db = .ok db₁ ∧
          db₁.insertOutbox (pendingOutbox row kind key threadId ref) = .ok db') := by
  cases hk : db.outboxForKey? key with
  | some existing =>
    simp only [enqueueJson, hk, Except.check_eq_ok, Except.ok.injEq, Prod.mk.injEq] at h
    exact .inl ⟨existing, rfl, h.2.1.symm, h.2.2.symm⟩
  | none =>
    simp only [enqueueJson_of_none hk, Except.bind_eq_ok, Except.ok.injEq, Prod.mk.injEq] at h
    obtain ⟨db₁, hstore, db₂, hinsert, rfl, rfl⟩ := h
    exact .inr ⟨rfl, rfl, db₁, hstore, hinsert⟩

theorem ensureExistingPayloadMatches_error {existingRef sha : String} {exc : StorageError}
    (h : ensureExistingPayloadMatches existingRef sha key db = .error exc) :
    ∃ message, exc = .outboxPayloadConflict message := by
  unfold ensureExistingPayloadMatches at h
  split at h
  · split_ifs at h
    exact ⟨_, (Except.error.inj h).symm⟩
  · exact ⟨_, (Except.error.inj h).symm⟩

/-- `enqueue_json` raises a conflict or an `IntegrityError`. -/
theorem enqueueJson_error {exc : StorageError}
    (h : enqueueJson crypto row kind key payload threadId contentRef db = .error exc) :
    (∃ message, exc = .outboxPayloadConflict message) ∨ ∃ unique, exc = .integrity unique := by
  cases hk : db.outboxForKey? key with
  | some existing =>
    simp only [enqueueJson, hk, Except.bind_eq_error, reduceCtorEq, and_false, exists_false,
      or_false] at h
    exact .inl (ensureExistingPayloadMatches_error h)
  | none =>
    simp only [enqueueJson_of_none hk, Except.bind_eq_error, reduceCtorEq, and_false,
      exists_false, or_false] at h
    rcases h with h | ⟨db₁, _, h⟩
    · exact .inl (storeJsonPayload_error h)
    · exact .inr (Database.insertOutbox_error h)

end Enqueue

section CardAction

variable {row : RowDefaults} {action : FeishuCardAction} {interruptId : UUID} {payloadRef : String}
  {approver : Dict}

theorem insertActionAndResume_eq_ok
    (h : insertActionAndResume row action interruptId payloadRef approver db = .ok db') :
    db.approvalForKey? action.idempotencyKey = none ∧
      db.outboxForKey? (resumeKey action.idempotencyKey) = none ∧
      Table.find FeishuOutbox.id row.id db.outbox = none ∧
      db' = { db with
        cardActions := db.cardActions ++ [action]
        humanApprovals := db.humanApprovals ++ [approvalOfAction action interruptId approver]
        outbox := db.outbox ++ [pendingOutbox row .resume (resumeKey action.idempotencyKey)
          action.threadId payloadRef] } := by
  simp only [insertActionAndResume, Except.bind_eq_ok, Database.insertCardAction_eq_ok,
    Database.insertApproval_eq_ok, Database.insertOutbox_eq_ok] at h
  obtain ⟨_, ⟨_, _, _, rfl⟩, _, ⟨happroval, _, _, rfl⟩, houtbox, hid, _, rfl⟩ := h
  exact ⟨happroval, houtbox, hid, rfl⟩

/-- On an existing proposal and thread only a unique violation is left. -/
theorem insertActionAndResume_error {exc : StorageError}
    (hthread : db.hasThread action.threadId = true) (hp : (db.proposal? action.actionId).isSome)
    (h : insertActionAndResume row action interruptId payloadRef approver db = .error exc) :
    exc = .integrity true := by
  simp only [insertActionAndResume, Except.bind_eq_error] at h
  rcases h with h | ⟨_, haction, h | ⟨_, happroval, h⟩⟩
  · exact Database.insertCardAction_unique hthread h
  · obtain ⟨_, _, _, rfl⟩ := Database.insertCardAction_eq_ok.mp haction
    exact Database.insertApproval_unique hp hthread h
  · obtain ⟨_, _, _, rfl⟩ := Database.insertCardAction_eq_ok.mp haction
    obtain ⟨_, _, _, rfl⟩ := Database.insertApproval_eq_ok.mp happroval
    refine Database.insertOutbox_unique ?_ h
    intro id hid
    obtain rfl : action.threadId = id := by simpa [pendingOutbox] using hid
    exact hthread

structure NamesProposal (action : FeishuCardAction) (interruptId : UUID)
    (proposal : ActionProposal) : Prop where
  threadId : proposal.threadId = action.threadId
  actionId : proposal.id = action.actionId
  interruptId : proposal.interruptId = interruptId
  idempotencyKey : proposal.idempotencyKey = action.idempotencyKey

theorem recordActionAndEnqueueResume_eq_ok :
    recordActionAndEnqueueResume row action interruptId payloadRef approver db = .ok db' ↔
      ∃ proposal, db.proposal? action.actionId = some proposal ∧
        NamesProposal action interruptId proposal ∧ proposal.status = .pending ∧
        insertActionAndResume row action interruptId payloadRef approver db = .ok db' := by
  unfold recordActionAndEnqueueResume
  cases hp : db.proposal? action.actionId with
  | none => simp
  | some proposal =>
    have hid : proposal.id = action.actionId := Table.find_key hp
    simp only [Except.ite_error_eq_ok, not_not, Except.mapError_eq_ok, Option.some.injEq,
      exists_eq_left']
    constructor
    · rintro ⟨hthread, hinterrupt, hkey, hstatus, h⟩
      exact ⟨⟨hthread, hid, hinterrupt, hkey⟩, hstatus, h⟩
    · rintro ⟨⟨hthread, _, hinterrupt, hkey⟩, hstatus, h⟩
      exact ⟨hthread, hinterrupt, hkey, hstatus, h⟩

/-- An action that names an existing proposal is recorded, or it is a duplicate. -/
theorem recordActionAndEnqueueResume_error {proposal : ActionProposal} {exc : StorageError}
    (hp : db.proposal? action.actionId = some proposal)
    (hnames : NamesProposal action interruptId proposal)
    (hthread : db.hasThread proposal.threadId = true)
    (h : recordActionAndEnqueueResume row action interruptId payloadRef approver db = .error exc) :
    exc = .duplicateCardAction := by
  unfold recordActionAndEnqueueResume at h
  simp only [hp, ne_eq, hnames.threadId, hnames.interruptId, hnames.idempotencyKey,
    not_true_eq_false, if_false] at h
  by_cases hstatus : proposal.status = .pending
  · rw [if_neg (not_not.mpr hstatus)] at h
    cases hinsert : insertActionAndResume row action interruptId payloadRef approver db with
    | ok db₁ => simp [hinsert, Except.mapError] at h
    | error exc₁ =>
      have hone := insertActionAndResume_error (hnames.threadId ▸ hthread) (by simp [hp]) hinsert
      simpa [hinsert, hone, Except.mapError, eq_comm] using h
  · rw [if_pos hstatus] at h
    exact (Except.error.inj h).symm

end CardAction
end Headhunt.Storage
