import Headhunt.Lib.Session
import Headhunt.Lib.Transition
import Headhunt.Storage.Transactions

/-! The law of the durable outbox: one row for each key, with the payload of the first call.
The two repository calls are taken statement by statement here, so that it shows what a
session sees when one of them raises. -/
namespace Headhunt.Storage
open Py

/-- A check that may raise and writes nothing. -/
def raiseUnless (check : Except StorageError Unit) : EStateM StorageError Database PUnit :=
  match check with
  | .ok _ => pure ⟨⟩
  | .error exc => throw exc

def storeStatements (contentRef : String) (payload : Dict) (rawText sha256 : String) :
    EStateM StorageError Database PUnit := do
  match (← get).blob? contentRef with
  | some existing => raiseUnless (ensureArtifactPayloadMatches contentRef existing.sha256 sha256)
  | none =>
    modify fun db => db.insertBlobOrIgnore (jsonBlob contentRef payload rawText sha256)
    match (← get).blob? contentRef with
    | some existing => raiseUnless (ensureArtifactPayloadMatches contentRef existing.sha256 sha256)
    | none => pure ⟨⟩

def enqueueStatements (crypto : Crypto) (row : RowDefaults) (kind : OutboxKind)
    (idempotencyKey : String) (payload : Dict) (threadId : Option UUID)
    (contentRef : Option String) : EStateM StorageError Database String := do
  let payloadSha256 := stableHash crypto payload
  let resolvedContentRef := resolvedContentRef crypto payload contentRef
  match (← get).outboxForKey? idempotencyKey with
  | some existing =>
    raiseUnless (ensureExistingPayloadMatches existing.payloadRef payloadSha256 idempotencyKey
      (← get))
    pure existing.payloadRef
  | none =>
    storeStatements resolvedContentRef payload (dumps .compact (.obj payload)) payloadSha256
    Session.statement id fun db => db.insertOutboxOrIgnore
      (pendingOutbox row kind idempotencyKey threadId resolvedContentRef)
    match (← get).outboxForKey? idempotencyKey with
    | some persisted =>
      if persisted.payloadRef ≠ resolvedContentRef then
        raiseUnless (ensureExistingPayloadMatches persisted.payloadRef payloadSha256 idempotencyKey
          (← get))
        pure persisted.payloadRef
      else pure resolvedContentRef
    | none => pure resolvedContentRef

section Calls

variable {crypto : Crypto} {row : RowDefaults} {kind : OutboxKind} {key ref text sha : String}
  {payload : Dict} {threadId : Option UUID} {contentRef : Option String} {db view : Database}
  {exc : StorageError}

open Session

/-- `store_json_payload` raises before it writes anything. -/
theorem storeStatements_run : (storeStatements ref payload text sha).run db =
    match storeJsonPayload ref payload text sha db with
    | .ok view => .ok ⟨⟩ view
    | .error exc => .error exc db := by
  cases hb : db.blob? ref with
  | some existing =>
    simp only [storeStatements, storeJsonPayload, EStateM.run_bind, EStateM.run_get, hb]
    cases ensureArtifactPayloadMatches ref existing.sha256 sha <;> rfl
  | none =>
    have hstored : (db.insertBlobOrIgnore (jsonBlob ref payload text sha)).blob? ref =
        some (jsonBlob ref payload text sha) := by
      rw [blob?_insertBlobOrIgnore, hb]
      exact if_pos rfl
    have hcheck : ensureArtifactPayloadMatches ref (jsonBlob ref payload text sha).sha256 sha =
        .ok () := ensureArtifactPayloadMatches_eq_ok.mpr rfl
    simp only [storeStatements, storeJsonPayload, EStateM.run_bind, EStateM.run_get,
      EStateM.run_modify, hb, hstored, hcheck]
    rfl

theorem returnsAt_storeStatements : ReturnsAt (storeStatements ref payload text sha) db ⟨⟩ view ↔
    storeJsonPayload ref payload text sha db = .ok view := by
  unfold ReturnsAt
  rw [storeStatements_run]
  cases storeJsonPayload ref payload text sha db <;> simp

theorem enqueueStatements_of_some {existing : FeishuOutbox}
    (hk : db.outboxForKey? key = some existing) :
    (enqueueStatements crypto row kind key payload threadId contentRef).run db =
      match ensureExistingPayloadMatches existing.payloadRef (stableHash crypto payload) key db with
      | .ok _ => .ok existing.payloadRef db
      | .error exc => .error exc db := by
  simp only [enqueueStatements, EStateM.run_bind, EStateM.run_get, hk]
  cases ensureExistingPayloadMatches existing.payloadRef (stableHash crypto payload) key db <;> rfl

/-- The row just written is the one the last lookup finds. -/
theorem enqueueStatements_of_none (hk : db.outboxForKey? key = none) :
    (enqueueStatements crypto row kind key payload threadId contentRef).run db =
      match storeJsonPayload (resolvedContentRef crypto payload contentRef) payload
        (dumps .compact (.obj payload)) (stableHash crypto payload) db with
      | .error exc => .error exc db
      | .ok db₁ =>
        match db₁.insertOutbox (pendingOutbox row kind key threadId
          (resolvedContentRef crypto payload contentRef)) with
        | .error exc => .error exc db₁
        | .ok db₂ => .ok (resolvedContentRef crypto payload contentRef) db₂ := by
  simp only [enqueueStatements, EStateM.run_bind, EStateM.run_get, hk, storeStatements_run]
  cases hstore : storeJsonPayload (resolvedContentRef crypto payload contentRef) payload
      (dumps .compact (.obj payload)) (stableHash crypto payload) db with
  | error exc => rfl
  | ok db₁ =>
    have hk₁ : db₁.outboxForKey? key = none := by
      rw [storeJsonPayload_frame hstore]
      exact hk
    have hignore : db₁.insertOutboxOrIgnore (pendingOutbox row kind key threadId
        (resolvedContentRef crypto payload contentRef)) = db₁.insertOutbox (pendingOutbox row kind
          key threadId (resolvedContentRef crypto payload contentRef)) := by
      simp [Database.insertOutboxOrIgnore, pendingOutbox, hk₁]
    simp only [Session.statement, EStateM.run, hignore]
    cases hinsert : db₁.insertOutbox (pendingOutbox row kind key threadId
        (resolvedContentRef crypto payload contentRef)) with
    | error exc => rfl
    | ok db₂ =>
      have hk₂ : db₂.outboxForKey? key = some (pendingOutbox row kind key threadId
          (resolvedContentRef crypto payload contentRef)) := by
        obtain ⟨_, _, _, rfl⟩ := Database.insertOutbox_eq_ok.mp hinsert
        change Table.find _ _ (_ ++ _) = _
        rw [Table.find_append_singleton, show Table.find _ key db₁.outbox = none from hk₁]
        simp [pendingOutbox]
      have hsame : ¬(pendingOutbox row kind key threadId (resolvedContentRef crypto payload
          contentRef)).payloadRef ≠ resolvedContentRef crypto payload contentRef := not_not.mpr rfl
      simp only [hk₂, if_neg hsame]
      rfl

/-- What `enqueue_json` returns, and the tables it leaves. -/
theorem returnsAt_enqueueStatements :
    ReturnsAt (enqueueStatements crypto row kind key payload threadId contentRef) db ref view ↔
      enqueueJson crypto row kind key payload threadId contentRef db = .ok (ref, view) := by
  unfold ReturnsAt
  cases hk : db.outboxForKey? key with
  | some existing =>
    rw [enqueueStatements_of_some hk]
    simp only [enqueueJson, hk]
    cases ensureExistingPayloadMatches existing.payloadRef (stableHash crypto payload) key db with
    | error exc => simp [bind, Except.bind]
    | ok u => simp [bind, Except.bind]
  | none =>
    rw [enqueueStatements_of_none hk, enqueueJson_of_none hk]
    cases storeJsonPayload (resolvedContentRef crypto payload contentRef) payload
        (dumps .compact (.obj payload)) (stableHash crypto payload) db with
    | error exc => simp [bind, Except.bind]
    | ok db₁ =>
      cases hinsert : db₁.insertOutbox (pendingOutbox row kind key threadId
          (resolvedContentRef crypto payload contentRef)) with
      | error exc => simp [bind, Except.bind, hinsert]
      | ok db₂ => simp [bind, Except.bind, hinsert]

/-- A conflict is raised before anything is written. -/
theorem raisesAt_of_conflict {message : String}
    (h : enqueueJson crypto row kind key payload threadId contentRef db =
      .error (.outboxPayloadConflict message)) :
    RaisesAt (enqueueStatements crypto row kind key payload threadId contentRef) db
      (.outboxPayloadConflict message) db := by
  unfold RaisesAt
  cases hk : db.outboxForKey? key with
  | some existing =>
    rw [enqueueStatements_of_some hk]
    simp only [enqueueJson, hk] at h
    cases hcheck : ensureExistingPayloadMatches existing.payloadRef (stableHash crypto payload) key
        db with
    | error exc =>
      simp only [hcheck, bind, Except.bind, Except.error.injEq] at h
      rw [h]
    | ok u => simp [hcheck, bind, Except.bind] at h
  | none =>
    rw [enqueueStatements_of_none hk]
    rw [enqueueJson_of_none hk] at h
    cases hstore : storeJsonPayload (resolvedContentRef crypto payload contentRef) payload
        (dumps .compact (.obj payload)) (stableHash crypto payload) db with
    | error exc =>
      simp only [hstore, bind, Except.bind, Except.error.injEq] at h
      rw [h]
    | ok db₁ =>
      simp only [hstore, bind, Except.bind] at h
      cases hinsert : db₁.insertOutbox (pendingOutbox row kind key threadId
          (resolvedContentRef crypto payload contentRef)) with
      | error exc =>
        simp only [hinsert, Except.error.injEq] at h
        obtain ⟨unique, rfl⟩ := Database.insertOutbox_error hinsert
        cases h
      | ok db₂ => simp [hinsert] at h

end Calls

def canonical (payload : Dict) : String := dumps .compact (.obj payload)

/-- A call of one of the two repositories; the digest is that of the canonical JSON. -/
inductive StoreOp
  | store (contentRef : String) (payload : Dict) (rawText : String)
  | enqueue (row : RowDefaults) (kind : OutboxKind) (idempotencyKey : String) (payload : Dict)
      (threadId : Option UUID) (contentRef : Option String)

def StoreOp.payload : StoreOp → Dict
  | .store _ payload _ => payload
  | .enqueue _ _ _ payload _ _ => payload

section Runs

variable (crypto : Crypto)

def StoreOp.work : StoreOp → EStateM StorageError Database String
  | .store contentRef payload rawText => do
    storeStatements contentRef payload rawText (stableHash crypto payload)
    pure contentRef
  | .enqueue row kind key payload threadId contentRef =>
    enqueueStatements crypto row kind key payload threadId contentRef

def StoreOp.step (db : Database) (op : StoreOp) : Option Database :=
  some (Session.transaction (op.work crypto) db).2

/-- The digest tells the payloads apart. -/
def DigestsTell (payloads : List Dict) : Prop :=
  ∀ p ∈ payloads, ∀ q ∈ payloads, stableHash crypto p = stableHash crypto q →
    canonical p = canonical q

structure Recorded (payloads : List Dict) (db : Database) : Prop where
  rows : Table.Unique FeishuOutbox.idempotencyKey db.outbox
  blobs : ∀ ref b, db.blob? ref = some b →
    ∃ p ∈ payloads, b.contentJson = .obj p ∧ b.sha256 = stableHash crypto p
  stored : ∀ key row, db.outboxForKey? key = some row → ∃ b, db.blob? row.payloadRef = some b

end Runs

section Recorded

variable {crypto : Crypto} {payloads : List Dict} {db db' : Database} {op : StoreOp}

open Session

/-- A call returns and commits, or it raises and is rolled back. -/
theorem StoreOp.step_cases (h : op.step crypto db = some db') :
    (∃ ref, ReturnsAt (op.work crypto) db ref db') ∨ db' = db := by
  have hdb : (transaction (op.work crypto) db).2 = db' := Option.some.inj h
  cases hrun : (op.work crypto).run db with
  | ok ref view =>
    have hreturns : ReturnsAt (op.work crypto) db ref view := hrun
    rw [transaction_of_returns hreturns] at hdb
    exact .inl ⟨ref, hdb ▸ hreturns⟩
  | error exc view =>
    have hraises : RaisesAt (op.work crypto) db exc view := hrun
    rw [transaction_of_raises hraises] at hdb
    exact .inr hdb.symm

theorem returnsAt_store {contentRef rawText ref : String} {payload : Dict} :
    ReturnsAt ((StoreOp.store contentRef payload rawText).work crypto) db ref db' ↔
      storeJsonPayload contentRef payload rawText (stableHash crypto payload) db = .ok db' ∧
        ref = contentRef := by
  unfold StoreOp.work
  rw [returnsAt_bind]
  constructor
  · rintro ⟨_, view, hstore, hpure⟩
    obtain ⟨rfl, rfl⟩ := returnsAt_pure.mp hpure
    exact ⟨returnsAt_storeStatements.mp hstore, rfl⟩
  · rintro ⟨hstore, rfl⟩
    exact ⟨⟨⟩, db', returnsAt_storeStatements.mpr hstore, returnsAt_pure.mpr ⟨rfl, rfl⟩⟩

theorem StoreOp.step_grows (h : op.step crypto db = some db') : db.Grows db' := by
  rcases StoreOp.step_cases h with ⟨ref, hreturns⟩ | rfl
  · cases op with
    | store contentRef payload rawText =>
      exact storeJsonPayload_grows (returnsAt_store.mp hreturns).1
    | enqueue row kind key payload threadId contentRef =>
      exact enqueueJson_grows (returnsAt_enqueueStatements.mp hreturns)
  · exact .refl _

theorem Recorded.store {ref text : String} {payload : Dict} (hs : Recorded crypto payloads db)
    (hpayload : payload ∈ payloads)
    (h : storeJsonPayload ref payload text (stableHash crypto payload) db = .ok db') :
    Recorded crypto payloads db' := by
  have houtbox : db'.outbox = db.outbox := by
    rw [storeJsonPayload_frame h]
  refine ⟨houtbox ▸ hs.rows, ?_, ?_⟩
  · intro r b hb
    rcases storeJsonPayload_eq_ok.mp h with ⟨_, _, _, rfl⟩ | ⟨_, rfl⟩
    · exact hs.blobs r b hb
    · rw [blob?_insertBlobOrIgnore] at hb
      rcases Option.or_eq_some_iff.mp hb with hb | ⟨_, hb⟩
      · exact hs.blobs r b hb
      · split_ifs at hb
        obtain rfl := Option.some.inj hb
        exact ⟨payload, hpayload, rfl, rfl⟩
  · intro key row hrow
    unfold Database.outboxForKey? at hrow
    rw [houtbox] at hrow
    obtain ⟨b, hb⟩ := hs.stored key row hrow
    exact ⟨b, (storeJsonPayload_grows h).blobs hb⟩

theorem Recorded.enqueue {row : RowDefaults} {kind : OutboxKind} {key ref : String}
    {payload : Dict} {threadId : Option UUID} {contentRef : Option String}
    (hs : Recorded crypto payloads db) (hpayload : payload ∈ payloads)
    (h : enqueueJson crypto row kind key payload threadId contentRef db = .ok (ref, db')) :
    Recorded crypto payloads db' := by
  rcases enqueueJson_cases h with ⟨_, _, _, rfl⟩ | ⟨hnone, _, db₁, hstore, hinsert⟩
  · exact hs
  · have hs₁ := hs.store hpayload hstore
    obtain ⟨b, hb, _⟩ := blob?_storeJsonPayload hstore
    obtain ⟨hfresh, _, _, rfl⟩ := Database.insertOutbox_eq_ok.mp hinsert
    refine ⟨hs₁.rows.append_singleton hfresh, hs₁.blobs, ?_⟩
    · intro k r hr
      have hfind : Table.find FeishuOutbox.idempotencyKey k (db₁.outbox ++
          [pendingOutbox row kind key threadId ref]) = some r := hr
      rw [Table.find_append_singleton] at hfind
      rcases Option.or_eq_some_iff.mp hfind with hold | ⟨_, hnew⟩
      · exact hs₁.stored k r hold
      · split_ifs at hnew
        obtain rfl := Option.some.inj hnew
        exact ⟨b, hb⟩

theorem Recorded.step (hs : Recorded crypto payloads db) (hpayload : op.payload ∈ payloads)
    (h : op.step crypto db = some db') : Recorded crypto payloads db' := by
  rcases StoreOp.step_cases h with ⟨ref, hreturns⟩ | rfl
  · cases op with
    | store contentRef payload rawText =>
      exact hs.store hpayload (returnsAt_store.mp hreturns).1
    | enqueue row kind key payload threadId contentRef =>
      exact hs.enqueue hpayload (returnsAt_enqueueStatements.mp hreturns)
  · exact hs

theorem recorded_of_empty (houtbox : db.outbox = []) (hblobs : db.artifactBlobs = []) :
    Recorded crypto payloads db := by
  refine ⟨?_, ?_, ?_⟩
  · rw [houtbox]
    exact List.nodup_nil
  · intro ref b hb
    unfold Database.blob? at hb
    rw [hblobs] at hb
    cases hb
  · intro key row hrow
    unfold Database.outboxForKey? at hrow
    rw [houtbox] at hrow
    cases hrow

variable {row : RowDefaults} {kind : OutboxKind} {key : String} {payload : Dict}
  {threadId : Option UUID} {contentRef : Option String} {existing : FeishuOutbox}
  {b : ArtifactBlob}

/-- The payload whose digest is stored under the key is not stored again. -/
theorem enqueue_again (hrow : db.outboxForKey? key = some existing)
    (hb : db.blob? existing.payloadRef = some b) (hsha : b.sha256 = stableHash crypto payload) :
    ReturnsAt (enqueueStatements crypto row kind key payload threadId contentRef) db
      existing.payloadRef db := by
  refine returnsAt_enqueueStatements.mpr ?_
  simp only [enqueueJson, hrow, ensureExistingPayloadMatches, hb, hsha, if_true]
  rfl

theorem enqueue_other (hrow : db.outboxForKey? key = some existing)
    (hb : db.blob? existing.payloadRef = some b) (hsha : b.sha256 ≠ stableHash crypto payload) :
    ∃ message, RaisesAt (enqueueStatements crypto row kind key payload threadId contentRef) db
      (.outboxPayloadConflict message) db := by
  have hconflict : enqueueJson crypto row kind key payload threadId contentRef db =
      .error (.outboxPayloadConflict
        s!"idempotency_key {key} already exists with a different payload") := by
    simp only [enqueueJson, hrow, ensureExistingPayloadMatches, hb, if_neg hsha]
    rfl
  exact ⟨_, raisesAt_of_conflict hconflict⟩

theorem enqueue_taken (hkey : db.outboxForKey? key = none)
    (hb : db.blob? (resolvedContentRef crypto payload contentRef) = some b)
    (hsha : b.sha256 ≠ stableHash crypto payload) :
    ∃ message, RaisesAt (enqueueStatements crypto row kind key payload threadId contentRef) db
      (.outboxPayloadConflict message) db := by
  have hconflict : enqueueJson crypto row kind key payload threadId contentRef db =
      .error (.outboxPayloadConflict ("content_ref " ++ resolvedContentRef crypto payload contentRef ++
        " already exists with a different payload")) := by
    simp only [enqueueJson_of_none hkey, storeJsonPayload, hb, ensureArtifactPayloadMatches,
      if_pos hsha]
    rfl
  exact ⟨_, raisesAt_of_conflict hconflict⟩

end Recorded

open Session Transition

/-- The call that enqueued the row, and the payload that is stored for it. -/
structure EnqueuedFirst (crypto : Crypto) (db₀ db : Database) (tr : List StoreOp)
    (row : FeishuOutbox) (payload : Dict) : Prop where
  call : ∃ u v defaults kind threadId contentRef,
    Takes (StoreOp.step crypto) db₀ tr db u
      (.enqueue defaults kind row.idempotencyKey payload threadId contentRef) v ∧
    u.outboxForKey? row.idempotencyKey = none ∧
    ReturnsAt (enqueueStatements crypto defaults kind row.idempotencyKey payload threadId contentRef)
      u row.payloadRef v
  stored : ∃ b p, db.blob? row.payloadRef = some b ∧ b.contentJson = .obj p ∧
    canonical p = canonical payload ∧ b.sha256 = stableHash crypto payload

/-- The law of the durable outbox after the calls of `tr`. -/
structure DurableEnqueue (crypto : Crypto) (db₀ db : Database) (tr : List StoreOp) : Prop where
  oneRow : Table.Unique FeishuOutbox.idempotencyKey db.outbox
  first : ∀ row ∈ db.outbox, ∃ payload, EnqueuedFirst crypto db₀ db tr row payload
  /-- Nothing that is there changes. -/
  kept : ∀ later db', exec (StoreOp.step crypto) db later = some db' →
    (∀ row ∈ db.outbox, row ∈ db'.outbox) ∧
      ∀ ref b, db.blob? ref = some b → db'.blob? ref = some b
  again : ∀ row payload, EnqueuedFirst crypto db₀ db tr row payload → row ∈ db.outbox →
    ∀ defaults kind payload' threadId contentRef, canonical payload' = canonical payload →
      ReturnsAt (enqueueStatements crypto defaults kind row.idempotencyKey payload' threadId
        contentRef) db row.payloadRef db
  other : ∀ row payload, EnqueuedFirst crypto db₀ db tr row payload → row ∈ db.outbox →
    ∀ defaults kind payload' threadId contentRef, canonical payload' ≠ canonical payload →
      DigestsTell crypto [payload, payload'] →
      ∃ message, RaisesAt (enqueueStatements crypto defaults kind row.idempotencyKey payload'
        threadId contentRef) db (.outboxPayloadConflict message) db
  /-- A new key whose ref holds another payload. -/
  taken : ∀ defaults kind key payload threadId contentRef b p, db.outboxForKey? key = none →
    db.blob? (resolvedContentRef crypto payload contentRef) = some b → b.contentJson = .obj p →
    canonical p ≠ canonical payload → DigestsTell crypto [p, payload] →
    ∃ message, RaisesAt (enqueueStatements crypto defaults kind key payload threadId contentRef) db
      (.outboxPayloadConflict message) db

section Law

variable {crypto : Crypto} {db₀ db db' : Database} {tr : List StoreOp}

theorem StoreOp.step_rows {op : StoreOp} (h : op.step crypto db = some db') :
    ∀ row ∈ db.outbox, row ∈ db'.outbox := by
  intro row hrow
  rcases StoreOp.step_cases h with ⟨ref, hreturns⟩ | rfl
  · cases op with
    | store contentRef payload rawText =>
      rw [storeJsonPayload_frame (returnsAt_store.mp hreturns).1]
      exact hrow
    | enqueue defaults kind key payload threadId contentRef =>
      rcases enqueueJson_cases (returnsAt_enqueueStatements.mp hreturns) with
        ⟨_, _, _, rfl⟩ | ⟨_, _, db₁, hstore, hinsert⟩
      · exact hrow
      · obtain ⟨_, _, _, rfl⟩ := Database.insertOutbox_eq_ok.mp hinsert
        rw [storeJsonPayload_frame hstore]
        exact List.mem_append_left _ hrow
  · exact hrow

theorem exec_store_kept {later : List StoreOp}
    (hrun : exec (StoreOp.step crypto) db later = some db') :
    (∀ row ∈ db.outbox, row ∈ db'.outbox) ∧ db.Grows db' := by
  have hstep : ∀ s op t, ((∀ row ∈ db.outbox, row ∈ s.outbox) ∧ db.Grows s) → True →
      StoreOp.step crypto s op = some t → (∀ row ∈ db.outbox, row ∈ t.outbox) ∧ db.Grows t := by
    rintro s op t ⟨hrows, hgrows⟩ _ h
    exact ⟨fun row hrow => StoreOp.step_rows h row (hrows row hrow),
      hgrows.trans (StoreOp.step_grows h)⟩
  exact exec_invariant _ hstep ⟨fun _ hrow => hrow, .refl db⟩
    (along_iff_forall.mpr fun _ _ _ _ _ _ => trivial) hrun

/-- A row is there once it has been enqueued. -/
theorem enqueuedFirst_of_mem (hempty : db₀.outbox = []) (hblobs : db₀.artifactBlobs = [])
    (hsha : DigestsTell crypto (tr.map StoreOp.payload))
    (hrun : exec (StoreOp.step crypto) db₀ tr = some db)
    (hunique : Table.Unique FeishuOutbox.idempotencyKey db.outbox) {row : FeishuOutbox}
    (hrow : row ∈ db.outbox) : ∃ payload, EnqueuedFirst crypto db₀ db tr row payload := by
  have hnone : ¬(db₀.outboxForKey? row.idempotencyKey).isSome = true := by
    unfold Database.outboxForKey?
    rw [hempty]
    simp
  have hfind : db.outboxForKey? row.idempotencyKey = some row :=
    (Table.find_eq_some_iff hunique).mpr ⟨hrow, rfl⟩
  obtain ⟨u, op, v, htakes, hbefore, hafter⟩ :=
    exec_begins (fun t => (t.outboxForKey? row.idempotencyKey).isSome = true) hnone
      (Option.isSome_iff_exists.mpr ⟨row, hfind⟩) hrun
  obtain ⟨pre, post, htr, hpre, hstep, hpost⟩ := htakes
  have hrecorded : Recorded crypto (tr.map StoreOp.payload) u := by
    refine exec_invariant (Recorded crypto (tr.map StoreOp.payload))
      (fun s op t hs hop h => hs.step hop h) (recorded_of_empty hempty hblobs)
      (along_iff_forall.mpr ?_) hpre
    rintro front o back _ rfl _
    rw [htr]
    simp
  have hgrows := (exec_store_kept hpost).2
  rcases StoreOp.step_cases hstep with ⟨ref, hreturns⟩ | rfl
  · cases op with
    | store contentRef payload rawText =>
      rw [storeJsonPayload_frame (returnsAt_store.mp hreturns).1] at hafter
      exact absurd hafter hbefore
    | enqueue defaults kind key payload threadId contentRef =>
      have henqueue := returnsAt_enqueueStatements.mp hreturns
      have hkey : row.idempotencyKey = key :=
        ((isSome_outboxForKey?_enqueueJson henqueue).mp hafter).resolve_left hbefore
      subst hkey
      obtain ⟨written, hwritten, href⟩ := outboxForKey?_enqueueJson henqueue
      obtain ⟨_, hkept, hsame⟩ := hgrows.outbox hwritten
      obtain rfl := Option.some.inj (hfind.symm.trans hkept)
      have hrefRow : row.payloadRef = ref := hsame.payloadRef.trans href
      rcases enqueueJson_cases henqueue with
        ⟨existing, hexisting, _⟩ | ⟨hfresh, _, db₁, hstore, hinsert⟩
      · exact absurd (Option.isSome_iff_exists.mpr ⟨existing, hexisting⟩) hbefore
      · obtain ⟨b, hb, hdigest⟩ := blob?_storeJsonPayload hstore
        have hmem : payload ∈ tr.map StoreOp.payload := by
          rw [htr]
          simp [StoreOp.payload]
        obtain ⟨p, hp, hcontent, hpdigest⟩ := (hrecorded.store hmem hstore).blobs ref b hb
        refine ⟨payload, ⟨u, v, defaults, kind, threadId, contentRef,
          ⟨pre, post, htr, hpre, hstep, hpost⟩, hfresh, ?_⟩, b, p, ?_, hcontent, ?_, hdigest⟩
        · rw [hrefRow]
          exact hreturns
        · rw [hrefRow]
          exact hgrows.blobs ((Database.Grows.insertOutbox hinsert).blobs hb)
        · exact hsha p hp payload hmem (hpdigest.symm.trans hdigest)
  · exact absurd hafter hbefore

theorem durableEnqueue (hempty : db₀.outbox = []) (hblobs : db₀.artifactBlobs = [])
    (hsha : DigestsTell crypto (tr.map StoreOp.payload))
    (hrun : exec (StoreOp.step crypto) db₀ tr = some db) : DurableEnqueue crypto db₀ db tr := by
  have hrecorded : Recorded crypto (tr.map StoreOp.payload) db := by
    refine exec_invariant (Recorded crypto (tr.map StoreOp.payload))
      (fun s op t hs hop h => hs.step hop h) (recorded_of_empty hempty hblobs)
      (along_iff_forall.mpr ?_) hrun
    rintro front o back _ rfl _
    simp
  have hfind : ∀ row ∈ db.outbox, db.outboxForKey? row.idempotencyKey = some row :=
    fun row hrow => (Table.find_eq_some_iff hrecorded.rows).mpr ⟨hrow, rfl⟩
  have hdigest : ∀ {p q : Dict},
      canonical p = canonical q → stableHash crypto p = stableHash crypto q :=
    fun h => congrArg (sha256Hex crypto) h
  refine ⟨hrecorded.rows, fun row hrow => ?_, fun later db' hlater => ?_, ?_, ?_, ?_⟩
  · exact enqueuedFirst_of_mem hempty hblobs hsha hrun hrecorded.rows hrow
  · obtain ⟨hrows, hgrows⟩ := exec_store_kept hlater
    exact ⟨hrows, fun ref b hb => hgrows.blobs hb⟩
  · intro row payload hfirst hrow defaults kind payload' threadId contentRef hsame
    obtain ⟨b, p, hb, _, _, hsha'⟩ := hfirst.stored
    exact enqueue_again (hfind row hrow) hb (hsha'.trans (hdigest hsame).symm)
  · intro row payload hfirst hrow defaults kind payload' threadId contentRef hother htell
    obtain ⟨b, p, hb, _, _, hsha'⟩ := hfirst.stored
    refine enqueue_other (hfind row hrow) hb ?_
    intro heq
    exact hother (htell payload (by simp) payload' (by simp) (hsha'.symm.trans heq)).symm
  · intro defaults kind key payload threadId contentRef b p hkey hb hcontent hother htell
    refine enqueue_taken hkey hb ?_
    intro heq
    obtain ⟨q, _, hq, hqdigest⟩ := hrecorded.blobs _ b hb
    obtain rfl := Json.obj.inj (hcontent.symm.trans hq)
    exact hother (htell p (by simp) payload (by simp) (hqdigest.symm.trans heq))

end Law

def cardPayload (n : Int) : Dict := [("card", .int n)]

def enqueueCards : List StoreOp :=
  [.enqueue ⟨.ofNat 1, 0⟩ .cardSend "card" (cardPayload 1) none none,
    .enqueue ⟨.ofNat 2, 0⟩ .cardSend "card" (cardPayload 1) none (some "artifact://other"),
    .enqueue ⟨.ofNat 3, 0⟩ .cardSend "card" (cardPayload 2) none none]

/-- The three calls leave one row, and its payload can be enqueued once more. -/
theorem durableEnqueue_enqueueCards : ∃ db row payload,
    exec (StoreOp.step Crypto.plain) {} enqueueCards = some db ∧ db.outbox = [row] ∧
      EnqueuedFirst Crypto.plain {} db enqueueCards row payload ∧
      ReturnsAt (enqueueStatements Crypto.plain ⟨.ofNat 4, 0⟩ .cardSend row.idempotencyKey payload
        none (some "artifact://another")) db row.payloadRef db := by
  have htell : DigestsTell Crypto.plain [cardPayload 1, cardPayload 2] := by
    unfold DigestsTell
    decide +kernel
  have hall : DigestsTell Crypto.plain (enqueueCards.map StoreOp.payload) := by
    intro p hp q hq
    refine htell p ?_ q ?_
    · simpa [enqueueCards, StoreOp.payload] using hp
    · simpa [enqueueCards, StoreOp.payload] using hq
  have hone : (exec (StoreOp.step Crypto.plain) {} enqueueCards).any (fun db =>
      db.outbox.length = 1) = true := by
    decide +kernel
  obtain ⟨db, hrun, hdb⟩ := (Option.any_eq_true _ _).mp hone
  obtain ⟨row, hrow⟩ := List.length_eq_one_iff.mp (of_decide_eq_true hdb)
  have hlaw := durableEnqueue rfl rfl hall hrun
  have hmem : row ∈ db.outbox := by
    rw [hrow]
    exact List.mem_singleton_self row
  obtain ⟨payload, hfirst⟩ := hlaw.first row hmem
  exact ⟨db, row, payload, hrun, hrow, hfirst, hlaw.again row payload hfirst hmem _ _ _ _ _ rfl⟩

end Headhunt.Storage
