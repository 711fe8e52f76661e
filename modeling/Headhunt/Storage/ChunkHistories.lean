import Headhunt.Storage.BitableSync

/-! Chunks over histories of successes and failures: a success may be recorded again, and what
was recorded first survives a conflict. -/
namespace Headhunt.Storage
open Py

def FeishuBitableRecordMap.assign (row old : FeishuBitableRecordMap) : FeishuBitableRecordMap :=
  { old with recordId := row.recordId }

def recordMapRow (appToken tableId : String) (write : Json × String) :
    Except BitableSyncError FeishuBitableRecordMap :=
  match entityField write.1 "entity_id", entityField write.1 "entity_type" with
  | .error exc, _ | _, .error exc => .error exc
  | .ok entityId, .ok entityType =>
    match UUID.parse entityId with
    | none => .error (.valueError (UUID.errorText entityId))
    | some id => .ok ⟨entityType, id, appToken, tableId, write.2⟩

section RecordMaps

variable {appToken tableId : String} {db db' : WorkerDatabase}

theorem upsertRecordMap_eq_ok {row : FeishuBitableRecordMap} (h : db.upsertRecordMap row = .ok db') :
    db' = { db with
      bitableRecordMaps :=
        Table.upsert FeishuBitableRecordMap.entity row row.assign db.bitableRecordMaps } := by
  unfold WorkerDatabase.upsertRecordMap at h
  rw [Except.ite_error_eq_ok] at h
  exact (Except.ok.inj h.2).symm

theorem upsertRecordMaps_cons {write : Json × String} {writes : List (Json × String)} :
    upsertRecordMaps appToken tableId (write :: writes) =
      (match recordMapRow appToken tableId write with
      | .error exc => throw exc
      | .ok row => statement fun db => db.upsertRecordMap row) >>= fun _ =>
        upsertRecordMaps appToken tableId writes := by
  obtain ⟨ref, recordId⟩ := write
  simp only [upsertRecordMaps, recordMapRow]
  generalize entityField ref "entity_id" = entityId
  generalize entityField ref "entity_type" = entityType
  cases entityId with
  | error exc => rfl
  | ok entityId =>
    cases entityType with
    | error exc => rfl
    | ok entityType =>
      dsimp only
      cases UUID.parse entityId with
      | none => rfl
      | some id => rfl

/-- Maps that have been recorded are those of the refs, one upsert for each. -/
theorem upsertRecordMaps_returns {writes : List (Json × String)}
    (h : Session.ReturnsAt (upsertRecordMaps appToken tableId writes) db () db') :
    ∃ rows, writes.mapM (recordMapRow appToken tableId) = .ok rows ∧
      db' = { db with
        bitableRecordMaps :=
          Table.upsertAll FeishuBitableRecordMap.entity FeishuBitableRecordMap.assign rows
            db.bitableRecordMaps } := by
  induction writes generalizing db with
  | nil =>
    obtain ⟨-, rfl⟩ := Session.returnsAt_pure.mp h
    exact ⟨[], rfl, rfl⟩
  | cons write writes ih =>
    rw [upsertRecordMaps_cons, Session.returnsAt_bind] at h
    obtain ⟨_, mid, hwrite, hrest⟩ := h
    cases hrow : recordMapRow appToken tableId write with
    | error exc => simp [hrow] at hwrite
    | ok row =>
      simp only [hrow, statement, Session.returnsAt_statement] at hwrite
      obtain ⟨rows, hrows, rfl⟩ := ih hrest
      refine ⟨row :: rows, ?_, ?_⟩
      · rw [List.mapM_cons, hrow, hrows]
        rfl
      · rw [upsertRecordMap_eq_ok hwrite]
        rfl

/-- The record maps are all that the refs change. -/
theorem upsertRecordMaps_endsAt {writes : List (Json × String)}
    (h : Session.EndsAt (upsertRecordMaps appToken tableId writes) db db') :
    db'.bitableChunks = db.bitableChunks := by
  induction writes generalizing db with
  | nil =>
    rw [upsertRecordMaps, Session.endsAt_pure] at h
    rw [h]
  | cons write writes ih =>
    rw [upsertRecordMaps_cons, Session.endsAt_bind] at h
    cases hrow : recordMapRow appToken tableId write with
    | error exc =>
      simp only [hrow, Session.raisesAt_throw, Session.not_returnsAt_throw, false_and,
        exists_false, or_false] at h
      obtain ⟨_, _, rfl⟩ := h
      rfl
    | ok row =>
      simp only [hrow, statement, Session.returnsAt_statement] at h
      rcases h with ⟨exc, hraises⟩ | ⟨_, mid, hwrite, hrest⟩
      · obtain ⟨_, _, _, rfl⟩ := Session.raisesAt_statement.mp hraises
        rfl
      · rw [ih hrest, upsertRecordMap_eq_ok hwrite]

end RecordMaps

section Success

variable {crypto : Crypto} {chunk : ChunkWrite} {recordIds : List String} {entityRefs : List Json}
  {db db' : WorkerDatabase}

def ChunkWrite.succeed (crypto : Crypto) (chunk : ChunkWrite) (recordIds : List String)
    (old : FeishuBitableWriteChunk) : FeishuBitableWriteChunk :=
  { old with
    status := .succeeded
    payloadHash := chunk.resolvedPayloadHash crypto
    recordIds := recordIds
    lastError := none }

theorem upsertChunk_eq_ok {row : FeishuBitableWriteChunk}
    {values : FeishuBitableWriteChunk → FeishuBitableWriteChunk}
    (h : db.upsertChunk row values = .ok db') :
    db' = { db with
      bitableChunks :=
        Table.upsert FeishuBitableWriteChunk.clientToken row values db.bitableChunks } := by
  unfold WorkerDatabase.upsertChunk at h
  rw [Except.ite_error_eq_ok] at h
  exact (Except.ok.inj h.2).symm

/-- What a success that returns has checked and written. -/
theorem recordChunkSuccess_returns
    (h : Session.ReturnsAt (recordChunkSuccess crypto chunk recordIds entityRefs) db () db') :
    validateBitableResultLengths chunk.records recordIds entityRefs = .ok () ∧
      clientTokenConflictReason chunk.clientToken (chunk.resolvedPayloadHash crypto) recordIds db =
        none ∧
      ∃ rows, (entityRefs.zip recordIds).mapM (recordMapRow chunk.appToken chunk.tableId) =
          .ok rows ∧
        db' = { db with
          bitableChunks := Table.upsert FeishuBitableWriteChunk.clientToken
            (chunk.row crypto .succeeded recordIds none) (chunk.succeed crypto recordIds)
            db.bitableChunks
          bitableRecordMaps :=
            Table.upsertAll FeishuBitableRecordMap.entity FeishuBitableRecordMap.assign rows
              db.bitableRecordMaps } := by
  unfold recordChunkSuccess at h
  cases hlengths : validateBitableResultLengths chunk.records recordIds entityRefs with
  | error exc => simp [hlengths, Session.returnsAt_bind] at h
  | ok _ =>
    simp only [hlengths, Session.returnsAt_bind, Session.returnsAt_get] at h
    obtain ⟨_, _, ⟨rfl, rfl⟩, h⟩ := h
    cases hreason : clientTokenConflictReason chunk.clientToken (chunk.resolvedPayloadHash crypto)
        recordIds db with
    | some reason => simp [hreason, Session.returnsAt_bind] at h
    | none =>
      simp only [hreason, Session.returnsAt_bind] at h
      obtain ⟨_, mid, hmark, hmaps⟩ := h
      simp only [markChunkSucceeded, statement, Session.returnsAt_statement] at hmark
      have hmid := upsertChunk_eq_ok hmark
      obtain ⟨rows, hrows, rfl⟩ := upsertRecordMaps_returns hmaps
      refine ⟨rfl, rfl, rows, hrows, ?_⟩
      rw [hmid]
      rfl

/-- The recorded chunk carries the hash and the ids of the success. -/
theorem chunk?_of_returns
    (h : Session.ReturnsAt (recordChunkSuccess crypto chunk recordIds entityRefs) db () db') :
    ∃ c, db'.chunk? chunk.clientToken = some c ∧
      c.payloadHash = chunk.resolvedPayloadHash crypto ∧ c.recordIds = recordIds ∧
      c.status = .succeeded := by
  obtain ⟨_, _, rows, _, rfl⟩ := recordChunkSuccess_returns h
  refine ⟨_, @Table.find_upsert_self _ _ _ FeishuBitableWriteChunk.clientToken
    (chunk.row crypto .succeeded recordIds none) (chunk.succeed crypto recordIds) (fun _ => rfl)
    db.bitableChunks, ?_⟩
  generalize Table.find FeishuBitableWriteChunk.clientToken _ db.bitableChunks = old
  cases old <;> exact ⟨rfl, rfl, rfl⟩

theorem entityField_ne_conflict {ref : Json} {key reason : String} :
    entityField ref key ≠ .error (.clientTokenConflict reason) := by
  intro h
  unfold entityField at h
  split at h
  · split at h <;> cases h
  · cases h

theorem validateBitableResultLengths_ne_conflict {records : List Json} {reason : String} :
    validateBitableResultLengths records recordIds entityRefs ≠
      .error (.clientTokenConflict reason) := by
  have hfields : ∀ refs : List Json, (refs.forM fun ref => do
      let _ ← entityField ref "entity_type"
      let _ ← entityField ref "entity_id") ≠ .error (.clientTokenConflict reason) := by
    intro refs h
    induction refs with
    | nil => cases h
    | cons ref refs ih =>
      rw [List.forM_eq_forM, List.forM_cons] at h
      rcases Except.bind_eq_error.mp h with h | ⟨_, _, h⟩
      · rcases Except.bind_eq_error.mp h with h | ⟨_, _, h⟩
        · exact entityField_ne_conflict h
        · rcases Except.bind_eq_error.mp h with h | ⟨_, _, h⟩
          · exact entityField_ne_conflict h
          · cases h
      · exact ih h
  intro h
  unfold validateBitableResultLengths at h
  split_ifs at h
  · cases h
  · cases h
  · exact hfields _ h

theorem recordMapRow_ne_conflict {appToken tableId reason : String} {write : Json × String} :
    recordMapRow appToken tableId write ≠ .error (.clientTokenConflict reason) := by
  intro h
  unfold recordMapRow at h
  cases hid : entityField write.1 "entity_id" with
  | error exc =>
    simp only [hid, Except.error.injEq] at h
    exact entityField_ne_conflict (h ▸ hid)
  | ok entityId =>
    cases htype : entityField write.1 "entity_type" with
    | error exc =>
      simp only [hid, htype, Except.error.injEq] at h
      exact entityField_ne_conflict (h ▸ htype)
    | ok entityType =>
      simp only [hid, htype] at h
      split at h <;> cases h

theorem upsertRecordMaps_not_conflict {appToken tableId reason : String}
    {writes : List (Json × String)} : ¬Session.RaisesAt
      (upsertRecordMaps appToken tableId writes) db (.clientTokenConflict reason) db' := by
  intro h
  induction writes generalizing db with
  | nil => cases h
  | cons write writes ih =>
    rw [upsertRecordMaps_cons, Session.raisesAt_bind] at h
    cases hrow : recordMapRow appToken tableId write with
    | error exc =>
      simp only [hrow, Session.raisesAt_throw, Session.not_returnsAt_throw, false_and,
        exists_false, or_false] at h
      obtain ⟨rfl, _⟩ := h
      exact recordMapRow_ne_conflict hrow
    | ok row =>
      rcases h with h | ⟨_, mid, _, h⟩
      · simp only [hrow] at h
        obtain ⟨_, _, hexc, _⟩ := Session.raisesAt_statement.mp h
        cases hexc
      · exact ih h

/-- A conflict is raised only for a token in conflict. -/
theorem conflictReason_of_raises {reason : String}
    (h : Session.RaisesAt (recordChunkSuccess crypto chunk recordIds entityRefs) db
      (.clientTokenConflict reason) db') :
    clientTokenConflictReason chunk.clientToken (chunk.resolvedPayloadHash crypto) recordIds db =
      some reason := by
  unfold recordChunkSuccess at h
  cases hlengths : validateBitableResultLengths chunk.records recordIds entityRefs with
  | error exc =>
    simp only [hlengths, Session.raisesAt_bind, Session.raisesAt_throw,
      Session.not_returnsAt_throw, false_and, exists_false, or_false] at h
    obtain ⟨rfl, _⟩ := h
    exact absurd hlengths validateBitableResultLengths_ne_conflict
  | ok _ =>
    simp only [hlengths, Session.raisesAt_bind, Session.not_raisesAt_get, false_or,
      Session.returnsAt_get] at h
    obtain ⟨_, _, ⟨rfl, rfl⟩, h⟩ := h
    cases hreason : clientTokenConflictReason chunk.clientToken (chunk.resolvedPayloadHash crypto)
        recordIds db with
    | some reason' =>
      simp only [hreason, Session.raisesAt_bind, Session.raisesAt_throw] at h
      rcases h with h | ⟨_, _, _, hthrown, _⟩
      · obtain ⟨_, _, hexc, _⟩ := Session.raisesAt_statement.mp h
        cases hexc
      · cases hthrown
        rfl
    | none =>
      simp only [hreason, Session.raisesAt_bind] at h
      rcases h with h | ⟨_, _, _, h⟩
      · obtain ⟨_, _, hexc, _⟩ := Session.raisesAt_statement.mp h
        cases hexc
      · exact absurd h upsertRecordMaps_not_conflict

end Success

/-- The same write, at least by its token, its table and its hash. -/
structure ChunkWrite.Repeats (crypto : Crypto) (again chunk : ChunkWrite) : Prop where
  clientToken : again.clientToken = chunk.clientToken
  appToken : again.appToken = chunk.appToken
  tableId : again.tableId = chunk.tableId
  payloadHash : again.resolvedPayloadHash crypto = chunk.resolvedPayloadHash crypto

section Again

variable {crypto : Crypto} {chunk again : ChunkWrite} {recordIds : List String}
  {entityRefs : List Json} {db db' : WorkerDatabase}

theorem upsertChunks_again (hagain : again.Repeats crypto chunk)
    (t : List FeishuBitableWriteChunk) :
    Table.upsert FeishuBitableWriteChunk.clientToken (again.row crypto .succeeded recordIds none)
        (again.succeed crypto recordIds)
        (Table.upsert FeishuBitableWriteChunk.clientToken
          (chunk.row crypto .succeeded recordIds none) (chunk.succeed crypto recordIds) t) =
      Table.upsert FeishuBitableWriteChunk.clientToken
        (chunk.row crypto .succeeded recordIds none) (chunk.succeed crypto recordIds) t := by
  have hsucceed : again.succeed crypto recordIds = chunk.succeed crypto recordIds := by
    unfold ChunkWrite.succeed
    rw [hagain.payloadHash]
  have hfind : (Table.find FeishuBitableWriteChunk.clientToken
      (again.row crypto .succeeded recordIds none).clientToken
      (Table.upsert FeishuBitableWriteChunk.clientToken
        (chunk.row crypto .succeeded recordIds none)
        (chunk.succeed crypto recordIds) t)).isSome := by
    apply Table.find_upsert_isSome
    · exact fun _ => rfl
    · exact Or.inr hagain.clientToken.symm
  have hkey : (again.row crypto .succeeded recordIds none).clientToken =
      (chunk.row crypto .succeeded recordIds none).clientToken := hagain.clientToken
  rw [Table.upsert, if_pos hfind, hsucceed]
  apply Table.modify_eq_self
  intro row hrow htoken
  apply Table.set_of_mem_upsert _ _ hrow (htoken.trans hkey)
  · exact fun _ => rfl
  · rfl

/-- Recording a success again changes nothing, whether it returns or not. -/
theorem transaction_again
    (h : Session.ReturnsAt (recordChunkSuccess crypto chunk recordIds entityRefs) db () db')
    (hagain : again.Repeats crypto chunk) :
    (Session.transaction (recordChunkSuccess crypto again recordIds entityRefs) db').2 = db' := by
  cases hrun : (recordChunkSuccess crypto again recordIds entityRefs).run db' with
  | error exc view => rw [Session.transaction_of_raises hrun]
  | ok _ view =>
    rw [Session.transaction_of_returns hrun]
    obtain ⟨_, _, rows, hrows, rfl⟩ := recordChunkSuccess_returns h
    obtain ⟨_, _, rows', hrows', rfl⟩ := recordChunkSuccess_returns hrun
    rw [hagain.appToken, hagain.tableId, hrows] at hrows'
    obtain rfl := Except.ok.inj hrows'
    have hchunks := @upsertChunks_again _ _ _ recordIds hagain db.bitableChunks
    have hmaps := @Table.upsertAll_again _ _ _ FeishuBitableRecordMap.entity
      FeishuBitableRecordMap.assign (fun _ _ => rfl) (fun _ _ _ => rfl) (fun _ => rfl) rows
      db.bitableRecordMaps
    simp only [hchunks, hmaps]

/-- A success that is recorded is in no conflict with itself. -/
theorem not_conflict_again
    (h : Session.ReturnsAt (recordChunkSuccess crypto chunk recordIds entityRefs) db () db')
    (hagain : again.Repeats crypto chunk) (reason : String) (view : WorkerDatabase) :
    ¬Session.RaisesAt (recordChunkSuccess crypto again recordIds entityRefs) db'
      (.clientTokenConflict reason) view := by
  intro hraises
  obtain ⟨c, hc, hhash, hids, _⟩ := chunk?_of_returns h
  have hreason := conflictReason_of_raises hraises
  unfold clientTokenConflictReason at hreason
  rw [hagain.clientToken, hagain.payloadHash, hc] at hreason
  simp [hhash, hids] at hreason

end Again

section Conflict

variable {crypto : Crypto} {chunk : ChunkWrite} {recordIds : List String}
  {entityRefs : List Json} {db : WorkerDatabase} {existing : FeishuBitableWriteChunk}

/-- The hash differs from the recorded one, or the ids do and some are recorded. -/
def Clashes (crypto : Crypto) (chunk : ChunkWrite) (recordIds : List String)
    (existing : FeishuBitableWriteChunk) : Prop :=
  existing.payloadHash ≠ chunk.resolvedPayloadHash crypto ∨
    existing.recordIds ≠ [] ∧ existing.recordIds ≠ recordIds

/-- The success raises a conflict: the chunk is marked with the reason, and its hash, its ids
and the record maps are as they were. -/
def MarksConflict (crypto : Crypto) (chunk : ChunkWrite) (recordIds : List String)
    (entityRefs : List Json) (db : WorkerDatabase) (existing : FeishuBitableWriteChunk) : Prop :=
  ∃ reason view c,
    Session.RaisesAt (recordChunkSuccess crypto chunk recordIds entityRefs) db
      (.clientTokenConflict reason) view ∧
    view.chunk? chunk.clientToken = some c ∧ c.status = .conflict ∧ c.lastError = some reason ∧
    c.payloadHash = existing.payloadHash ∧ c.recordIds = existing.recordIds ∧
    view.bitableRecordMaps = db.bitableRecordMaps

theorem exists_conflictReason (hexisting : db.chunk? chunk.clientToken = some existing)
    (h : Clashes crypto chunk recordIds existing) :
    ∃ reason, clientTokenConflictReason chunk.clientToken (chunk.resolvedPayloadHash crypto)
      recordIds db = some reason := by
  unfold clientTokenConflictReason
  rw [hexisting]
  dsimp only
  by_cases hhash : existing.payloadHash = chunk.resolvedPayloadHash crypto
  · have hids := h.resolve_left (not_not.mpr hhash)
    rw [if_neg (not_not.mpr hhash), if_pos hids]
    exact ⟨_, rfl⟩
  · rw [if_pos hhash]
    exact ⟨_, rfl⟩

theorem marksConflict (hexisting : db.chunk? chunk.clientToken = some existing)
    (h : Clashes crypto chunk recordIds existing)
    (hlengths : validateBitableResultLengths chunk.records recordIds entityRefs = .ok ()) :
    MarksConflict crypto chunk recordIds entityRefs db existing := by
  obtain ⟨reason, hreason⟩ := exists_conflictReason hexisting h
  have hfind : (markConflict crypto chunk reason db).chunk? chunk.clientToken =
      some (((db.chunk? chunk.clientToken).map fun old =>
        { old with status := .conflict, lastError := some reason }).getD
          (chunk.row crypto .conflict [] (some reason))) :=
    @Table.find_upsert_self _ _ _ FeishuBitableWriteChunk.clientToken
      (chunk.row crypto .conflict [] (some reason))
      (fun old => { old with status := .conflict, lastError := some reason }) (fun _ => rfl)
      db.bitableChunks
  rw [hexisting] at hfind
  exact ⟨reason, _, _, recordChunkSuccess_conflict hlengths hreason, hfind, rfl, rfl, rfl, rfl, rfl⟩

end Conflict

inductive ChunkCall
  | success (chunk : ChunkWrite) (recordIds : List String) (entityRefs : List Json)
  | failure (chunk : ChunkWrite) (error : String) (status : ChunkStatus)

section Histories

variable (crypto : Crypto)

def ChunkCall.work : ChunkCall → SyncWork Unit
  | .success chunk recordIds entityRefs => recordChunkSuccess crypto chunk recordIds entityRefs
  | .failure chunk error status => recordChunkFailure crypto chunk error status

/-- The tables after a call. When the call raises, its caller keeps what the session sees or
rolls it back; after an `IntegrityError` there is nothing to keep. -/
def afterCall (db : WorkerDatabase) (call : ChunkCall × Bool) : WorkerDatabase :=
  match (call.1.work crypto).run db with
  | .ok _ view => view
  | .error (.storage _) _ => db
  | .error _ view => if call.2 then view else db

def afterCalls (calls : List (ChunkCall × Bool)) (db : WorkerDatabase) : WorkerDatabase :=
  calls.foldl (afterCall crypto) db

/-- The hash of every chunk stays, and its ids stay once there are some. -/
def Survives (db view : WorkerDatabase) : Prop :=
  ∀ token c, db.chunk? token = some c →
    ∃ c', view.chunk? token = some c' ∧ c'.payloadHash = c.payloadHash ∧
      (c.recordIds ≠ [] → c'.recordIds = c.recordIds)

/-- What a repository of chunks must do next, given what it holds. -/
structure ChunkRecording (db : WorkerDatabase) : Prop where
  repeated : ∀ chunk recordIds entityRefs db₁,
    Session.ReturnsAt (recordChunkSuccess crypto chunk recordIds entityRefs) db () db₁ →
    (∃ c, db₁.chunk? chunk.clientToken = some c ∧
      c.payloadHash = chunk.resolvedPayloadHash crypto ∧ c.recordIds = recordIds ∧
      c.status = .succeeded) ∧
    ∀ again, ChunkWrite.Repeats crypto again chunk →
      (Session.transaction (recordChunkSuccess crypto again recordIds entityRefs) db₁).2 = db₁ ∧
      ∀ reason view, ¬Session.RaisesAt (recordChunkSuccess crypto again recordIds entityRefs) db₁
        (.clientTokenConflict reason) view
  conflict : ∀ chunk recordIds entityRefs existing,
    db.chunk? chunk.clientToken = some existing → Clashes crypto chunk recordIds existing →
    validateBitableResultLengths chunk.records recordIds entityRefs = .ok () →
    MarksConflict crypto chunk recordIds entityRefs db existing

variable {crypto} {db view mid : WorkerDatabase}

theorem Survives.refl (db : WorkerDatabase) : Survives db db :=
  fun _ c h => ⟨c, h, rfl, fun _ => rfl⟩

theorem Survives.trans (h : Survives db mid) (h' : Survives mid view) : Survives db view := by
  intro token c hc
  obtain ⟨c₁, hc₁, hhash₁, hids₁⟩ := h token c hc
  obtain ⟨c₂, hc₂, hhash₂, hids₂⟩ := h' token c₁ hc₁
  refine ⟨c₂, hc₂, hhash₂.trans hhash₁, ?_⟩
  intro hids
  have hmid : c₁.recordIds = c.recordIds := hids₁ hids
  rw [hids₂ (hmid ▸ hids), hmid]

theorem Survives.of_chunks (h : view.bitableChunks = db.bitableChunks) : Survives db view := by
  intro token c hc
  refine ⟨c, ?_, rfl, fun _ => rfl⟩
  unfold WorkerDatabase.chunk? at hc ⊢
  rw [h, hc]

/-- An upsert of a chunk is all that a call does to the chunks. -/
theorem Survives.of_upsert {row : FeishuBitableWriteChunk}
    {values : FeishuBitableWriteChunk → FeishuBitableWriteChunk}
    (hkey : ∀ c, (values c).clientToken = c.clientToken)
    (hkept : ∀ c, db.chunk? row.clientToken = some c →
      (values c).payloadHash = c.payloadHash ∧
        (c.recordIds ≠ [] → (values c).recordIds = c.recordIds))
    (h : db.upsertChunk row values = .ok view) : Survives db view := by
  rw [upsertChunk_eq_ok h]
  intro token c hc
  by_cases htoken : token = row.clientToken
  · subst htoken
    refine ⟨values c, ?_, hkept c hc⟩
    have hfind := Table.find_upsert_self (r := row) hkey db.bitableChunks
    have hold : Table.find FeishuBitableWriteChunk.clientToken row.clientToken
        db.bitableChunks = some c := hc
    rw [hold] at hfind
    exact hfind
  · refine ⟨c, ?_, rfl, fun _ => rfl⟩
    exact (Table.find_upsert_ne hkey db.bitableChunks htoken).trans hc

theorem survives_failure {chunk : ChunkWrite} {error : String} {status : ChunkStatus}
    (h : Session.EndsAt (recordChunkFailure crypto chunk error status) db view) :
    Survives db view := by
  rcases h with ⟨_, hreturns⟩ | ⟨exc, hraises⟩
  · apply Survives.of_upsert _ _ (Session.returnsAt_statement.mp hreturns)
    · exact fun _ => rfl
    · exact fun _ _ => ⟨rfl, fun _ => rfl⟩
  · obtain ⟨_, _, _, rfl⟩ := Session.raisesAt_statement.mp hraises
    exact Survives.refl db

/-- Without a conflict the success has the recorded hash, and the ids where there are some. -/
theorem survives_markChunkSucceeded {chunk : ChunkWrite} {recordIds : List String}
    (hreason : clientTokenConflictReason chunk.clientToken (chunk.resolvedPayloadHash crypto)
      recordIds db = none)
    (h : Session.EndsAt (markChunkSucceeded crypto chunk recordIds) db view) :
    Survives db view := by
  rcases h with ⟨_, hreturns⟩ | ⟨exc, hraises⟩
  · apply Survives.of_upsert _ _ (Session.returnsAt_statement.mp hreturns)
    · exact fun _ => rfl
    · intro c hc
      have hno : ¬Clashes crypto chunk recordIds c := by
        intro hclash
        obtain ⟨reason, hsome⟩ := exists_conflictReason hc hclash
        rw [hreason] at hsome
        cases hsome
      simp only [Clashes, not_or, not_and, not_not, ne_eq] at hno
      exact ⟨hno.1.symm, fun hids => (hno.2 hids).symm⟩
  · obtain ⟨_, _, _, rfl⟩ := Session.raisesAt_statement.mp hraises
    exact Survives.refl db

theorem survives_success {chunk : ChunkWrite} {recordIds : List String} {entityRefs : List Json}
    (h : Session.EndsAt (recordChunkSuccess crypto chunk recordIds entityRefs) db view) :
    Survives db view := by
  unfold recordChunkSuccess at h
  cases hlengths : validateBitableResultLengths chunk.records recordIds entityRefs with
  | error exc =>
    simp only [hlengths, Session.endsAt_bind, Session.raisesAt_throw, Session.not_returnsAt_throw,
      false_and, exists_false, or_false] at h
    obtain ⟨_, _, rfl⟩ := h
    exact Survives.refl db
  | ok _ =>
    simp only [hlengths, Session.endsAt_bind, Session.not_raisesAt_get, exists_false, false_or,
      Session.returnsAt_get] at h
    obtain ⟨_, _, ⟨rfl, rfl⟩, h⟩ := h
    cases hreason : clientTokenConflictReason chunk.clientToken (chunk.resolvedPayloadHash crypto)
        recordIds db with
    | some reason =>
      simp only [hreason, Session.endsAt_bind, Session.endsAt_throw] at h
      rcases h with ⟨exc, hraises⟩ | ⟨_, mid, hreturns, rfl⟩
      · exact survives_failure (Or.inr ⟨exc, hraises⟩)
      · exact survives_failure (Or.inl ⟨_, hreturns⟩)
    | none =>
      simp only [hreason, Session.endsAt_bind] at h
      rcases h with ⟨exc, hraises⟩ | ⟨_, mid, hreturns, hmaps⟩
      · exact survives_markChunkSucceeded hreason (Or.inr ⟨exc, hraises⟩)
      · have hmark : Survives db mid :=
          survives_markChunkSucceeded hreason (Or.inl ⟨_, hreturns⟩)
        exact hmark.trans (Survives.of_chunks (upsertRecordMaps_endsAt hmaps))

theorem survives_work {call : ChunkCall} (h : Session.EndsAt (call.work crypto) db view) :
    Survives db view := by
  cases call with
  | success chunk recordIds entityRefs => exact survives_success h
  | failure chunk error status => exact survives_failure h

theorem survives_afterCall (db : WorkerDatabase) (call : ChunkCall × Bool) :
    Survives db (afterCall crypto db call) := by
  unfold afterCall
  split
  · rename_i view hrun
    exact survives_work (Or.inl ⟨_, hrun⟩)
  · exact Survives.refl db
  · rename_i exc view _ hrun
    split_ifs
    · exact survives_work (Or.inr ⟨exc, hrun⟩)
    · exact Survives.refl db

theorem survives_afterCalls (calls : List (ChunkCall × Bool)) (db : WorkerDatabase) :
    Survives db (afterCalls crypto calls db) := by
  induction calls generalizing db with
  | nil => exact Survives.refl db
  | cons call calls ih => exact (survives_afterCall db call).trans (ih (afterCall crypto db call))

variable (crypto) in
/-- After every history a success can be recorded again, a clash marks a conflict, and the hash
and the ids recorded first are still there. -/
theorem chunkRecording_afterCalls (calls : List (ChunkCall × Bool)) (db : WorkerDatabase) :
    ChunkRecording crypto (afterCalls crypto calls db) ∧
      Survives db (afterCalls crypto calls db) := by
  refine ⟨⟨?_, ?_⟩, survives_afterCalls calls db⟩
  · intro chunk recordIds entityRefs db₁ hreturns
    exact ⟨chunk?_of_returns hreturns, fun again hagain =>
      ⟨transaction_again hreturns hagain, not_conflict_again hreturns hagain⟩⟩
  · intro chunk recordIds entityRefs existing hexisting hclash hlengths
    exact marksConflict hexisting hclash hlengths

end Histories

def writtenChunk : ChunkWrite where
  clientToken := "token"
  appToken := "app"
  tableId := "table"
  records := [.obj []]
  outboxId := none
  actionId := none
  chunkIndex := 0
  payloadHash := some "hash"

def writtenDatabase : WorkerDatabase :=
  afterCalls Crypto.plain [(.success writtenChunk ["rec1"] [], true)] {}

def recordedChunk : FeishuBitableWriteChunk :=
  writtenChunk.row Crypto.plain .succeeded ["rec1"] none

/-- The lengths are checked before the token, so that no conflict is raised or marked. -/
theorem not_marksConflict_misaligned :
    writtenDatabase.chunk? writtenChunk.clientToken = some recordedChunk ∧
      Clashes Crypto.plain writtenChunk ["rec1", "rec2"] recordedChunk ∧
      ¬MarksConflict Crypto.plain writtenChunk ["rec1", "rec2"] [] writtenDatabase
        recordedChunk := by
  refine ⟨by decide +kernel, Or.inr (by decide), ?_⟩
  rintro ⟨reason, view, c, hraises, _⟩
  have hlengths : validateBitableResultLengths writtenChunk.records ["rec1", "rec2"] [] =
      .error (.valueError "Bitable record_ids length must match records length") := by
    decide
  simp [recordChunkSuccess, hlengths, Session.raisesAt_bind] at hraises

end Headhunt.Storage
