import Headhunt.Lib.Session
import Headhunt.Storage.Repositories
import Headhunt.Storage.WorkerDatabase

/-! `BitableSyncRepository`: what becomes of a chunk after the gateway has written it. -/
namespace Headhunt.Storage
open Py

inductive BitableSyncError
  | valueError (message : String)
  | attributeError (typeName : String)
  | clientTokenConflict (message : String)
  | storage (exc : StorageError)
deriving DecidableEq

/-- The arguments of `record_chunk_success` and `record_chunk_failure`. -/
structure ChunkWrite where
  clientToken : String
  appToken : String
  tableId : String
  records : List Json
  outboxId : Option UUID
  actionId : Option UUID
  chunkIndex : Int
  payloadHash : Option String

/-- Work on the session of a worker. -/
abbrev SyncWork := EStateM BitableSyncError WorkerDatabase

def statement (write : WorkerDatabase → Except StorageError WorkerDatabase) : SyncWork Unit :=
  Session.statement .storage write

/-- A string under the key that is not empty. -/
def entityField (entityRef : Json) (key : String) : Except BitableSyncError String :=
  match entityRef with
  | .obj ref =>
    match firstStr [Dict.get ref key] with
    | some value => .ok value
    | none => .error (.valueError s!"Bitable entity_refs must include {key}")
  | value => .error (.attributeError value.typeName)

def validateBitableResultLengths (records : List Json) (recordIds : List String)
    (entityRefs : List Json) : Except BitableSyncError Unit :=
  if recordIds.length ≠ records.length then
    .error (.valueError "Bitable record_ids length must match records length")
  else if entityRefs ≠ [] ∧ entityRefs.length ≠ records.length then
    .error (.valueError "Bitable entity_refs length must match records length")
  else entityRefs.forM fun ref => do
    let _ ← entityField ref "entity_type"
    let _ ← entityField ref "entity_id"

def clientTokenConflictReason (clientToken payloadHash : String) (recordIds : List String)
    (db : WorkerDatabase) : Option String :=
  match db.chunk? clientToken with
  | none => none
  | some existing =>
    if existing.payloadHash ≠ payloadHash then
      some "Bitable client_token already exists with a different payload_hash"
    else if existing.recordIds ≠ [] ∧ existing.recordIds ≠ recordIds then
      some "Bitable client_token already exists with different record_ids"
    else none

section Chunks

variable (crypto : Crypto) (chunk : ChunkWrite)

/-- `payload_hash or _stable_hash(records)`. -/
def ChunkWrite.resolvedPayloadHash : String :=
  (chunk.payloadHash.filter (· ≠ "")).getD (sha256Hex crypto (dumps .compact (.arr chunk.records)))

def ChunkWrite.row (status : ChunkStatus) (recordIds : List String) (lastError : Option String) :
    FeishuBitableWriteChunk where
  actionId := chunk.actionId
  outboxId := chunk.outboxId
  appToken := chunk.appToken
  tableId := chunk.tableId
  chunkIndex := chunk.chunkIndex
  payloadHash := chunk.resolvedPayloadHash crypto
  clientToken := chunk.clientToken
  status := status
  recordIds := recordIds
  lastError := lastError

def recordChunkFailure (error : String) (status : ChunkStatus) : SyncWork Unit :=
  statement fun db => db.upsertChunk (chunk.row crypto status [] (some error)) fun old =>
    { old with status := status, lastError := some error }

def upsertRecordMaps (appToken tableId : String) : List (Json × String) → SyncWork Unit
  | [] => pure ()
  | (ref, recordId) :: rest => do
    match entityField ref "entity_id", entityField ref "entity_type" with
    | .error exc, _ | _, .error exc => throw exc
    | .ok entityId, .ok entityType =>
      match UUID.parse entityId with
      | none => throw (.valueError (UUID.errorText entityId))
      | some id =>
        statement fun db => db.upsertRecordMap ⟨entityType, id, appToken, tableId, recordId⟩
    upsertRecordMaps appToken tableId rest

/-- The upsert of a chunk the gateway has written. -/
def markChunkSucceeded (recordIds : List String) : SyncWork Unit :=
  statement fun db => db.upsertChunk (chunk.row crypto .succeeded recordIds none) fun old =>
    { old with
      status := .succeeded
      payloadHash := chunk.resolvedPayloadHash crypto
      recordIds := recordIds
      lastError := none }

def recordChunkSuccess (recordIds : List String) (entityRefs : List Json) : SyncWork Unit := do
  match validateBitableResultLengths chunk.records recordIds entityRefs with
  | .error exc => throw exc
  | .ok () => pure ()
  match clientTokenConflictReason chunk.clientToken (chunk.resolvedPayloadHash crypto) recordIds
      (← get) with
  | some reason =>
    recordChunkFailure crypto chunk reason .conflict
    throw (.clientTokenConflict reason)
  | none =>
    markChunkSucceeded crypto chunk recordIds
    upsertRecordMaps chunk.appToken chunk.tableId (entityRefs.zip recordIds)

end Chunks

section Conflict

variable {crypto : Crypto} {chunk : ChunkWrite} {recordIds : List String} {entityRefs : List Json}
  {db : WorkerDatabase} {reason : String}

/-- The chunk is there already when its token is in conflict. -/
theorem exists_chunk_of_conflict {token hash : String}
    (h : clientTokenConflictReason token hash recordIds db = some reason) :
    ∃ existing, db.chunk? token = some existing := by
  unfold clientTokenConflictReason at h
  cases hchunk : db.chunk? token with
  | none => simp [hchunk] at h
  | some existing => exact ⟨existing, rfl⟩

def markConflict (crypto : Crypto) (chunk : ChunkWrite) (reason : String) (db : WorkerDatabase) :
    WorkerDatabase :=
  { db with
    bitableChunks := Table.upsert FeishuBitableWriteChunk.clientToken
      (chunk.row crypto .conflict [] (some reason))
      (fun old => { old with status := .conflict, lastError := some reason }) db.bitableChunks }

theorem recordChunkSuccess_conflict
    (hlengths : validateBitableResultLengths chunk.records recordIds entityRefs = .ok ())
    (h : clientTokenConflictReason chunk.clientToken (chunk.resolvedPayloadHash crypto) recordIds
      db = some reason) :
    Session.RaisesAt (recordChunkSuccess crypto chunk recordIds entityRefs) db
      (.clientTokenConflict reason) (markConflict crypto chunk reason db) := by
  obtain ⟨existing, hexisting⟩ := exists_chunk_of_conflict h
  have hupsert : db.upsertChunk (chunk.row crypto .conflict [] (some reason))
      (fun old => { old with status := .conflict, lastError := some reason }) =
        .ok (markConflict crypto chunk reason db) :=
    db.upsertChunk_of_some hexisting
  simp [recordChunkSuccess, hlengths, Session.raisesAt_bind, h, recordChunkFailure, statement,
    hupsert, markConflict]

/-- The marked chunk carries the status and the reason. -/
theorem chunk?_markConflict
    (h : clientTokenConflictReason chunk.clientToken (chunk.resolvedPayloadHash crypto) recordIds
      db = some reason) :
    ∃ c, (markConflict crypto chunk reason db).chunk? chunk.clientToken = some c ∧
      c.status = .conflict ∧ c.lastError = some reason := by
  obtain ⟨existing, hexisting⟩ := exists_chunk_of_conflict h
  have hfind : (markConflict crypto chunk reason db).chunk? chunk.clientToken =
      some (((db.chunk? chunk.clientToken).map fun old =>
        { old with status := .conflict, lastError := some reason }).getD
          (chunk.row crypto .conflict [] (some reason))) :=
    @Table.find_upsert_self _ _ _ FeishuBitableWriteChunk.clientToken
      (chunk.row crypto .conflict [] (some reason))
      (fun old => { old with status := .conflict, lastError := some reason }) (fun _ => rfl)
      db.bitableChunks
  rw [hexisting] at hfind
  exact ⟨_, hfind, rfl, rfl⟩

end Conflict
end Headhunt.Storage
