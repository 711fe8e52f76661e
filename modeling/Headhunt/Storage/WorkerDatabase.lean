import Headhunt.Storage.Database

/-! The tables a worker writes to besides those of the approvals: the Bitable chunks with
the records they created, and the runs of the agents. -/
namespace Headhunt.Storage
open Py

inductive ChunkStatus
  | pending
  | succeeded
  | failed
  | conflict
  | deadLetter
deriving DecidableEq, Repr

structure FeishuBitableWriteChunk where
  actionId : Option UUID
  outboxId : Option UUID
  appToken : String
  tableId : String
  chunkIndex : Int
  payloadHash : String
  clientToken : String
  status : ChunkStatus
  recordIds : List String
  lastError : Option String
deriving DecidableEq

structure FeishuBitableRecordMap where
  entityType : String
  entityId : UUID
  appToken : String
  tableId : String
  recordId : String
deriving DecidableEq

/-- The columns of `uq_bitable_entity_table`. -/
def FeishuBitableRecordMap.entity (row : FeishuBitableRecordMap) :
    String × UUID × String × String :=
  (row.entityType, row.entityId, row.appToken, row.tableId)

inductive AgentRunStatus
  | running
  | succeeded
  | failed
deriving DecidableEq, Repr

structure AgentRun where
  id : UUID
  threadId : UUID
  nodeName : String
  agentName : String
  councilMode : String
  contextPackRef : String
  inputSummary : String
  outputSummary : Option String
  memoryRefs : List Json
  artifactRefs : List Json
  sourceRefs : List String
  modelProfileId : Option UUID
  modelProvider : Option String
  modelName : Option String
  modelOwnerUserId : Option String
  tokenEstimate : Nat
  status : AgentRunStatus
  error : Option String
  startedAt : Time
  endedAt : Option Time
deriving DecidableEq

structure WorkerDatabase extends Database where
  bitableChunks : List FeishuBitableWriteChunk := []
  bitableRecordMaps : List FeishuBitableRecordMap := []
  agentRuns : List AgentRun := []
deriving DecidableEq

namespace WorkerDatabase

variable (db : WorkerDatabase)

def chunk? (clientToken : String) : Option FeishuBitableWriteChunk :=
  Table.find FeishuBitableWriteChunk.clientToken clientToken db.bitableChunks

def agentRun? (id : UUID) : Option AgentRun := Table.find AgentRun.id id db.agentRuns

/-- Another chunk has the four columns of `uq_bitable_chunk_identity`; a null never clashes. -/
def chunkIdentityTaken (row : FeishuBitableWriteChunk) : Bool :=
  row.actionId.isSome && db.bitableChunks.any fun c =>
    c.actionId = row.actionId ∧ c.tableId = row.tableId ∧ c.chunkIndex = row.chunkIndex ∧
      c.payloadHash = row.payloadHash

/-- `ON CONFLICT (client_token) DO UPDATE`: only a new row can violate the other constraint. -/
def upsertChunk (row : FeishuBitableWriteChunk)
    (values : FeishuBitableWriteChunk → FeishuBitableWriteChunk) :
    Except StorageError WorkerDatabase :=
  if (db.chunk? row.clientToken).isNone ∧ db.chunkIdentityTaken row then .error (.integrity true)
  else .ok { db with
    bitableChunks :=
      Table.upsert FeishuBitableWriteChunk.clientToken row values db.bitableChunks }

/-- `ON CONFLICT (entity_type, entity_id, app_token, table_id) DO UPDATE`. -/
def upsertRecordMap (row : FeishuBitableRecordMap) : Except StorageError WorkerDatabase :=
  if db.bitableRecordMaps.any fun r =>
      r.entity ≠ row.entity ∧ r.appToken = row.appToken ∧ r.tableId = row.tableId ∧
        r.recordId = row.recordId then
    .error (.integrity true)
  else .ok { db with
    bitableRecordMaps := Table.upsert FeishuBitableRecordMap.entity row
      (fun old => { old with recordId := row.recordId }) db.bitableRecordMaps }

def insertAgentRun (row : AgentRun) : Except StorageError WorkerDatabase :=
  if (db.agentRun? row.id).isSome then .error (.integrity true)
  else if db.hasThread row.threadId = false then .error (.integrity false)
  else .ok { db with agentRuns := db.agentRuns ++ [row] }

def updateAgentRun (id : UUID) (values : AgentRun → AgentRun) : WorkerDatabase :=
  { db with agentRuns := Table.modify AgentRun.id id values db.agentRuns }

variable {db} {db' : WorkerDatabase}

theorem upsertChunk_of_some {row old : FeishuBitableWriteChunk}
    {values : FeishuBitableWriteChunk → FeishuBitableWriteChunk}
    (h : db.chunk? row.clientToken = some old) :
    db.upsertChunk row values = .ok { db with
      bitableChunks :=
        Table.upsert FeishuBitableWriteChunk.clientToken row values db.bitableChunks } := by
  simp [upsertChunk, h]

theorem insertAgentRun_eq_ok {row : AgentRun} :
    db.insertAgentRun row = .ok db' ↔
      db.agentRun? row.id = none ∧ db.hasThread row.threadId = true ∧
        db' = { db with agentRuns := db.agentRuns ++ [row] } := by
  unfold insertAgentRun
  simp only [Except.ite_error_eq_ok, Bool.not_eq_true, Option.isSome_eq_false_iff,
    Option.isNone_iff_eq_none, Bool.not_eq_false, Except.ok.injEq, @eq_comm _ db']

theorem agentRun?_updateAgentRun {id : UUID} {values : AgentRun → AgentRun}
    (hvalues : ∀ r, (values r).id = r.id) :
    (db.updateAgentRun id values).agentRun? id = (db.agentRun? id).map values :=
  Table.find_modify_self hvalues db.agentRuns

end WorkerDatabase
end Headhunt.Storage
