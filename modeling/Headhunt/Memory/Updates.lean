import Headhunt.Lib.Result
import Headhunt.Lib.Table
import Headhunt.Memory.Gateway
import Headhunt.Memory.Retention

/-! Writing memories: `upsert` of the store, and the proposals, approvals and revocations
of the gateway. Each call is one transaction. -/
namespace Headhunt.Memory
open Headhunt.Storage Py

/-- A memory as a caller hands it in, the confidence in ten-thousandths. -/
structure MemoryItemSchema where
  memoryId : UUID
  scope : MemoryScope
  ownerAgent : Option String := none
  summary : String
  contentRef : String
  sourceRunId : Option UUID := none
  boundary : Boundary → Option String := fun _ => none
  threadId : Option UUID := none
  piiLevel : PiiLevel := .none
  status : MemoryStatus := .pendingReview
  confidence : Nat := 5000
  confidence_le : confidence ≤ 10000 := by decide
  version : Int := 1
  expiresAt : Option Time := none
  metadata : Dict := []

theorem defaultConfidence_le : 5000 ≤ 10000 := by decide

inductive ProposalType
  | create
  | revoke
deriving DecidableEq, Repr

inductive MemoryProposalStatus
  | pending
  | approved
  | rejected
deriving DecidableEq, Repr

structure MemoryUpdateProposal where
  id : UUID
  memoryId : UUID
  proposalType : ProposalType
  payloadRef : String
  status : MemoryProposalStatus
  approver : Option Dict := none
  decisionReason : Option String := none
  decidedAt : Option Time := none
deriving DecidableEq

structure MemoryTables where
  memories : List MemoryRecord := []
  proposals : List MemoryUpdateProposal := []

inductive MemoryError
  | keyError (key : String)
  | valueError
  | integrity
  /-- The embedding call, the embedding row or a referenced row of another table. -/
  | aborted
deriving DecidableEq

def MemoryItem.contentKey (row : MemoryItem) : String × Int := (row.contentRef, row.version)

def MemoryItemSchema.contentKey (item : MemoryItemSchema) : String × Int :=
  (item.contentRef, item.version)

namespace MemoryTables

variable (tables : MemoryTables)

def memory? (id : UUID) : Option MemoryRecord :=
  Table.find (fun r : MemoryRecord => r.id) id tables.memories

def memoryForContent? (key : String × Int) : Option MemoryRecord :=
  Table.find (fun r : MemoryRecord => r.contentKey) key tables.memories

def proposal? (id : UUID) : Option MemoryUpdateProposal :=
  Table.find MemoryUpdateProposal.id id tables.proposals

def insertProposal (row : MemoryUpdateProposal) : Except MemoryError MemoryTables :=
  if (tables.proposal? row.id).isSome ∨ (tables.memory? row.memoryId).isNone then
    .error .integrity
  else .ok { tables with proposals := tables.proposals ++ [row] }

def updateMemory (id : UUID) (values : MemoryRecord → MemoryRecord) : MemoryTables :=
  { tables with memories := Table.modify (fun r : MemoryRecord => r.id) id values tables.memories }

end MemoryTables

def insertedRow (item : MemoryItemSchema) (now : Time) : MemoryRecord where
  id := item.memoryId
  scope := item.scope
  ownerAgent := item.ownerAgent
  summary := item.summary
  contentRef := item.contentRef
  sourceRunId := item.sourceRunId
  boundary := item.boundary
  threadId := item.threadId
  piiLevel := item.piiLevel
  status := item.status
  confidence := some item.confidence
  confidence_lt := by
    have := item.confidence_le
    simp
    omega
  version := item.version
  expiresAt := item.expiresAt
  metadata := item.metadata
  createdAt := now

/-- The columns `ON CONFLICT (content_ref, version) DO UPDATE` sets: all but the id, the
scope, the owner and the source run. -/
def overwrittenRow (item : MemoryItemSchema) (row : MemoryRecord) : MemoryRecord :=
  { row with
    summary := item.summary
    boundary := item.boundary
    threadId := item.threadId
    piiLevel := item.piiLevel
    status := item.status
    confidence := some item.confidence
    confidence_lt := by
      have := item.confidence_le
      simp
      omega
    expiresAt := item.expiresAt
    metadata := item.metadata }

/-- The row of the memory table that `upsert` writes, and its id. -/
def upsert (item : MemoryItemSchema) (now : Time) (tables : MemoryTables) :
    Except MemoryError (UUID × MemoryTables) :=
  match tables.memoryForContent? item.contentKey with
  | some row => .ok (row.id, tables.updateMemory row.id (overwrittenRow item))
  | none =>
    if (tables.memory? item.memoryId).isSome then .error .integrity
    else .ok (item.memoryId,
      { tables with memories := tables.memories ++ [insertedRow item now] })

def expiresAtForMemoryItem (item : MemoryItemSchema) (createdAt : Time) : Option Time :=
  if isPermanentMemory item.metadata then none
  else item.expiresAt.or (defaultMemoryExpiresAt item.scope createdAt item.metadata)

def storedItem (agentName : String) (item : MemoryItemSchema) (now : Time) : MemoryItemSchema :=
  { item with
    ownerAgent := some (orText item.ownerAgent agentName)
    status := if item.scope = .run then .active else .pendingReview
    expiresAt := expiresAtForMemoryItem item now }

def createProposal (item : MemoryItemSchema) (proposalId : UUID) : MemoryUpdateProposal where
  id := proposalId
  memoryId := item.memoryId
  proposalType := .create
  payloadRef := item.contentRef
  status := .pending

/-- `propose_update` where the embedding and the foreign keys are in order. -/
def proposeUpdate (agentName : String) (item : MemoryItemSchema) (proposalId : UUID) (now : Time)
    (tables : MemoryTables) : Except MemoryError (String × MemoryTables) := do
  let (_, tables) ← upsert (storedItem agentName item now) now tables
  if item.scope = .run then .ok (item.memoryId.str, tables)
  else do
    let tables ← tables.insertProposal (createProposal item proposalId)
    .ok (proposalId.str, tables)

def approvedRow (now : Time) (memory : MemoryRecord) : MemoryRecord :=
  memory.withLife .active (if isPermanentMemory memory.metadata then none
    else defaultMemoryExpiresAt memory.scope now memory.metadata)

def approveUpdate (proposalId reviewer : String) (now : Time) (tables : MemoryTables) :
    Except MemoryError MemoryTables :=
  match UUID.parse proposalId with
  | none => .error .valueError
  | some id =>
    match tables.proposal? id with
    | none => .error (.keyError proposalId)
    | some proposal =>
      match tables.memory? proposal.memoryId with
      | none => .error (.keyError proposal.memoryId.str)
      | some memory =>
        .ok { tables.updateMemory memory.id (approvedRow now) with
          proposals := Table.modify MemoryUpdateProposal.id id (fun p =>
            { p with
              status := .approved
              approver := some (Dict.ofList [("reviewer", .str reviewer)])
              decidedAt := some now }) tables.proposals }

def revokeProposal (memory : MemoryRecord) (proposalId : UUID) (reviewer reason : String)
    (now : Time) : MemoryUpdateProposal where
  id := proposalId
  memoryId := memory.id
  proposalType := .revoke
  payloadRef := memory.contentRef
  status := .approved
  approver := some (Dict.ofList [("reviewer", .str reviewer)])
  decisionReason := some reason
  decidedAt := some now

def revokeUpdate (memoryId reviewer reason : String) (proposalId : UUID) (now : Time)
    (tables : MemoryTables) : Except MemoryError MemoryTables :=
  match UUID.parse memoryId with
  | none => .error .valueError
  | some id =>
    match tables.memory? id with
    | none => .error (.keyError memoryId)
    | some memory =>
      (tables.updateMemory memory.id fun row => row.withLife .revoked row.expiresAt).insertProposal
        (revokeProposal memory proposalId reviewer reason now)

inductive MemoryCall
  | propose (agentName : String) (item : MemoryItemSchema) (proposalId : UUID) (now : Time)
      (aborts : Bool)
  | approve (proposalId reviewer : String) (now : Time)
  | revoke (memoryId reviewer reason : String) (proposalId : UUID) (now : Time)
  | retention (now : Time) (dryRun : Bool)

def MemoryCall.run (tables : MemoryTables) : MemoryCall → Except MemoryError MemoryTables
  | .propose agentName item proposalId now aborts =>
    if aborts then .error .aborted
    else (proposeUpdate agentName item proposalId now tables).map Prod.snd
  | .approve proposalId reviewer now => approveUpdate proposalId reviewer now tables
  | .revoke memoryId reviewer reason proposalId now =>
    revokeUpdate memoryId reviewer reason proposalId now tables
  | .retention now dryRun =>
    .ok { tables with memories := runRetention now dryRun tables.memories }

/-- A call that raises changes nothing. -/
def MemoryTables.step (tables : MemoryTables) (call : MemoryCall) : Option MemoryTables :=
  match call.run tables with
  | .ok tables => some tables
  | .error _ => some tables

end Headhunt.Memory
