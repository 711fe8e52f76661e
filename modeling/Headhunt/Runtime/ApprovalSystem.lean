import Headhunt.Feishu.OutboxHandlers
import Headhunt.Feishu.Service
import Headhunt.Lib.Transition
import Headhunt.Runtime.Approvals
import Headhunt.Runtime.Resume

/-! Everything that acts on proposals, run together: the graphs that propose, the two
channels of decisions, and the workers that resume graphs and write to Bitable. -/
namespace Headhunt.Runtime
open Headhunt.Core Headhunt.Feishu Headhunt.Schemas Headhunt.Storage Py

structure System (ω : Type*) where
  clock : Time
  db : Database
  held : ω → Option Held
  checkpoints : UUID → Checkpoint
  /-- The executor calls committed so far. -/
  executions : List Execution

def System.initial (ω : Type*) : System ω where
  clock := 0
  db := {}
  held := fun _ => none
  checkpoints := fun _ => .elsewhere
  executions := []

/-- The outbox keys of decisions and of Bitable writes. -/
def reservedKey (key : String) : Bool :=
  "resume:".toList.isPrefixOf key.toList || "bitable:".toList.isPrefixOf key.toList

theorem reservedKey_resumeKey (key : String) : reservedKey (resumeKey key) = true := by
  simp [reservedKey, resumeKey_toList]

theorem reservedKey_bitableKey (proposal : ActionProposal) :
    reservedKey (bitableKey proposal) = true := by
  simp [reservedKey, bitableKey_toList]

/-- One write of the rest of the service. -/
inductive Background
  | thread (row : GraphThread)
  | blob (contentRef : String) (payload : Dict) (rawText sha256 : String)
  | outbox (row : RowDefaults) (kind : OutboxKind) (idempotencyKey : String)
      (threadId : Option UUID) (payloadRef : String)
  | cardAction (row : FeishuCardAction)

/-- No other part of the service writes resume or Bitable rows, or uses their keys. -/
def Background.Allowed : Background → Prop
  | .outbox _ kind key _ _ => kind ≠ .resume ∧ kind ≠ .bitableWrite ∧ reservedKey key = false
  | _ => True

instance (work : Background) : Decidable work.Allowed := by
  cases work <;> unfold Background.Allowed <;> infer_instance

def Background.run (db : Database) : Background → Except StorageError Database
  | .thread row =>
    .ok ({ db with graphThreads := Table.insertOrIgnore GraphThread.id row db.graphThreads
      }.updateThread row.id fun old => { row with id := old.id })
  | .blob contentRef payload rawText sha256 =>
    storeJsonPayload contentRef payload rawText sha256 db
  | .outbox row kind key threadId payloadRef =>
    db.insertOutbox (pendingOutbox row kind key threadId payloadRef)
  | .cardAction row => db.insertCardAction row

inductive Label (ω : Type*)
  | tick (d : Nat)
  | background (work : Background)
  /-- A graph run reaches the gate. Its checkpoint is written on a connection of its own. -/
  | propose (fresh : FreshAction) (request : ProposeRequest) (stateThreadId : String)
      (commits : Bool)
  /-- A graph run of the thread starts over or goes on. -/
  | advance (threadId : UUID)
  | click (row : RowDefaults) (callback : VerifiedFeishuCallback)
  | decide (row : RowDefaults) (interruptId : UUID) (request : ApprovalDecisionRequest)
  | claim (w : ω) (locked : UUID → Bool)
  | finishResume (w : ω) (fresh : ResumeFresh) (other : Except OutboxDispatchError Unit)
      (commits : Bool)
  | finishBitable (w : ω) (gateway : Except OutboxDispatchError Unit)
  | finishOther (w : ω) (outcome : Except OutboxDispatchError Unit)
  | crash (w : ω)

section System

variable {ω : Type*} [DecidableEq ω] (settings : Settings) (crypto : Crypto)
  (config : ω → FeishuOutboxDispatcher)

def completeItem (w : ω) (h : Held) (outcome : Except OutboxDispatchError Unit) (db : Database) :
    Database :=
  { db with outbox := (config w).finish h.item h.currentTime outcome db.outbox }

def handleBitable (payloadRef : String) (gateway : Except OutboxDispatchError Unit)
    (db : Database) : Except OutboxDispatchError Unit := do
  let payload ← (getJsonPayload payloadRef db).mapError storageDispatchError
  let _ ← (writeBitable payload db).mapError handlerDispatchError
  gateway

def handleResume (fresh : ResumeFresh) (other : Except OutboxDispatchError Unit)
    (payloadRef : String) (checkpoints : UUID → Checkpoint) (db : Database) :
    (UUID → Checkpoint) × Except OutboxDispatchError (Option Execution × Database) :=
  match getJsonPayload payloadRef db with
  | .error exc => (checkpoints, .error (storageDispatchError exc))
  | .ok payload => resumeGraph settings crypto fresh other payload checkpoints db

/-- The session of the handler is committed with the row, or all of it is lost. -/
def System.finishResume (s : System ω) (w : ω) (h : Held)
    (run : (UUID → Checkpoint) × Except OutboxDispatchError (Option Execution × Database))
    (commits : Bool) : System ω :=
  let s := { s with checkpoints := run.1, held := Function.update s.held w none }
  match run.2 with
  | .error exc => { s with db := completeItem config w h (.error exc) s.db }
  | .ok (execution, db) =>
    if commits then
      { s with
        db := completeItem config w h (.ok ()) db
        executions := s.executions ++ execution.toList }
    else s

/-- A transaction that raises changes nothing. -/
def commitOr {ε α : Type} (db : Database) : Except ε (α × Database) → Database
  | .ok (_, db') => db'
  | .error _ => db

def System.step (s : System ω) : Label ω → Option (System ω)
  | .tick d => some { s with clock := s.clock + d }
  | .background work =>
    if work.Allowed then
      some { s with db := commitOr s.db ((work.run s.db).map fun db => ((), db)) }
    else none
  | .propose fresh request stateThreadId commits =>
    if UUID.parse stateThreadId = some request.threadId then
      match proposeAction crypto fresh request s.db with
      | .error _ => some s
      | .ok (_, db) => some
          { s with
            db := if commits then db else s.db
            checkpoints := Function.update s.checkpoints request.threadId
              (.interrupted stateThreadId request) }
    else none
  | .advance threadId =>
    some { s with checkpoints := Function.update s.checkpoints threadId .elsewhere }
  | .click row callback =>
    if cardRoute callback.payload = .ok .approval then
      some { s with db := commitOr s.db (enqueueApprovalClick row callback s.db) }
    else none
  | .decide row interruptId request =>
    some { s with db := commitOr s.db (submitDecision crypto row interruptId request s.db) }
  | .claim w locked =>
    match s.held w with
    | some _ => none
    | none =>
      match (config w).claim s.clock locked s.db.outbox with
      | none => some s
      | some (item, table) =>
        some { s with
          db := { s.db with outbox := table }
          held := Function.update s.held w (some ⟨item, s.clock⟩) }
  | .finishResume w fresh other commits =>
    (s.held w).bind fun h =>
      if h.item.kind = .resume then
        some (System.finishResume config s w h
          (handleResume settings crypto fresh other h.item.payloadRef s.checkpoints s.db) commits)
      else none
  | .finishBitable w gateway =>
    (s.held w).bind fun h =>
      if h.item.kind = .bitableWrite then
        some { s with
          db := completeItem config w h (handleBitable h.item.payloadRef gateway s.db) s.db
          held := Function.update s.held w none }
      else none
  | .finishOther w outcome =>
    (s.held w).bind fun h =>
      if h.item.kind ≠ .resume ∧ h.item.kind ≠ .bitableWrite then
        some { s with
          db := completeItem config w h outcome s.db
          held := Function.update s.held w none }
      else none
  | .crash w => some { s with held := Function.update s.held w none }

end System
end Headhunt.Runtime
