import Headhunt.Lib.History
import Headhunt.Lib.ReadCommitted
import Headhunt.Lib.Transition
import Headhunt.Runtime.WarRoomNotifier

/-! `propose_action` in concurrent sessions. Its statements are steps of their own, between which
the other sessions go on; the first proposal under a key is the only one. -/
namespace Headhunt.Runtime
open Headhunt.Storage History Py ReadCommitted

inductive Write
  | thread (row : GraphThread)
  | blob (row : ArtifactBlob)
  | proposal (row : ActionProposal)
  | handle (id : UUID) (status : ProposalStatus)
  | interrupt (threadId : UUID) (summary : Dict)
  | card (row : RowDefaults) (send : CardSend)

def applyWrite (crypto : Crypto) (db : Database) : Write → Database
  | .thread row =>
    { db with graphThreads := Table.insertOrIgnore GraphThread.id row db.graphThreads }
  | .blob row => db.insertBlobOrIgnore row
  | .proposal row => { db with actionProposals := db.actionProposals ++ [row] }
  | .handle id status => db.updateProposal id fun row => { row with status := status }
  | .interrupt threadId summary => db.updateThread threadId fun row =>
    { row with status := .interrupted, stateSummary := summary }
  | .card row send =>
    match enqueueJson crypto row send.kind send.idempotencyKey send.payload (some send.threadId)
        none db with
    | .ok (_, db) => db
    | .error _ => db

/-- Two rows under one unique key; the later one waits for the session of the other. -/
def Clash : Write → Write → Prop
  | .blob row, .blob row' => row.contentRef = row'.contentRef
  | .proposal row, .proposal row' => row.idempotencyKey = row'.idempotencyKey ∨ row.id = row'.id
  | .card _ send, .card _ send' => send.idempotencyKey = send'.idempotencyKey
  | _, _ => False

instance : DecidableRel Clash := fun w w' => by
  cases w <;> cases w' <;> unfold Clash <;> infer_instance

def proposalRefPrefix : String := "artifact://action-proposal/"

/-- What other code writes: no proposal, none of their payloads, and no interrupted thread. -/
def Write.isForeign : Write → Bool
  | .proposal _ | .interrupt .. => false
  | .blob row => !(proposalRefPrefix.toList.isPrefixOf row.contentRef.toList)
  | _ => true

def Write.isCard : Write → Bool
  | .card .. => true
  | _ => false

def Write.isInterrupt : Write → Bool
  | .interrupt .. => true
  | _ => false

structure ProposeCall where
  fresh : FreshAction
  request : ProposeRequest
  chatId : Json
  councilMode : String
  modeReason : String
  row : RowDefaults

/-- How far a call has come: it has found no proposal, stored its payload, tried its insert. -/
inductive Stage
  | looked
  | stored
  | inserted
deriving DecidableEq

structure PendingCall where
  call : ProposeCall
  stage : Stage
  writes : List Write

structure Answer where
  call : ProposeCall
  proposed : ProposedAction
  created : Bool
  writes : List Write

namespace ProposeCall

variable (crypto : Crypto) (notifier : Option WarRoomNotifier) (call : ProposeCall)

def key : String := call.request.idempotencyKey

def proposal : ActionProposal := proposalRow call.fresh call.request

def payloadRef : String := actionPayloadRef call.fresh.actionId

def payloadBlob : ArtifactBlob := proposalBlob crypto call.fresh call.request

/-- `store_json_payload`. -/
def storeWrites (db : Database) : Except StorageError (List Write) :=
  match db.blob? call.payloadRef with
  | some existing => do
    ensureArtifactPayloadMatches call.payloadRef existing.sha256
      (stableHash crypto (payloadWithRefs call.request))
    .ok []
  | none => .ok [.blob (call.payloadBlob crypto)]

/-- The insert, which does nothing where there is a proposal under the key. -/
def insertWrites (db : Database) : Except StorageError (List Write) :=
  (db.insertProposalOrIgnore call.proposal).map fun _ =>
    if (db.proposalForKey? call.key).isSome then [] else [.proposal call.proposal]

def interruptSummary : Dict := Dict.ofList
  [("pending_action_id", .str call.fresh.actionId.str),
    ("pending_interrupt_id", .str call.fresh.interruptId.str),
    ("pending_action_type", .str call.request.actionType),
    ("payload_summary", .str call.request.payloadSummary)]

def interruptWrite : Write := .interrupt call.request.threadId call.interruptSummary

/-- The approval card of the new proposal, where there is someone to send it and a chat. -/
def card : Option CardSend :=
  notifier.bind fun notifier => notifier.enqueueApprovalCard
    (approvalAsked call.request (proposedAction call.proposal) call.councilMode call.modeReason)
    call.chatId

def cardWrites (db : Database) : Except StorageError (List Write) :=
  match call.card notifier with
  | none => .ok []
  | some send =>
    (enqueueJson crypto call.row send.kind send.idempotencyKey send.payload (some send.threadId)
      none db).map fun _ => [.card call.row send]

end ProposeCall

/-- The sessions, the ids that were drawn, the calls that are under way, what the others have
returned since their session began, and what was returned in sessions that have committed. -/
structure GateRun where
  store : Store Nat Database Write
  drawn : List UUID
  calls : List (Nat × PendingCall)
  returned : List (Nat × Answer)
  history : List Answer

inductive GateLabel
  /-- A call begins, with the lookup of its key. -/
  | call (i : Nat) (call : ProposeCall)
  | store (i : Nat)
  | insert (i : Nat)
  /-- The second lookup, and what the one who made the proposal does next. -/
  | finish (i : Nat)
  /-- The session does something else. -/
  | other (i : Nat) (w : Write)
  | commit (i : Nat)
  /-- Anything that is raised in a session ends it so. -/
  | rollback (i : Nat)

namespace GateRun

def start : GateRun := ⟨⟨{}, []⟩, [], [], [], []⟩

variable (crypto : Crypto) (notifier : Option WarRoomNotifier) (run : GateRun)

def view (i : Nat) : Database := run.store.view (applyWrite crypto) i

def current (i : Nat) : Option PendingCall := (ofSession i run.calls).head?

/-- The call goes on, unless it has to wait. -/
def advance (i : Nat) (next : PendingCall) (ws : List Write) : Option GateRun :=
  (run.store.writeAll Clash i ws).map fun store =>
    { run with
      store := store
      calls := without i run.calls ++ [(i, { next with writes := next.writes ++ ws })] }

def answer (i : Nat) (answer : Answer) : GateRun :=
  { run with
    calls := without i run.calls
    returned := run.returned ++ [(i, answer)] }

def rollback (i : Nat) : GateRun :=
  { run with
    store := run.store.rollback i
    calls := without i run.calls
    returned := without i run.returned }

def commit (i : Nat) : GateRun :=
  { run with
    store := run.store.commit (applyWrite crypto) i
    returned := without i run.returned
    history := run.history ++ ofSession i run.returned }

/-- The ids are drawn by `uuid4`: one that was drawn before does not come again. -/
def beginCall (i : Nat) (call : ProposeCall) : Option GateRun :=
  if (run.current i).isSome ∨ call.fresh.actionId ∈ run.drawn then none
  else
    let drawn := { run with drawn := call.fresh.actionId :: run.drawn }
    match (run.view crypto i).proposalForKey? call.key with
    | some existing => some (drawn.answer i ⟨call, proposedAction existing, false, []⟩)
    | none => some { drawn with calls := run.calls ++ [(i, ⟨call, .looked, []⟩)] }

def storePayload (i : Nat) (pending : PendingCall) : Option GateRun :=
  match pending.call.storeWrites crypto (run.view crypto i) with
  | .error _ => some (run.rollback i)
  | .ok ws => run.advance i { pending with stage := .stored } ws

def insertProposal (i : Nat) (pending : PendingCall) : Option GateRun :=
  match pending.call.insertWrites (run.view crypto i) with
  | .error _ => some (run.rollback i)
  | .ok ws => run.advance i { pending with stage := .inserted } ws

def announce (i : Nat) (pending : PendingCall) : Option GateRun :=
  let interrupted := applyWrite crypto (run.view crypto i) pending.call.interruptWrite
  match pending.call.cardWrites crypto notifier interrupted with
  | .error _ => some (run.rollback i)
  | .ok cards =>
    let ws := pending.call.interruptWrite :: cards
    (run.store.writeAll Clash i ws).map fun store =>
      { run with store := store }.answer i
        ⟨pending.call, proposedAction pending.call.proposal, true, pending.writes ++ ws⟩

def finishCall (i : Nat) (pending : PendingCall) : Option GateRun :=
  match ((run.view crypto i).proposalForKey? pending.call.key).filter
      (·.id ≠ pending.call.fresh.actionId) with
  | some persisted =>
    some (run.answer i ⟨pending.call, proposedAction persisted, false, pending.writes⟩)
  | none => run.announce crypto notifier i pending

def atStage (i : Nat) (stage : Stage) : Option PendingCall :=
  (run.current i).filter (·.stage = stage)

def step (run : GateRun) : GateLabel → Option GateRun
  | .call i call => run.beginCall crypto i call
  | .store i => (run.atStage i .looked).bind (run.storePayload crypto i)
  | .insert i => (run.atStage i .stored).bind (run.insertProposal crypto i)
  | .finish i => (run.atStage i .inserted).bind (run.finishCall crypto notifier i)
  | .other i w =>
    if w.isForeign = false ∨ (run.current i).isSome then none
    else (run.store.write Clash i w).map fun store => { run with store := store }
  | .commit i => if (run.current i).isSome then none else some (run.commit crypto i)
  | .rollback i => some (run.rollback i)

/-- Every answer of a session that has not been rolled back. -/
def answers : List Answer := run.history ++ run.returned.map (·.2)

end GateRun

section Writes

variable {crypto : Crypto} {call : ProposeCall} {db : Database}

/-- The first statement is `store_json_payload`. -/
theorem storeWrites_eq : (call.storeWrites crypto db).map (·.foldl (applyWrite crypto) db) =
    storeJsonPayload call.payloadRef (payloadWithRefs call.request)
      (dumps .compact (.obj (payloadWithRefs call.request)))
      (stableHash crypto (payloadWithRefs call.request)) db := by
  unfold ProposeCall.storeWrites
  cases hblob : db.blob? call.payloadRef with
  | some existing =>
    unfold storeJsonPayload
    rw [hblob]
    dsimp only
    cases ensureArtifactPayloadMatches call.payloadRef existing.sha256
      (stableHash crypto (payloadWithRefs call.request)) <;> rfl
  | none =>
    refine (storeJsonPayload_eq_ok.mpr (.inr ⟨hblob, ?_⟩)).symm
    rfl

/-- The second one is the insert. -/
theorem insertWrites_eq : (call.insertWrites db).map (·.foldl (applyWrite crypto) db) =
    db.insertProposalOrIgnore call.proposal := by
  unfold ProposeCall.insertWrites Database.insertProposalOrIgnore
  by_cases hkey : (db.proposalForKey? call.proposal.idempotencyKey).isSome
  · have hsame : (db.proposalForKey? call.key).isSome := hkey
    simp [hkey, hsame, Except.map]
  · have hsame : ¬(db.proposalForKey? call.key).isSome := hkey
    split_ifs <;> simp_all [Except.map, applyWrite]

end Writes
end Headhunt.Runtime
