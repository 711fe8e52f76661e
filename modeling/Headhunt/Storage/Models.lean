import Headhunt.Lib.PyJson

/-! Rows of the tables, as far as the modelled functions read or write them. Text
columns under a CHECK constraint are enumerations. -/
namespace Headhunt.Storage

/-- Instants and durations in microseconds. -/
abbrev Time := Int

def seconds (n : Int) : Time := n * 1000000

inductive OutboxKind
  | graphDispatch
  | cardSend
  | cardUpdate
  | bitableWrite
  | resume
  | taskConfirmationPrepare
deriving DecidableEq, Repr

inductive OutboxStatus
  | pending
  | claimed
  | succeeded
  | failed
  | deadLetter
deriving DecidableEq, Repr

/-- No claim query selects these again. -/
def OutboxStatus.IsFinal : OutboxStatus → Prop
  | .succeeded | .deadLetter => True
  | _ => False

instance (s : OutboxStatus) : Decidable s.IsFinal := by
  cases s <;> unfold OutboxStatus.IsFinal <;> infer_instance

inductive Decision
  | approve
  | reject
  | edit
deriving DecidableEq, Repr

def Decision.value : Decision → String
  | .approve => "approve"
  | .reject => "reject"
  | .edit => "edit"

def Decision.ofString? (s : String) : Option Decision :=
  [Decision.approve, .reject, .edit].find? fun d => d.value = s

theorem Decision.ofString?_eq_some {s : String} {d : Decision} :
    Decision.ofString? s = some d ↔ s = d.value := by
  constructor
  · intro h
    have hd : d.value = s := by simpa using List.find?_some h
    exact hd.symm
  · rintro rfl
    cases d <;> decide

theorem Decision.value_ne (d : Decision) : d.value ≠ "" := by
  cases d <;> decide

inductive ProposalStatus
  | pending
  | approved
  | rejected
  | executed
deriving DecidableEq, Repr

def ProposalStatus.value : ProposalStatus → String
  | .pending => "pending"
  | .approved => "approved"
  | .rejected => "rejected"
  | .executed => "executed"

structure ArtifactBlob where
  contentRef : String
  contentJson : Py.Json
  contentText : String
  sha256 : String
deriving DecidableEq

inductive ThreadStatus
  | queued
  | running
  | interrupted
  | completed
  | failed
deriving DecidableEq, Repr

structure GraphThread where
  id : Py.UUID
  source : String
  sourceRef : String
  taskType : String
  councilMode : Option String
  modeReason : Option String
  status : ThreadStatus
  stateSummary : Py.Dict
deriving DecidableEq

structure ActionProposal where
  id : Py.UUID
  threadId : Py.UUID
  interruptId : Py.UUID
  actionType : String
  payloadSummary : String
  payloadRef : String
  idempotencyKey : String
  status : ProposalStatus
  createdAt : Time
deriving DecidableEq

structure HumanApproval where
  interruptId : Py.UUID
  actionId : Py.UUID
  threadId : Py.UUID
  approver : Py.Dict
  decision : Decision
  editedPayloadRef : Option String
  idempotencyKey : String
deriving DecidableEq

inductive CardActionStatus
  | received
  | queued
  | resumed
  | duplicate
  | failed
deriving DecidableEq, Repr

structure FeishuCardAction where
  eventId : String
  threadId : Py.UUID
  actionId : Py.UUID
  interruptId : Option Py.UUID
  idempotencyKey : String
  openMessageId : Option String
  openChatId : Option String
  cardUpdateTokenRef : String
  operatorOpenId : Option String
  decision : Decision
  editedPayloadRef : Option String
  status : CardActionStatus
deriving DecidableEq

structure FeishuOutbox where
  id : Py.UUID
  kind : OutboxKind
  idempotencyKey : String
  threadId : Option Py.UUID
  payloadRef : String
  status : OutboxStatus
  attemptCount : Nat
  nextAttemptAt : Time
  claimedBy : Option String
  claimedAt : Option Time
  claimExpiresAt : Option Time
  lastError : Option String
  createdAt : Time
deriving DecidableEq

end Headhunt.Storage
