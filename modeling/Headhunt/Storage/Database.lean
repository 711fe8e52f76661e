import Headhunt.Lib.Result
import Headhunt.Storage.OutboxRepository

/-! The tables of one database and the statements that change them. A transaction maps
the tables to its result and the new tables; one that raises leaves them as they were. -/
namespace Headhunt.Storage
open Py

structure Database where
  artifactBlobs : List ArtifactBlob := []
  graphThreads : List GraphThread := []
  outbox : OutboxTable := []
  actionProposals : List ActionProposal := []
  humanApprovals : List HumanApproval := []
  cardActions : List FeishuCardAction := []
deriving DecidableEq

/-- What the repositories raise. An `IntegrityError` is a unique violation or not. -/
inductive StorageError
  | integrity (unique : Bool)
  | duplicateCardAction
  | invalidHumanApproval (message : String)
  | outboxPayloadConflict (message : String)
  | bitableActionNotApproved (message : String)
  | keyError (contentRef : String)
deriving DecidableEq

structure RowDefaults where
  id : UUID
  now : Time

/-- An outbox row as the code inserts it. -/
def pendingOutbox (row : RowDefaults) (kind : OutboxKind) (idempotencyKey : String)
    (threadId : Option UUID) (payloadRef : String) : FeishuOutbox where
  id := row.id
  kind := kind
  idempotencyKey := idempotencyKey
  threadId := threadId
  payloadRef := payloadRef
  status := .pending
  attemptCount := 0
  nextAttemptAt := row.now
  claimedBy := none
  claimedAt := none
  claimExpiresAt := none
  lastError := none
  createdAt := row.now

namespace Database

variable (db : Database)

def blob? (contentRef : String) : Option ArtifactBlob :=
  Table.find ArtifactBlob.contentRef contentRef db.artifactBlobs

def proposal? (id : UUID) : Option ActionProposal :=
  Table.find ActionProposal.id id db.actionProposals

def proposalForKey? (idempotencyKey : String) : Option ActionProposal :=
  Table.find ActionProposal.idempotencyKey idempotencyKey db.actionProposals

def outboxForKey? (idempotencyKey : String) : Option FeishuOutbox :=
  Table.find FeishuOutbox.idempotencyKey idempotencyKey db.outbox

def approvalForKey? (idempotencyKey : String) : Option HumanApproval :=
  Table.find HumanApproval.idempotencyKey idempotencyKey db.humanApprovals

def hasThread (id : UUID) : Bool := (Table.find GraphThread.id id db.graphThreads).isSome

def insertBlobOrIgnore (row : ArtifactBlob) : Database :=
  { db with artifactBlobs := Table.insertOrIgnore ArtifactBlob.contentRef row db.artifactBlobs }

def insertOutbox (row : FeishuOutbox) : Except StorageError Database :=
  if (db.outboxForKey? row.idempotencyKey).isSome ∨
      (Table.find FeishuOutbox.id row.id db.outbox).isSome then .error (.integrity true)
  else if ∃ id ∈ row.threadId, db.hasThread id = false then .error (.integrity false)
  else .ok { db with outbox := db.outbox ++ [row] }

/-- `ON CONFLICT (idempotency_key) DO NOTHING`. -/
def insertOutboxOrIgnore (row : FeishuOutbox) : Except StorageError Database :=
  if (db.outboxForKey? row.idempotencyKey).isSome then .ok db else db.insertOutbox row

/-- `ON CONFLICT (idempotency_key) DO NOTHING`. -/
def insertProposalOrIgnore (row : ActionProposal) : Except StorageError Database :=
  if (db.proposalForKey? row.idempotencyKey).isSome then .ok db
  else if (db.proposal? row.id).isSome then .error (.integrity true)
  else if db.hasThread row.threadId = false then .error (.integrity false)
  else .ok { db with actionProposals := db.actionProposals ++ [row] }

def insertApproval (row : HumanApproval) : Except StorageError Database :=
  if (db.approvalForKey? row.idempotencyKey).isSome then .error (.integrity true)
  else if (db.proposal? row.actionId).isNone ∨ db.hasThread row.threadId = false then
    .error (.integrity false)
  else .ok { db with humanApprovals := db.humanApprovals ++ [row] }

def insertCardAction (row : FeishuCardAction) : Except StorageError Database :=
  if (Table.find FeishuCardAction.eventId row.eventId db.cardActions).isSome ∨
      (Table.find FeishuCardAction.idempotencyKey row.idempotencyKey db.cardActions).isSome then
    .error (.integrity true)
  else if db.hasThread row.threadId = false then .error (.integrity false)
  else .ok { db with cardActions := db.cardActions ++ [row] }

def updateProposal (id : UUID) (values : ActionProposal → ActionProposal) : Database :=
  { db with actionProposals := Table.modify ActionProposal.id id values db.actionProposals }

def updateThread (id : UUID) (values : GraphThread → GraphThread) : Database :=
  { db with graphThreads := Table.modify GraphThread.id id values db.graphThreads }

end Database

namespace Database

variable {db db' : Database}

theorem insertOutbox_eq_ok {row : FeishuOutbox} :
    db.insertOutbox row = .ok db' ↔
      db.outboxForKey? row.idempotencyKey = none ∧
        Table.find FeishuOutbox.id row.id db.outbox = none ∧
        (∀ id ∈ row.threadId, db.hasThread id = true) ∧
        db' = { db with outbox := db.outbox ++ [row] } := by
  unfold insertOutbox
  simp only [Except.ite_error_eq_ok, not_or, Bool.not_eq_true, Option.isSome_eq_false_iff,
    Option.isNone_iff_eq_none, not_exists, not_and, Bool.not_eq_false, Except.ok.injEq, and_assoc,
    @eq_comm _ db']

theorem insertOutbox_error {row : FeishuOutbox} {exc : StorageError}
    (h : db.insertOutbox row = .error exc) : ∃ unique, exc = .integrity unique := by
  unfold insertOutbox at h
  split_ifs at h <;> exact ⟨_, (Except.error.inj h).symm⟩

theorem insertApproval_error {row : HumanApproval} {exc : StorageError}
    (h : db.insertApproval row = .error exc) : ∃ unique, exc = .integrity unique := by
  unfold insertApproval at h
  split_ifs at h <;> exact ⟨_, (Except.error.inj h).symm⟩

theorem insertProposalOrIgnore_eq_ok {row : ActionProposal} :
    db.insertProposalOrIgnore row = .ok db' ↔
      (db.proposalForKey? row.idempotencyKey).isSome ∧ db' = db ∨
      db.proposalForKey? row.idempotencyKey = none ∧ db.proposal? row.id = none ∧
        db.hasThread row.threadId = true ∧
        db' = { db with actionProposals := db.actionProposals ++ [row] } := by
  unfold insertProposalOrIgnore
  cases h : db.proposalForKey? row.idempotencyKey with
  | some p => simp [@eq_comm _ db']
  | none =>
    simp only [Option.isSome_none, Bool.false_eq_true, if_false, Except.ite_error_eq_ok,
      Bool.not_eq_true, Option.isSome_eq_false_iff, Option.isNone_iff_eq_none, Bool.not_eq_false,
      Except.ok.injEq, false_and, false_or, true_and, @eq_comm _ db']

theorem insertApproval_eq_ok {row : HumanApproval} :
    db.insertApproval row = .ok db' ↔
      db.approvalForKey? row.idempotencyKey = none ∧ (db.proposal? row.actionId).isSome ∧
        db.hasThread row.threadId = true ∧
        db' = { db with humanApprovals := db.humanApprovals ++ [row] } := by
  unfold insertApproval
  simp only [Except.ite_error_eq_ok, not_or, Bool.not_eq_true, Option.isSome_eq_false_iff,
    Option.isNone_iff_eq_none, ← ne_eq, Option.ne_none_iff_isSome, Bool.not_eq_false, Except.ok.injEq,
    and_assoc, @eq_comm _ db']

theorem insertCardAction_eq_ok {row : FeishuCardAction} :
    db.insertCardAction row = .ok db' ↔
      Table.find FeishuCardAction.eventId row.eventId db.cardActions = none ∧
        Table.find FeishuCardAction.idempotencyKey row.idempotencyKey db.cardActions = none ∧
        db.hasThread row.threadId = true ∧
        db' = { db with cardActions := db.cardActions ++ [row] } := by
  unfold insertCardAction
  simp only [Except.ite_error_eq_ok, not_or, Bool.not_eq_true, Option.isSome_eq_false_iff,
    Option.isNone_iff_eq_none, Bool.not_eq_false, Except.ok.injEq, and_assoc, @eq_comm _ db']

theorem insertOutbox_unique {row : FeishuOutbox} {exc : StorageError}
    (hthread : ∀ id ∈ row.threadId, db.hasThread id = true)
    (h : db.insertOutbox row = .error exc) : exc = .integrity true := by
  unfold insertOutbox at h
  have hno : ¬∃ id ∈ row.threadId, db.hasThread id = false := by
    rintro ⟨id, hid, hfalse⟩
    simp [hthread id hid] at hfalse
  rw [if_neg hno] at h
  split_ifs at h
  exact (Except.error.inj h).symm

theorem insertApproval_unique {row : HumanApproval} {exc : StorageError}
    (hp : (db.proposal? row.actionId).isSome) (hthread : db.hasThread row.threadId = true)
    (h : db.insertApproval row = .error exc) : exc = .integrity true := by
  unfold insertApproval at h
  have hno : ¬((db.proposal? row.actionId).isNone ∨ db.hasThread row.threadId = false) := by
    simp [hthread, Option.isSome_iff_ne_none.mp hp]
  rw [if_neg hno] at h
  split_ifs at h
  exact (Except.error.inj h).symm

theorem insertCardAction_unique {row : FeishuCardAction} {exc : StorageError}
    (hthread : db.hasThread row.threadId = true)
    (h : db.insertCardAction row = .error exc) : exc = .integrity true := by
  unfold insertCardAction at h
  rw [hthread, if_neg (by simp : ¬true = false)] at h
  split_ifs at h
  exact (Except.error.inj h).symm

end Database
end Headhunt.Storage
