import Headhunt.Lib.Table
import Headhunt.Storage.Models

/-! `FeishuOutboxRepository`: claiming the next due row and writing its result. -/
namespace Headhunt.Storage

abbrev OutboxTable := List FeishuOutbox

namespace FeishuOutbox

def pendingDue (currentTime : Time) (row : FeishuOutbox) : Bool :=
  row.status = .pending ∧ row.nextAttemptAt ≤ currentTime

def expiredClaim (currentTime : Time) (row : FeishuOutbox) : Bool :=
  row.status = .claimed ∧ ∃ e ∈ row.claimExpiresAt, e ≤ currentTime

def claimable (currentTime : Time) (row : FeishuOutbox) : Bool :=
  row.pendingDue currentTime || row.expiredClaim currentTime

def kindPriority : OutboxKind → Nat
  | .cardSend | .cardUpdate | .taskConfirmationPrepare => 0
  | .bitableWrite | .resume => 1
  | .graphDispatch => 2

/-- The ORDER BY clause; a missing lease sorts last. -/
def claimRank (row : FeishuOutbox) : List Int :=
  [kindPriority row.kind, row.nextAttemptAt, if row.claimExpiresAt.isNone then 1 else 0,
    row.claimExpiresAt.getD 0, row.createdAt]

end FeishuOutbox

/-- `locked` are the rows other transactions hold locks on: SKIP LOCKED passes over them. -/
def buildClaimableOutboxQuery (currentTime : Time) (locked : Py.UUID → Bool)
    (table : OutboxTable) : Option FeishuOutbox :=
  Table.first? FeishuOutbox.claimRank
    (table.filter fun row => row.claimable currentTime && !locked row.id)

def updateOutbox (id : Py.UUID) (values : FeishuOutbox → FeishuOutbox) (table : OutboxTable) :
    OutboxTable :=
  Table.modify FeishuOutbox.id id values table

/-- The claimed row as the session holds it afterwards, and the table. -/
def claimNext (workerId : String) (leaseSeconds : Nat) (now : Time) (locked : Py.UUID → Bool)
    (table : OutboxTable) : Option (FeishuOutbox × OutboxTable) :=
  (buildClaimableOutboxQuery now locked table).map fun item =>
    let claim (row : FeishuOutbox) : FeishuOutbox :=
      { row with
        status := .claimed
        claimedBy := some workerId
        claimedAt := some now
        claimExpiresAt := some (now + seconds leaseSeconds)
        attemptCount := row.attemptCount + 1 }
    (claim item, updateOutbox item.id claim table)

def markSucceeded (outboxId : Py.UUID) (table : OutboxTable) : OutboxTable :=
  updateOutbox outboxId (fun row =>
    { row with
      status := .succeeded
      claimedBy := none
      claimedAt := none
      claimExpiresAt := none
      lastError := none }) table

def releaseForRetry (outboxId : Py.UUID) (nextAttemptAt : Time) (error : String)
    (table : OutboxTable) : OutboxTable :=
  updateOutbox outboxId (fun row =>
    { row with
      status := .pending
      nextAttemptAt := nextAttemptAt
      claimedBy := none
      claimedAt := none
      claimExpiresAt := none
      lastError := some error }) table

def markDeadLetter (outboxId : Py.UUID) (error : String) (table : OutboxTable) : OutboxTable :=
  updateOutbox outboxId (fun row =>
    { row with
      status := .deadLetter
      claimedBy := none
      claimedAt := none
      claimExpiresAt := none
      lastError := some error }) table

theorem buildClaimableOutboxQuery_mem {now : Time} {locked : Py.UUID → Bool}
    {table : OutboxTable} {row : FeishuOutbox}
    (h : buildClaimableOutboxQuery now locked table = some row) :
    row ∈ table ∧ row.claimable now = true ∧ locked row.id = false := by
  have hm := Table.first?_mem h
  simpa [List.mem_filter] using hm

theorem FeishuOutbox.claimable_iff {now : Time} {row : FeishuOutbox} :
    row.claimable now = true ↔
      (row.status = .pending ∧ row.nextAttemptAt ≤ now) ∨
        (row.status = .claimed ∧ ∃ e, row.claimExpiresAt = some e ∧ e ≤ now) := by
  simp [FeishuOutbox.claimable, FeishuOutbox.pendingDue, FeishuOutbox.expiredClaim]

/-- The instant the row waits for before it is claimed again, if it ever is. -/
def FeishuOutbox.waitsUntil (row : FeishuOutbox) : Option Time :=
  match row.status with
  | .pending => some row.nextAttemptAt
  | .claimed => row.claimExpiresAt
  | _ => none

theorem FeishuOutbox.claimable_iff_waitsUntil {now : Time} {row : FeishuOutbox} :
    row.claimable now = true ↔ ∃ e, row.waitsUntil = some e ∧ e ≤ now := by
  rw [claimable_iff]
  unfold waitsUntil
  cases row.status <;> simp

theorem find_updateOutbox {id : Py.UUID} {values : FeishuOutbox → FeishuOutbox}
    {table : OutboxTable} {row : FeishuOutbox} (hf : Table.find FeishuOutbox.id id table = some row)
    (hvalues : ∀ r, (values r).id = r.id) :
    Table.find FeishuOutbox.id id (updateOutbox id values table) = some (values row) := by
  rw [updateOutbox, Table.find_modify_self hvalues, hf, Option.map_some]

end Headhunt.Storage
