import Mathlib.Logic.Function.Basic
import Headhunt.Lib.Transition
import Headhunt.Storage.OutboxRepository

/-! `FeishuOutboxDispatcher.dispatch_once` and its workers. A dispatch is two
transactions with the handler in between, so other workers run between them. -/
namespace Headhunt.Feishu
open Headhunt.Storage

structure OutboxDispatchError where
  message : String
  retryAfterSeconds : Option Int
deriving DecidableEq

structure FeishuOutboxDispatcher where
  workerId : String
  maxAttempts : Nat := 5
  baseRetrySeconds : Nat := 30
  claimLeaseSeconds : Nat := 300

/-- What a `datetime` can hold, from the year 1 to the year 9999 around the Unix epoch. -/
def IsDatetime (t : Time) : Bool := -62135596800000000 ≤ t ∧ t < 253402300800000000

namespace FeishuOutboxDispatcher

def claim (d : FeishuOutboxDispatcher) (currentTime : Time) (locked : Py.UUID → Bool)
    (table : OutboxTable) : Option (FeishuOutbox × OutboxTable) :=
  claimNext d.workerId d.claimLeaseSeconds currentTime locked table

/-- `exc.retry_after_seconds or base * 2 ** (attempts - 1)`: a zero counts as missing. -/
def retryAfter (d : FeishuOutboxDispatcher) (exc : OutboxDispatchError) (attempts : Nat) : Int :=
  match exc.retryAfterSeconds with
  | some n => if n = 0 then d.baseRetrySeconds * 2 ^ (attempts - 1) else n
  | none => d.baseRetrySeconds * 2 ^ (attempts - 1)

/-- A date outside the range of `datetime` raises before anything is written, and the
row stays as it is. -/
def handleFailure (d : FeishuOutboxDispatcher) (item : FeishuOutbox) (exc : OutboxDispatchError)
    (currentTime : Time) (table : OutboxTable) : OutboxTable :=
  let attempts := if item.attemptCount = 0 then 1 else item.attemptCount
  if d.maxAttempts ≤ attempts then markDeadLetter item.id exc.message table
  else
    let nextAttemptAt := currentTime + seconds (d.retryAfter exc attempts)
    if IsDatetime nextAttemptAt then releaseForRetry item.id nextAttemptAt exc.message table
    else table

/-- The last transaction of `dispatch_once`. The rollback before `_handle_failure`
expires the session, so the item is read again from the table there. -/
def finish (d : FeishuOutboxDispatcher) (item : FeishuOutbox) (currentTime : Time)
    (outcome : Except OutboxDispatchError Unit) (table : OutboxTable) : OutboxTable :=
  match outcome with
  | .ok () => markSucceeded item.id table
  | .error exc =>
    match Table.find FeishuOutbox.id item.id table with
    | some current => d.handleFailure current exc currentTime table
    | none => table

end FeishuOutboxDispatcher

/-- What a worker holds while its handler runs. -/
structure Held where
  item : FeishuOutbox
  currentTime : Time
deriving DecidableEq

structure Cluster (ω : Type*) where
  clock : Time
  outbox : OutboxTable
  held : ω → Option Held

inductive Event (ω : Type*)
  | tick (d : Nat)
  | enqueue (row : FeishuOutbox)
  | claim (w : ω) (locked : Py.UUID → Bool)
  | finish (w : ω) (outcome : Except OutboxDispatchError Unit)
  | crash (w : ω)

section Cluster

variable {ω : Type*} [DecidableEq ω] (config : ω → FeishuOutboxDispatcher)

def Enqueueable (table : OutboxTable) (row : FeishuOutbox) : Bool :=
  row.status = .pending ∧ row.attemptCount = 0 ∧ row.claimedBy = none ∧
    row.claimExpiresAt = none ∧ Table.find FeishuOutbox.id row.id table = none ∧
    Table.find FeishuOutbox.idempotencyKey row.idempotencyKey table = none

def Cluster.step (s : Cluster ω) : Event ω → Option (Cluster ω)
  | .tick d => some { s with clock := s.clock + d }
  | .enqueue row =>
    if Enqueueable s.outbox row then some { s with outbox := s.outbox ++ [row] } else none
  | .claim w locked =>
    match s.held w with
    | some _ => none
    | none =>
      match (config w).claim s.clock locked s.outbox with
      | none => some s
      | some (item, table) =>
        some { s with
          outbox := table
          held := Function.update s.held w (some ⟨item, s.clock⟩) }
  | .finish w outcome =>
    (s.held w).map fun h =>
      { s with
        outbox := (config w).finish h.item h.currentTime outcome s.outbox
        held := Function.update s.held w none }
  | .crash w => some { s with held := Function.update s.held w none }

end Cluster
end Headhunt.Feishu
