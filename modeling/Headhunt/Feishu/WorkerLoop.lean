import Headhunt.Feishu.RetrySpacing
import Headhunt.Lib.Progress
import Headhunt.Lib.TableOrder

/-! `run_worker_loop`: one worker dispatches the outbox row by row and sleeps when it finds
nothing to do. Once nothing new arrives, the loop settles every row. -/
namespace Headhunt.Feishu
open Headhunt.Storage

structure Round where
  locked : Py.UUID → Bool
  /-- How the handler ends, and `none` if the worker dies in it. -/
  outcome : Option (Except OutboxDispatchError Unit)
  /-- The rows that the handler and other transactions commit meanwhile. -/
  enqueued : List FeishuOutbox
  /-- From the start of this dispatch to the start of the next, the sleep included. -/
  elapsed : Nat

/-- A round in which the worker is alone with the outbox and lives on. -/
structure Round.Quiet (r : Round) : Prop where
  unlocked : ∀ id, r.locked id = false
  survives : r.outcome ≠ none
  nothingNew : r.enqueued = []

structure LoopState where
  clock : Time
  outbox : OutboxTable

def enqueue (table : OutboxTable) (row : FeishuOutbox) : OutboxTable :=
  if Enqueueable table row then table ++ [row] else table

namespace LoopState

variable (d : FeishuOutboxDispatcher)

/-- `dispatch_once`: the row it dispatches, if any, and the outbox afterwards. -/
def dispatchOnce (r : Round) (s : LoopState) : Option FeishuOutbox × OutboxTable :=
  match d.claim s.clock r.locked s.outbox with
  | none => (none, s.outbox)
  | some (item, table) =>
    match r.outcome with
    | none => (some item, table)
    | some outcome => (some item, d.finish item s.clock outcome table)

def next (r : Round) (s : LoopState) : LoopState where
  clock := s.clock + r.elapsed
  outbox := r.enqueued.foldl enqueue (s.dispatchOnce d r).2

end LoopState

/-- The states in which the rounds of the loop begin, from an empty outbox. -/
def runWorkerLoop (d : FeishuOutboxDispatcher) (start : Time) (rounds : Nat → Round) :
    Nat → LoopState
  | 0 => ⟨start, []⟩
  | n + 1 => (runWorkerLoop d start rounds n).next d (rounds n)

def dispatched (d : FeishuOutboxDispatcher) (start : Time) (rounds : Nat → Round) (n : Nat) :
    Option FeishuOutbox :=
  ((runWorkerLoop d start rounds n).dispatchOnce d (rounds n)).1

/-- What a dispatch that began at `now` leaves of its row. -/
inductive Left (d : FeishuOutboxDispatcher) (now : Time) (row : FeishuOutbox) :
    Option (Except OutboxDispatchError Unit) → Prop
  | succeeded (u : Unit) (hstatus : row.status = .succeeded) : Left d now row (some (.ok u))
  | dead (exc : OutboxDispatchError) (hstatus : row.status = .deadLetter)
      (hmax : d.maxAttempts ≤ row.attemptCount) : Left d now row (some (.error exc))
  | waits (exc : OutboxDispatchError) (date : Time) (hwaits : row.waitsUntil = some date)
      (hmax : row.attemptCount < d.maxAttempts)
      (hdate : date = if IsDatetime (now + seconds (d.takenDelay exc row.attemptCount)) then
        now + seconds (d.takenDelay exc row.attemptCount) else now + seconds d.claimLeaseSeconds) :
      Left d now row (some (.error exc))
  | abandoned (hwaits : row.waitsUntil = some (now + seconds d.claimLeaseSeconds)) :
      Left d now row none

theorem waitsUntil_claimed {row : FeishuOutbox} {lease : Time} (hstatus : row.status = .claimed)
    (hlease : row.claimExpiresAt = some lease) : row.waitsUntil = some lease := by
  rw [FeishuOutbox.waitsUntil, hstatus]
  exact hlease

/-- The completion of a row that its worker holds alone. -/
theorem FeishuOutboxDispatcher.finish_left (d : FeishuOutboxDispatcher) {item : FeishuOutbox}
    {now : Time} (outcome : Except OutboxDispatchError Unit) {table : OutboxTable}
    (hf : Table.find FeishuOutbox.id item.id table = some item) (hpos : 0 < item.attemptCount)
    (hlease : item.waitsUntil = some (now + seconds d.claimLeaseSeconds)) :
    ∃ row, Table.find FeishuOutbox.id item.id (d.finish item now outcome table) = some row ∧
      row.attemptCount = item.attemptCount ∧ Left d now row (some outcome) := by
  cases outcome with
  | ok u =>
    refine ⟨_, find_updateOutbox hf fun _ => rfl, rfl, ?_⟩
    exact .succeeded u rfl
  | error exc =>
    obtain ⟨row, hrow, hcount, hdead, hwaits⟩ := d.finish_error now exc hf hpos
    refine ⟨row, hrow, hcount, ?_⟩
    by_cases hmax : d.maxAttempts ≤ item.attemptCount
    · exact .dead exc (hdead hmax) (hcount ▸ hmax)
    · have hlt : item.attemptCount < d.maxAttempts := by omega
      have hdate := hwaits hlt
      rw [← hcount] at hdate hlt
      refine .waits exc _ ?_ hlt rfl
      rw [hdate]
      split_ifs
      · rfl
      · exact hlease

/-- A dispatch takes the first claimable row and changes no other one. -/
theorem LoopState.dispatchOnce_spec {d : FeishuOutboxDispatcher} {r : Round} {s : LoopState}
    {item : FeishuOutbox} (hu : Table.Unique FeishuOutbox.id s.outbox)
    (h : (s.dispatchOnce d r).1 = some item) :
    ∃ row f, buildClaimableOutboxQuery s.clock r.locked s.outbox = some row ∧ row.id = item.id ∧
      (∀ r, (f r).id = r.id) ∧
      (s.dispatchOnce d r).2 = Table.modify FeishuOutbox.id row.id f s.outbox ∧
      (f row).attemptCount = row.attemptCount + 1 ∧ item.attemptCount = row.attemptCount + 1 ∧
      Left d s.clock (f row) r.outcome := by
  unfold dispatchOnce at h ⊢
  cases hc : d.claim s.clock r.locked s.outbox with
  | none => simp [hc] at h
  | some p =>
    obtain ⟨claimed, table⟩ := p
    have hquery : ∃ row, buildClaimableOutboxQuery s.clock r.locked s.outbox = some row ∧
        row.id = claimed.id := by
      unfold FeishuOutboxDispatcher.claim claimNext at hc
      obtain ⟨row, hrow, heq⟩ := Option.map_eq_some_iff.mp hc
      obtain ⟨rfl, _⟩ := Prod.mk.inj heq
      exact ⟨row, hrow, rfl⟩
    obtain ⟨row, hrow, hid⟩ := hquery
    obtain ⟨row', hmem, hcl, hid', hcount, hstatus, _, hlease, f, hf, hfrow, htable⟩ :=
      FeishuOutboxDispatcher.claim_spec hc
    obtain rfl : row = row' := hu.eq (buildClaimableOutboxQuery_mem hrow).1 hmem (hid.trans hid')
    obtain ⟨hfind, hpos, _⟩ := FeishuOutboxDispatcher.claim_find hu hc
    have hwaits := waitsUntil_claimed hstatus hlease
    cases ho : r.outcome with
    | none =>
      obtain rfl : claimed = item := by simpa [hc, ho] using h
      refine ⟨row, f, hrow, hid, hf, htable, ?_, hcount, ?_⟩
      · rw [hfrow]
        exact hcount
      · rw [hfrow]
        exact .abandoned hwaits
    | some outcome =>
      obtain rfl : claimed = item := by simpa [hc, ho] using h
      obtain ⟨g, hg, hfinish⟩ := d.finish_spec claimed s.clock outcome table
      obtain ⟨left, hleft, hattempts, hkind⟩ :=
        d.finish_left outcome hfind hpos hwaits
      have hgleft : g claimed = left := by
        rw [hfinish, Table.find_modify_self fun r => (hg r).1, hfind] at hleft
        exact Option.some.inj hleft
      refine ⟨row, fun r => g (f r), hrow, hid, ?_, ?_, ?_, hcount, ?_⟩
      · intro r
        rw [(hg (f r)).1, hf]
      · show d.finish claimed s.clock outcome table = _
        rw [hfinish, htable, ← hid, Table.modify_modify hf]
      · dsimp only
        rw [hfrow, hgleft, hattempts, hcount]
      · dsimp only
        rw [hfrow, hgleft]
        exact hkind

theorem LoopState.dispatchOnce_idle {d : FeishuOutboxDispatcher} {r : Round} {s : LoopState}
    (h : (s.dispatchOnce d r).1 = none) :
    (s.dispatchOnce d r).2 = s.outbox ∧
      ∀ row ∈ s.outbox, row.claimable s.clock = true → r.locked row.id = true := by
  unfold dispatchOnce at h ⊢
  cases hc : d.claim s.clock r.locked s.outbox with
  | some p => cases ho : r.outcome <;> simp [hc, ho] at h
  | none =>
    refine ⟨rfl, ?_⟩
    unfold FeishuOutboxDispatcher.claim claimNext buildClaimableOutboxQuery at hc
    rw [Option.map_eq_none_iff, Table.first?_eq_none, List.filter_eq_nil_iff] at hc
    intro row hrow hcl
    have hrow' := hc row hrow
    simpa [hcl] using hrow'

section Run

variable {d : FeishuOutboxDispatcher} {start : Time} {rounds : Nat → Round}

def dispatches (d : FeishuOutboxDispatcher) (start : Time) (rounds : Nat → Round) (n : Nat)
    (id : Py.UUID) : Nat :=
  (List.range n).countP fun m => (dispatched d start rounds m).any fun item => item.id = id

/-- One of the first `n` rounds dispatched the row, and its handler returned. -/
def Returned (d : FeishuOutboxDispatcher) (start : Time) (rounds : Nat → Round) (n : Nat)
    (id : Py.UUID) : Prop :=
  ∃ m < n, ∃ item u, dispatched d start rounds m = some item ∧ item.id = id ∧
    (rounds m).outcome = some (.ok u)

structure RowKept (d : FeishuOutboxDispatcher) (start : Time) (rounds : Nat → Round) (n : Nat)
    (row : FeishuOutbox) : Prop where
  counted : row.attemptCount = dispatches d start rounds n row.id
  waits : ¬row.status.IsFinal → ∃ date, row.waitsUntil = some date
  succeeded : row.status = .succeeded → Returned d start rounds n row.id
  dead : row.status = .deadLetter → d.maxAttempts ≤ row.attemptCount

structure LoopInv (d : FeishuOutboxDispatcher) (start : Time) (rounds : Nat → Round) (n : Nat)
    (table : OutboxTable) : Prop where
  unique : Table.Unique FeishuOutbox.id table
  rows : ∀ row ∈ table, RowKept d start rounds n row
  /-- Only rows of the outbox have been dispatched. -/
  known : ∀ id, Table.find FeishuOutbox.id id table = none → dispatches d start rounds n id = 0

theorem dispatches_succ (n : Nat) (id : Py.UUID) :
    dispatches d start rounds (n + 1) id = dispatches d start rounds n id +
      if (dispatched d start rounds n).any fun item => item.id = id then 1 else 0 := by
  simp [dispatches, List.range_succ, List.countP_append, List.countP_singleton]

theorem dispatches_succ_of_ne {n : Nat} {id : Py.UUID}
    (h : ∀ item, dispatched d start rounds n = some item → item.id ≠ id) :
    dispatches d start rounds (n + 1) id = dispatches d start rounds n id := by
  rw [dispatches_succ]
  cases hd : dispatched d start rounds n with
  | none => simp
  | some item => simp [h item hd]

theorem Returned.later {n : Nat} {id : Py.UUID} (h : Returned d start rounds n id) :
    Returned d start rounds (n + 1) id := by
  obtain ⟨m, hm, item, u, hitem, hid, hu⟩ := h
  exact ⟨m, by omega, item, u, hitem, hid, hu⟩

theorem not_isFinal_of_waitsUntil {row : FeishuOutbox} {date : Time}
    (h : row.waitsUntil = some date) : ¬row.status.IsFinal := by
  intro hfinal
  unfold FeishuOutbox.waitsUntil at h
  cases hs : row.status <;> simp [hs, OutboxStatus.IsFinal] at h hfinal

theorem RowKept.later {n : Nat} {row : FeishuOutbox} (h : RowKept d start rounds n row)
    (hne : ∀ item, dispatched d start rounds n = some item → item.id ≠ row.id) :
    RowKept d start rounds (n + 1) row where
  counted := by
    rw [dispatches_succ_of_ne hne]
    exact h.counted
  waits := h.waits
  succeeded hs := (h.succeeded hs).later
  dead := h.dead

/-- A dispatched row is counted, and it has succeeded only if its handler returned. -/
theorem RowKept.left {n : Nat} {now : Time} {row row' : FeishuOutbox} {item : FeishuOutbox}
    (h : RowKept d start rounds n row) (hitem : dispatched d start rounds n = some item)
    (hid : row.id = item.id) (hid' : row'.id = row.id)
    (hcount : row'.attemptCount = row.attemptCount + 1)
    (hleft : Left d now row' (rounds n).outcome) : RowKept d start rounds (n + 1) row' := by
  have hcounted : row'.attemptCount = dispatches d start rounds (n + 1) row'.id := by
    have hown := h.counted
    rw [dispatches_succ, hitem, hid', hcount, hown]
    simp [hid]
  generalize ho : (rounds n).outcome = outcome at hleft
  cases hleft with
  | succeeded u hstatus =>
    refine ⟨hcounted, ?_, ?_, ?_⟩
    · intro hfinal
      exact absurd (by rw [hstatus]; trivial) hfinal
    · intro _
      exact ⟨n, by omega, item, u, hitem, (hid'.trans hid).symm, ho⟩
    · intro hdead
      rw [hstatus] at hdead
      contradiction
  | dead exc hstatus hmax =>
    refine ⟨hcounted, ?_, ?_, fun _ => hmax⟩
    · intro hfinal
      exact absurd (by rw [hstatus]; trivial) hfinal
    · intro hsucceeded
      rw [hstatus] at hsucceeded
      contradiction
  | waits exc date hwaits _ _ =>
    have hfinal := not_isFinal_of_waitsUntil hwaits
    refine ⟨hcounted, fun _ => ⟨date, hwaits⟩, ?_, ?_⟩ <;>
    · intro hstatus
      exact absurd (by rw [hstatus]; trivial) hfinal
  | abandoned hwaits =>
    have hfinal := not_isFinal_of_waitsUntil hwaits
    refine ⟨hcounted, fun _ => ⟨_, hwaits⟩, ?_, ?_⟩ <;>
    · intro hstatus
      exact absurd (by rw [hstatus]; trivial) hfinal

theorem LoopInv.dispatch {n : Nat}
    (h : LoopInv d start rounds n (runWorkerLoop d start rounds n).outbox) :
    LoopInv d start rounds (n + 1)
      ((runWorkerLoop d start rounds n).dispatchOnce d (rounds n)).2 := by
  cases hd : dispatched d start rounds n with
  | none =>
    have hne : ∀ id : Py.UUID, ∀ item, dispatched d start rounds n = some item → item.id ≠ id := by
      intro id item hitem
      rw [hd] at hitem
      contradiction
    rw [(LoopState.dispatchOnce_idle hd).1]
    refine ⟨h.unique, fun row hrow => (h.rows row hrow).later (hne row.id), ?_⟩
    intro id hid
    rw [dispatches_succ_of_ne (hne id)]
    exact h.known id hid
  | some item =>
    obtain ⟨row, f, hquery, hid, hf, htable, hcount, _, hleft⟩ :=
      LoopState.dispatchOnce_spec h.unique hd
    have hmem := (buildClaimableOutboxQuery_mem hquery).1
    rw [htable]
    refine ⟨h.unique.modify hf, ?_, ?_⟩
    · intro row' hrow'
      obtain ⟨old, hold, rfl⟩ := Table.mem_modify.mp hrow'
      by_cases hsame : old.id = row.id
      · obtain rfl := h.unique.eq hold hmem hsame
        rw [if_pos rfl]
        exact (h.rows old hold).left hd hid (hf old) hcount hleft
      · rw [if_neg hsame]
        apply (h.rows old hold).later
        intro item' hitem' he
        obtain rfl : item = item' := Option.some.inj (hd.symm.trans hitem')
        exact hsame (he.symm.trans hid.symm)
    · intro id hnone
      rw [Table.find_modify hf, Option.map_eq_none_iff] at hnone
      rw [dispatches_succ_of_ne]
      · exact h.known id hnone
      · intro item' hitem' he
        obtain rfl : item = item' := Option.some.inj (hd.symm.trans hitem')
        exact Table.find_eq_none_iff.mp hnone row hmem (hid.trans he)

theorem LoopInv.enqueue {n : Nat} {table : OutboxTable} (h : LoopInv d start rounds n table)
    (row : FeishuOutbox) : LoopInv d start rounds n (enqueue table row) := by
  unfold Feishu.enqueue
  split_ifs with hnew
  · simp only [Enqueueable, Bool.decide_and, Bool.and_eq_true, decide_eq_true_eq] at hnew
    obtain ⟨hpending, hcount, _, _, hid, _⟩ := hnew
    refine ⟨h.unique.append_singleton hid, ?_, ?_⟩
    · intro row' hrow'
      rcases List.mem_append.mp hrow' with hrow' | hrow'
      · exact h.rows row' hrow'
      · obtain rfl := List.mem_singleton.mp hrow'
        refine ⟨?_, ?_, ?_, ?_⟩
        · rw [hcount, h.known row'.id hid]
        · intro _
          exact ⟨row'.nextAttemptAt, by rw [FeishuOutbox.waitsUntil, hpending]⟩
        · intro hs
          rw [hpending] at hs
          contradiction
        · intro hs
          rw [hpending] at hs
          contradiction
    · intro id hnone
      rw [Table.find_append_singleton, Option.or_eq_none_iff] at hnone
      exact h.known id hnone.1
  · exact h

theorem LoopInv.foldl_enqueue {n : Nat} {table : OutboxTable} (h : LoopInv d start rounds n table)
    (rows : List FeishuOutbox) : LoopInv d start rounds n (rows.foldl Feishu.enqueue table) := by
  induction rows generalizing table with
  | nil => exact h
  | cons row rows ih => exact ih (h.enqueue row)

theorem loopInv (d : FeishuOutboxDispatcher) (start : Time) (rounds : Nat → Round) (n : Nat) :
    LoopInv d start rounds n (runWorkerLoop d start rounds n).outbox := by
  induction n with
  | zero =>
    refine ⟨List.nodup_nil, ?_, fun _ _ => rfl⟩
    intro row hrow
    exact absurd hrow List.not_mem_nil
  | succ n ih => exact ih.dispatch.foldl_enqueue _

theorem map_id_foldl_enqueue (rows : List FeishuOutbox) (table : OutboxTable) :
    table.map FeishuOutbox.id <+: (rows.foldl enqueue table).map FeishuOutbox.id := by
  induction rows generalizing table with
  | nil => exact List.prefix_rfl
  | cons row rows ih =>
    refine List.IsPrefix.trans ?_ (ih _)
    unfold enqueue
    split_ifs
    · rw [List.map_append]
      exact List.prefix_append _ _
    · exact List.prefix_rfl

theorem map_id_dispatchOnce {r : Round} {s : LoopState}
    (hu : Table.Unique FeishuOutbox.id s.outbox) :
    (s.dispatchOnce d r).2.map FeishuOutbox.id = s.outbox.map FeishuOutbox.id := by
  cases hd : (s.dispatchOnce d r).1 with
  | none => rw [(LoopState.dispatchOnce_idle hd).1]
  | some item =>
    obtain ⟨row, f, _, _, hf, htable, _⟩ := LoopState.dispatchOnce_spec hu hd
    rw [htable, Table.map_modify hf]

/-- Every row that was ever in the outbox is still there. -/
theorem keeps_rows {k n : Nat} (hkn : k ≤ n) {row : FeishuOutbox}
    (hrow : row ∈ (runWorkerLoop d start rounds k).outbox) :
    ∃ row' ∈ (runWorkerLoop d start rounds n).outbox, row'.id = row.id := by
  have hids : (runWorkerLoop d start rounds k).outbox.map FeishuOutbox.id <+:
      (runWorkerLoop d start rounds n).outbox.map FeishuOutbox.id := by
    induction n, hkn using Nat.le_induction with
    | base => exact List.prefix_rfl
    | succ n _ ih =>
      refine ih.trans ?_
      rw [← map_id_dispatchOnce (d := d) (r := rounds n) (loopInv d start rounds n).unique]
      exact map_id_foldl_enqueue _ _
  exact List.mem_map.mp (hids.subset (List.mem_map_of_mem hrow))

/-- How often a row can still be dispatched, one last time if it has no attempt left. -/
def weight (d : FeishuOutboxDispatcher) (row : FeishuOutbox) : Nat :=
  if row.status.IsFinal then 0 else max 1 (d.maxAttempts - row.attemptCount)

def workLeft (d : FeishuOutboxDispatcher) (s : LoopState) : Nat := (s.outbox.map (weight d)).sum

theorem not_isFinal_of_claimable {now : Time} {row : FeishuOutbox}
    (h : row.claimable now = true) : ¬row.status.IsFinal := by
  obtain ⟨date, hdate, _⟩ := FeishuOutbox.claimable_iff_waitsUntil.mp h
  exact not_isFinal_of_waitsUntil hdate

theorem Left.weight_lt {now : Time} {row row' : FeishuOutbox}
    {outcome : Option (Except OutboxDispatchError Unit)} (h : Left d now row' outcome)
    (hlives : outcome ≠ none) (hrow : ¬row.status.IsFinal)
    (hcount : row'.attemptCount = row.attemptCount + 1) : weight d row' < weight d row := by
  have hweight : weight d row = max 1 (d.maxAttempts - row.attemptCount) := if_neg hrow
  have hsettled : row'.status.IsFinal → weight d row' < weight d row := by
    intro hfinal
    have hzero : weight d row' = 0 := if_pos hfinal
    rw [hzero, hweight]
    omega
  cases h with
  | succeeded u hstatus => exact hsettled (by rw [hstatus]; trivial)
  | dead exc hstatus _ => exact hsettled (by rw [hstatus]; trivial)
  | waits exc date hwaits hmax _ =>
    have hweight' : weight d row' = max 1 (d.maxAttempts - row'.attemptCount) :=
      if_neg (not_isFinal_of_waitsUntil hwaits)
    rw [hweight, hweight']
    omega
  | abandoned _ => exact absurd rfl hlives

/-- A round without new rows: the outbox is as the dispatch leaves it. -/
theorem outbox_succ {n : Nat} (hnew : (rounds n).enqueued = []) :
    (runWorkerLoop d start rounds (n + 1)).outbox =
      ((runWorkerLoop d start rounds n).dispatchOnce d (rounds n)).2 := by
  show (rounds n).enqueued.foldl enqueue _ = _
  rw [hnew]
  rfl

theorem outbox_succ_of_idle {n : Nat} (hquiet : (rounds n).Quiet)
    (hidle : dispatched d start rounds n = none) :
    (runWorkerLoop d start rounds (n + 1)).outbox = (runWorkerLoop d start rounds n).outbox := by
  rw [outbox_succ hquiet.nothingNew]
  exact (LoopState.dispatchOnce_idle hidle).1

theorem workLeft_lt {n : Nat} (hquiet : (rounds n).Quiet) {item : FeishuOutbox}
    (hitem : dispatched d start rounds n = some item) :
    workLeft d (runWorkerLoop d start rounds (n + 1)) <
      workLeft d (runWorkerLoop d start rounds n) := by
  have hu := (loopInv d start rounds n).unique
  obtain ⟨row, f, hquery, _, hf, htable, hcount, _, hleft⟩ := LoopState.dispatchOnce_spec hu hitem
  obtain ⟨hmem, hclaimable, _⟩ := buildClaimableOutboxQuery_mem hquery
  have hfind := (Table.find_eq_some_iff hu).mpr ⟨hmem, rfl⟩
  have hlt : weight d (f row) < weight d row :=
    hleft.weight_lt hquiet.survives (not_isFinal_of_claimable hclaimable) hcount
  have hsum := Table.sum_modify (f := f) (weight d) hu hfind
  unfold workLeft
  rw [outbox_succ hquiet.nothingNew, htable]
  omega

theorem workLeft_le {n : Nat} (hquiet : (rounds n).Quiet) :
    workLeft d (runWorkerLoop d start rounds (n + 1)) ≤
      workLeft d (runWorkerLoop d start rounds n) := by
  cases hd : dispatched d start rounds n with
  | none =>
    unfold workLeft
    rw [outbox_succ_of_idle hquiet hd]
  | some item => exact (workLeft_lt hquiet hd).le

/-- A loop that only sleeps comes to the date any open row waits for. -/
theorem dispatches_again {N : Nat} (hquiet : ∀ n ≥ N, (rounds n).Quiet)
    (hsleeps : ∀ n, dispatched d start rounds n = none → 0 < (rounds n).elapsed)
    {row : FeishuOutbox} (hrow : row ∈ (runWorkerLoop d start rounds N).outbox)
    (hopen : ¬row.status.IsFinal) : ∃ n ≥ N, ∃ item, dispatched d start rounds n = some item := by
  by_contra hnever
  have hidle : ∀ n ≥ N, dispatched d start rounds n = none := by
    intro n hn
    cases hd : dispatched d start rounds n with
    | none => rfl
    | some item => exact absurd ⟨n, hn, item, hd⟩ hnever
  have hsame : ∀ n ≥ N, (runWorkerLoop d start rounds n).outbox =
      (runWorkerLoop d start rounds N).outbox := by
    intro n hn
    induction n, hn using Nat.le_induction with
    | base => rfl
    | succ n hn ih => rw [outbox_succ_of_idle (hquiet n hn) (hidle n hn), ih]
  obtain ⟨date, hdate⟩ := ((loopInv d start rounds N).rows row hrow).waits hopen
  have hticks : ∀ n ≥ N, (runWorkerLoop d start rounds n).clock + 1 ≤
      (runWorkerLoop d start rounds (n + 1)).clock := by
    intro n hn
    have hslept := hsleeps n (hidle n hn)
    show (runWorkerLoop d start rounds n).clock + 1 ≤
      (runWorkerLoop d start rounds n).clock + ((rounds n).elapsed : Int)
    apply Int.add_le_add_left
    omega
  obtain ⟨n, hn, hpassed⟩ := Progress.clock_passes hticks date
  have hclaimable := FeishuOutbox.claimable_iff_waitsUntil.mpr ⟨date, hdate, hpassed⟩
  rw [← hsame n hn] at hrow
  have hlocked := (LoopState.dispatchOnce_idle (hidle n hn)).2 row hrow hclaimable
  rw [(hquiet n hn).unlocked] at hlocked
  contradiction

/-- Whatever the handlers answer: when from some round on no row is enqueued, no other
session locks rows and the worker stays alive, the loop reaches a round after which every row
there ever was has succeeded, by a handler that returned, or has been dispatched
`max_attempts` times and is dead. -/
theorem settles_of_loop {N : Nat} (hquiet : ∀ n ≥ N, (rounds n).Quiet)
    (hsleeps : ∀ n, dispatched d start rounds n = none → 0 < (rounds n).elapsed) :
    ∃ M, ∀ n ≥ M,
      (∀ k ≤ n, ∀ row ∈ (runWorkerLoop d start rounds k).outbox,
        ∃ row' ∈ (runWorkerLoop d start rounds n).outbox, row'.id = row.id) ∧
      ∀ row ∈ (runWorkerLoop d start rounds n).outbox,
        row.status = .succeeded ∧ Returned d start rounds n row.id ∨
          row.status = .deadLetter ∧ d.maxAttempts ≤ dispatches d start rounds n row.id := by
  have hsettled : ∃ M ≥ N, ∀ n ≥ M,
      ∀ row ∈ (runWorkerLoop d start rounds n).outbox, row.status.IsFinal := by
    refine @Progress.eventuallyAlways _ (runWorkerLoop d start rounds)
      (fun s => ∀ row ∈ s.outbox, row.status.IsFinal) (workLeft d) N ?_ ?_ ?_
    · intro n hn
      exact workLeft_le (hquiet n hn)
    · intro n hn hopen
      push Not at hopen
      obtain ⟨row, hrow, hopen⟩ := hopen
      have hlater : ∀ m ≥ n, (rounds m).Quiet := fun m hm => hquiet m (by omega)
      obtain ⟨m, hm, item, hitem⟩ := dispatches_again hlater hsleeps hrow hopen
      exact ⟨m, hm, workLeft_lt (hlater m hm) hitem⟩
    · intro n hn hdone
      cases hd : dispatched d start rounds n with
      | none =>
        rw [outbox_succ_of_idle (hquiet n hn) hd]
        exact hdone
      | some item =>
        obtain ⟨row, f, hquery, _⟩ :=
          LoopState.dispatchOnce_spec (loopInv d start rounds n).unique hd
        obtain ⟨hmem, hclaimable, _⟩ := buildClaimableOutboxQuery_mem hquery
        exact absurd (hdone row hmem) (not_isFinal_of_claimable hclaimable)
  obtain ⟨M, _, hfinal⟩ := hsettled
  refine ⟨M, fun n hn => ⟨fun k hk row hrow => keeps_rows hk hrow, ?_⟩⟩
  intro row hrow
  have hkept := (loopInv d start rounds n).rows row hrow
  have hrowFinal := hfinal n hn row hrow
  cases hs : row.status with
  | succeeded => exact .inl ⟨rfl, hkept.succeeded hs⟩
  | deadLetter => exact .inr ⟨rfl, hkept.counted ▸ hkept.dead hs⟩
  | pending | claimed | failed => simp [hs, OutboxStatus.IsFinal] at hrowFinal

end Run

def failingRounds (n : Nat) : Round where
  locked _ := false
  outcome := some (.error ⟨"timeout", none⟩)
  enqueued := if n = 0 then [lateRow] else []
  elapsed := 2000000

theorem settles_of_loop_failing : ∃ M, ∀ n ≥ M,
    ∃ row ∈ (runWorkerLoop ⟨"a", 5, 30, 300⟩ 0 failingRounds n).outbox, row.id = lateRow.id ∧
      row.status = .deadLetter ∧
      5 ≤ dispatches ⟨"a", 5, 30, 300⟩ 0 failingRounds n lateRow.id := by
  have hquiet : ∀ n ≥ 1, (failingRounds n).Quiet := by
    intro n hn
    refine ⟨fun _ => rfl, ?_, if_neg (by omega)⟩
    simp [failingRounds]
  have hsleeps : ∀ n, dispatched ⟨"a", 5, 30, 300⟩ 0 failingRounds n = none →
      0 < (failingRounds n).elapsed := by
    intro n _
    show 0 < 2000000
    omega
  obtain ⟨M, hM⟩ := settles_of_loop hquiet hsleeps
  refine ⟨max 1 M, fun n hn => ?_⟩
  obtain ⟨hkept, hsettled⟩ := hM n (by omega)
  obtain ⟨row, hrow, hid⟩ := hkept 1 (by omega) lateRow (by decide)
  refine ⟨row, hrow, hid, ?_⟩
  rcases hsettled row hrow with ⟨_, m, _, item, u, _, _, hreturned⟩ | ⟨hdead, hcount⟩
  · simp [failingRounds] at hreturned
  · rw [hid] at hcount
    exact ⟨hdead, hcount⟩

end Headhunt.Feishu
