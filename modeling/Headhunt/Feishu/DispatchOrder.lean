import Headhunt.Feishu.WorkerLoop

/-! The order in which the worker loop takes up due rows. In a stretch of rounds in which
no other row becomes due, it dispatches the due rows in the order of the claim query, each
of them once, whatever their handlers answer. -/
namespace Headhunt.Feishu
open Headhunt.Storage

section Order

variable {d : FeishuOutboxDispatcher} {start : Time} {rounds : Nat → Round}

def claimableRows (d : FeishuOutboxDispatcher) (start : Time) (rounds : Nat → Round) (n : Nat) :
    List FeishuOutbox :=
  (runWorkerLoop d start rounds n).outbox.filter fun row =>
    row.claimable (runWorkerLoop d start rounds n).clock

/-- The row that round `n` dispatches, as it was before it was claimed. -/
def dispatchedRow (d : FeishuOutboxDispatcher) (start : Time) (rounds : Nat → Round) (n : Nat) :
    Option FeishuOutbox :=
  (dispatched d start rounds n).bind fun item =>
    Table.find FeishuOutbox.id item.id (runWorkerLoop d start rounds n).outbox

/-- The rows that the rounds `a, ..., a + k - 1` dispatch, one after the other. -/
def sweptRows (d : FeishuOutboxDispatcher) (start : Time) (rounds : Nat → Round) (a k : Nat) :
    List FeishuOutbox :=
  (List.range' a k).filterMap (dispatchedRow d start rounds)

/-- A dispatch that began at `now` leaves its row claimed: the worker has died, or the next
date cannot be written. -/
def StaysClaimed (d : FeishuOutboxDispatcher) (now : Time) (attempts : Nat) :
    Option (Except OutboxDispatchError Unit) → Prop
  | none => True
  | some (.ok _) => False
  | some (.error exc) =>
    attempts < d.maxAttempts ∧ IsDatetime (now + seconds (d.takenDelay exc attempts)) = false

/-- The rounds `a, ..., a + k - 1` are over before another row, or one of theirs again,
is due. -/
structure Sweep (d : FeishuOutboxDispatcher) (start : Time) (rounds : Nat → Round) (a k : Nat) :
    Prop where
  unlocked : ∀ n, a ≤ n → n < a + k → ∀ id, (rounds n).locked id = false
  nothingNew : ∀ n, a ≤ n → n < a + k → (rounds n).enqueued = []
  dates : ∀ row ∈ (runWorkerLoop d start rounds a).outbox, ∀ date, row.waitsUntil = some date →
    date ≤ (runWorkerLoop d start rounds a).clock ∨
      (runWorkerLoop d start rounds (a + k)).clock < date
  lease : ∀ n, a ≤ n → n < a + k → ∀ item, dispatched d start rounds n = some item →
    StaysClaimed d (runWorkerLoop d start rounds n).clock item.attemptCount (rounds n).outcome →
      (runWorkerLoop d start rounds (a + k)).clock <
        (runWorkerLoop d start rounds n).clock + seconds d.claimLeaseSeconds
  delay : ∀ n, a ≤ n → n < a + k → ∀ item exc, dispatched d start rounds n = some item →
    (rounds n).outcome = some (.error exc) → item.attemptCount < d.maxAttempts →
    IsDatetime ((runWorkerLoop d start rounds n).clock +
      seconds (d.takenDelay exc item.attemptCount)) = true →
      (runWorkerLoop d start rounds (a + k)).clock <
        (runWorkerLoop d start rounds n).clock + seconds (d.takenDelay exc item.attemptCount)

/-- The row a round dispatches is the one its claim query selects. -/
theorem dispatchedRow_spec {n : Nat} {item : FeishuOutbox}
    (hd : dispatched d start rounds n = some item) :
    ∃ row f, dispatchedRow d start rounds n = some row ∧
      buildClaimableOutboxQuery (runWorkerLoop d start rounds n).clock (rounds n).locked
        (runWorkerLoop d start rounds n).outbox = some row ∧
      ((runWorkerLoop d start rounds n).dispatchOnce d (rounds n)).2 =
        Table.modify FeishuOutbox.id row.id f (runWorkerLoop d start rounds n).outbox ∧
      (f row).attemptCount = item.attemptCount ∧
      Left d (runWorkerLoop d start rounds n).clock (f row) (rounds n).outcome := by
  have hu := (loopInv d start rounds n).unique
  obtain ⟨row, f, hquery, hid, _, htable, hcount, hattempts, hleft⟩ :=
    LoopState.dispatchOnce_spec hu hd
  have hmem := (buildClaimableOutboxQuery_mem hquery).1
  refine ⟨row, f, ?_, hquery, htable, hcount.trans hattempts.symm, hleft⟩
  rw [dispatchedRow, hd, Option.bind_some]
  exact (Table.find_eq_some_iff hu).mpr ⟨hmem, hid⟩

theorem clock_mono {m n : Nat} (hmn : m ≤ n) :
    (runWorkerLoop d start rounds m).clock ≤ (runWorkerLoop d start rounds n).clock := by
  induction n, hmn using Nat.le_induction with
  | base => exact le_rfl
  | succ n _ ih =>
    apply ih.trans
    show (runWorkerLoop d start rounds n).clock ≤
      (runWorkerLoop d start rounds n).clock + ((rounds n).elapsed : Int)
    exact Int.le_add_of_nonneg_right (Int.natCast_nonneg _)

/-- What a dispatch leaves of its row is not due before its lease or its delay is over. -/
theorem Left.not_due {now stop date : Time} {row : FeishuOutbox}
    {outcome : Option (Except OutboxDispatchError Unit)} (h : Left d now row outcome)
    (hlease : StaysClaimed d now row.attemptCount outcome →
      stop < now + seconds d.claimLeaseSeconds)
    (hdelay : ∀ exc, outcome = some (.error exc) → row.attemptCount < d.maxAttempts →
      IsDatetime (now + seconds (d.takenDelay exc row.attemptCount)) = true →
        stop < now + seconds (d.takenDelay exc row.attemptCount))
    (hdate : row.waitsUntil = some date) : stop < date := by
  have hopen := not_isFinal_of_waitsUntil hdate
  cases h with
  | succeeded u hstatus => exact absurd (by rw [hstatus]; trivial) hopen
  | dead exc hstatus _ => exact absurd (by rw [hstatus]; trivial) hopen
  | waits exc date' hwaits hmax hkind =>
    obtain rfl : date' = date := Option.some.inj (hwaits.symm.trans hdate)
    rw [hkind]
    split_ifs with hwritten
    · exact hdelay exc rfl hmax hwritten
    · apply hlease
      exact ⟨hmax, by simpa using hwritten⟩
  | abandoned hwaits =>
    obtain rfl := Option.some.inj (hwaits.symm.trans hdate)
    exact hlease trivial

/-- A row that the sweep has dispatched is not due again before its end. -/
theorem Sweep.not_due_again {a k : Nat} (h : Sweep d start rounds a k) {n : Nat} (han : a ≤ n)
    (hnk : n < a + k) {item row : FeishuOutbox} {date : Time}
    (hitem : dispatched d start rounds n = some item)
    (hcount : row.attemptCount = item.attemptCount)
    (hleft : Left d (runWorkerLoop d start rounds n).clock row (rounds n).outcome)
    (hdate : row.waitsUntil = some date) :
    (runWorkerLoop d start rounds (a + k)).clock < date := by
  apply hleft.not_due _ _ hdate
  · rw [hcount]
    exact h.lease n han hnk item hitem
  · intro exc hexc
    rw [hcount]
    exact h.delay n han hnk item exc hitem hexc

theorem Sweep.dates_kept {a k : Nat} (h : Sweep d start rounds a k) {n : Nat} (han : a ≤ n)
    (hnk : n ≤ a + k) : ∀ row ∈ (runWorkerLoop d start rounds n).outbox, ∀ date,
      row.waitsUntil = some date → date ≤ (runWorkerLoop d start rounds a).clock ∨
        (runWorkerLoop d start rounds (a + k)).clock < date := by
  induction n, han using Nat.le_induction with
  | base => exact h.dates
  | succ n han ih =>
    have hn : n < a + k := by omega
    have hbefore := ih (by omega)
    intro row hrow date hdate
    rw [outbox_succ (h.nothingNew n han hn)] at hrow
    cases hd : dispatched d start rounds n with
    | none =>
      rw [(LoopState.dispatchOnce_idle hd).1] at hrow
      exact hbefore row hrow date hdate
    | some item =>
      have hu := (loopInv d start rounds n).unique
      obtain ⟨taken, f, _, hquery, htable, hcount, hleft⟩ := dispatchedRow_spec hd
      have hmem := (buildClaimableOutboxQuery_mem hquery).1
      rw [htable] at hrow
      obtain ⟨old, hold, rfl⟩ := Table.mem_modify.mp hrow
      by_cases hid : old.id = taken.id
      · obtain rfl := hu.eq hold hmem hid
        rw [if_pos rfl] at hdate
        exact .inr (h.not_due_again han hn hd hcount hleft hdate)
      · rw [if_neg hid] at hdate
        exact hbefore old hold date hdate

theorem Sweep.claimable_eq {a k : Nat} (h : Sweep d start rounds a k) {n : Nat} (han : a ≤ n)
    (hnk : n ≤ a + k) {row : FeishuOutbox} (hrow : row ∈ (runWorkerLoop d start rounds n).outbox) :
    row.claimable (runWorkerLoop d start rounds n).clock =
      row.claimable (runWorkerLoop d start rounds a).clock := by
  have hfirst : (runWorkerLoop d start rounds a).clock ≤ (runWorkerLoop d start rounds n).clock :=
    clock_mono han
  have hlast : (runWorkerLoop d start rounds n).clock ≤
      (runWorkerLoop d start rounds (a + k)).clock := clock_mono hnk
  have hdates := h.dates_kept han hnk row hrow
  rw [Bool.eq_iff_iff, FeishuOutbox.claimable_iff_waitsUntil, FeishuOutbox.claimable_iff_waitsUntil]
  constructor
  · intro ⟨date, hdate, hdue⟩
    rcases hdates date hdate with hle | hlt
    · exact ⟨date, hdate, hle⟩
    · exact absurd (hdue.trans hlast) (not_le.mpr hlt)
  · intro ⟨date, hdate, hdue⟩
    exact ⟨date, hdate, hdue.trans hfirst⟩

theorem Sweep.claimableRows_eq {a k : Nat} (h : Sweep d start rounds a k) {n : Nat} (han : a ≤ n)
    (hnk : n ≤ a + k) : claimableRows d start rounds n =
      (runWorkerLoop d start rounds n).outbox.filter fun row =>
        row.claimable (runWorkerLoop d start rounds a).clock :=
  List.filter_congr fun _ hrow => h.claimable_eq han hnk hrow

theorem dispatchedRow_eq_none {n : Nat} (h : dispatchedRow d start rounds n = none) :
    dispatched d start rounds n = none := by
  cases hd : dispatched d start rounds n with
  | none => rfl
  | some item =>
    obtain ⟨row, f, hrow, _⟩ := dispatchedRow_spec hd
    rw [h] at hrow
    contradiction

/-- With nobody holding locks the claim query selects among all claimable rows. -/
theorem dispatchedRow_eq {n : Nat} (hunlocked : ∀ id, (rounds n).locked id = false) :
    dispatchedRow d start rounds n =
      Table.first? FeishuOutbox.claimRank (claimableRows d start rounds n) := by
  have hrows : claimableRows d start rounds n =
      (runWorkerLoop d start rounds n).outbox.filter fun row =>
        row.claimable (runWorkerLoop d start rounds n).clock && !(rounds n).locked row.id := by
    apply List.filter_congr
    intro row _
    simp [hunlocked]
  cases hd : dispatched d start rounds n with
  | none =>
    have hidle := (LoopState.dispatchOnce_idle hd).2
    have hnone : claimableRows d start rounds n = [] := by
      apply List.filter_eq_nil_iff.mpr
      intro row hrow hclaimable
      have hlocked := hidle row hrow hclaimable
      rw [hunlocked] at hlocked
      contradiction
    rw [dispatchedRow, hd, hnone]
    rfl
  | some item =>
    obtain ⟨row, f, hrow, hquery, _⟩ := dispatchedRow_spec hd
    rw [hrow, hrows]
    exact hquery.symm

theorem Sweep.drains {a k : Nat} (h : Sweep d start rounds a k) {n : Nat} (han : a ≤ n)
    (hnk : n < a + k) : Table.Drains FeishuOutbox.id FeishuOutbox.claimRank
      (claimableRows d start rounds) (dispatchedRow d start rounds) n where
  first := dispatchedRow_eq (h.unlocked n han hnk)
  rest row hrow := by
    have hu := (loopInv d start rounds n).unique
    obtain ⟨item, hitem, _⟩ := Option.bind_eq_some_iff.mp hrow
    obtain ⟨taken, f, htaken, hquery, htable, hcount, hleft⟩ := dispatchedRow_spec hitem
    obtain rfl : taken = row := Option.some.inj (htaken.symm.trans hrow)
    have hmem := (buildClaimableOutboxQuery_mem hquery).1
    rw [h.claimableRows_eq (by omega : a ≤ n + 1) (by omega), h.claimableRows_eq han hnk.le,
      outbox_succ (h.nothingNew n han hnk), htable]
    apply Table.filter_modify
    intro old hold hsame
    obtain rfl := hu.eq hold hmem hsame
    rw [← Bool.not_eq_true, FeishuOutbox.claimable_iff_waitsUntil]
    intro ⟨date, hdate, hdue⟩
    have hlate := h.not_due_again han hnk hitem hcount hleft hdate
    have hclock : (runWorkerLoop d start rounds a).clock ≤
        (runWorkerLoop d start rounds (a + k)).clock := clock_mono (by omega)
    exact absurd (hdue.trans hclock) (not_le.mpr hlate)
  idle hnone := by
    have hidle := LoopState.dispatchOnce_idle (dispatchedRow_eq_none hnone)
    rw [h.claimableRows_eq (by omega : a ≤ n + 1) (by omega), h.claimableRows_eq han hnk.le,
      outbox_succ (h.nothingNew n han hnk), hidle.1]

/-- A sweep takes the due rows in the order of the claim query, none of them twice, and no
round of it is idle while due rows are left. -/
theorem dispatchOrder_of_sweep {a k : Nat} (h : Sweep d start rounds a k) :
    (sweptRows d start rounds a k ++ claimableRows d start rounds (a + k)).Perm
        (claimableRows d start rounds a) ∧
      (sweptRows d start rounds a k).Pairwise (fun earlier later =>
        Table.keyBefore later.claimRank earlier.claimRank = false) ∧
      (sweptRows d start rounds a k).length = min k (claimableRows d start rounds a).length := by
  have hu : Table.Unique FeishuOutbox.id (claimableRows d start rounds a) :=
    List.Nodup.sublist (List.Sublist.map FeishuOutbox.id List.filter_sublist)
      (loopInv d start rounds a).unique
  have hrank : ∀ row : FeishuOutbox, row.claimRank.length = 5 := fun _ => rfl
  exact Table.drains hrank (fun n han hnk => h.drains han hnk) hu

end Order

def lateCard : FeishuOutbox :=
  { lateRow with id := Py.UUID.ofNat 2, kind := .cardSend, idempotencyKey := "card:k" }

def busyRounds (n : Nat) : Round where
  locked _ := false
  outcome := if n = 1 then some (.error ⟨"timeout", none⟩) else none
  enqueued := if n = 0 then [lateRow, lateCard] else []
  elapsed := 1

theorem busyRounds_sweep : Sweep ⟨"a", 5, 30, 300⟩ 0 busyRounds 1 2 where
  unlocked _ _ _ _ := rfl
  nothingNew n hn _ := if_neg (by omega)
  dates := by decide
  lease n hn hk _ _ _ := by
    obtain rfl | rfl : n = 1 ∨ n = 2 := by omega
    · decide
    · decide
  delay n hn hk item exc _ hfails _ _ := by
    obtain rfl | rfl : n = 1 ∨ n = 2 := by omega
    · obtain rfl : ⟨"timeout", none⟩ = exc := by simpa [busyRounds] using hfails
      have hpow : 0 < (2 : Int) ^ (item.attemptCount - 1) := by positivity
      show (3 : Int) < 1 + 30 * 2 ^ (item.attemptCount - 1) * 1000000
      omega
    · simp [busyRounds] at hfails

theorem dispatchOrder_of_sweep_busy :
    (sweptRows ⟨"a", 5, 30, 300⟩ 0 busyRounds 1 2 ++
        claimableRows ⟨"a", 5, 30, 300⟩ 0 busyRounds 3).Perm
      (claimableRows ⟨"a", 5, 30, 300⟩ 0 busyRounds 1) ∧
      (sweptRows ⟨"a", 5, 30, 300⟩ 0 busyRounds 1 2).Pairwise (fun earlier later =>
        Table.keyBefore later.claimRank earlier.claimRank = false) ∧
      (sweptRows ⟨"a", 5, 30, 300⟩ 0 busyRounds 1 2).length =
        min 2 (claimableRows ⟨"a", 5, 30, 300⟩ 0 busyRounds 1).length :=
  dispatchOrder_of_sweep busyRounds_sweep

end Headhunt.Feishu
