import Headhunt.Feishu.Attempts
import Headhunt.Feishu.Gateways

/-! When a failed outbox row may be claimed again. The dispatcher counts the delay from the
claim and not from the failure, and a worker that was overtaken can still move the date. -/
namespace Headhunt.Feishu
open Headhunt.Storage Transition

/-- `base_retry_seconds * 2 ** (attempts - 1)`. -/
def FeishuOutboxDispatcher.backoff (d : FeishuOutboxDispatcher) (attempts : Nat) : Int :=
  d.baseRetrySeconds * 2 ^ (attempts - 1)

/-- The delay a failed attempt owes: what the gateway asked for, or the backoff. -/
def FeishuOutboxDispatcher.owedDelay (d : FeishuOutboxDispatcher) (failure : HandlerFailure)
    (attempt : Nat) : Int :=
  failure.reportedRetryAfter.getD (d.backoff attempt)

/-- The delay the dispatcher takes from the exception, where a zero counts as none. -/
def FeishuOutboxDispatcher.takenDelay (d : FeishuOutboxDispatcher) (exc : OutboxDispatchError)
    (attempts : Nat) : Int :=
  (exc.retryAfterSeconds.filter fun n => n ≠ 0).getD (d.backoff attempts)

theorem FeishuOutboxDispatcher.retryAfter_eq (d : FeishuOutboxDispatcher)
    (exc : OutboxDispatchError) (attempts : Nat) :
    d.retryAfter exc attempts = d.takenDelay exc attempts := by
  unfold retryAfter takenDelay backoff
  cases exc.retryAfterSeconds with
  | none => rfl
  | some n => by_cases hn : n = 0 <;> simp [Option.filter, hn]

/-- What a failure does to the row it is about. -/
theorem FeishuOutboxDispatcher.finish_error (d : FeishuOutboxDispatcher) {item row : FeishuOutbox}
    (currentTime : Time) (exc : OutboxDispatchError) {table : OutboxTable}
    (hf : Table.find FeishuOutbox.id item.id table = some row) (hpos : 0 < row.attemptCount) :
    ∃ row', Table.find FeishuOutbox.id item.id
        (d.finish item currentTime (.error exc) table) = some row' ∧
      row'.attemptCount = row.attemptCount ∧
      (d.maxAttempts ≤ row.attemptCount → row'.status = .deadLetter) ∧
      (row.attemptCount < d.maxAttempts →
        row'.waitsUntil =
          if IsDatetime (currentTime + seconds (d.takenDelay exc row.attemptCount)) then
            some (currentTime + seconds (d.takenDelay exc row.attemptCount))
          else row.waitsUntil) := by
  have hid : row.id = item.id := Table.find_key hf
  have hcount : (if row.attemptCount = 0 then 1 else row.attemptCount) = row.attemptCount :=
    if_neg (by omega)
  simp only [finish, hf, handleFailure, hcount, hid, retryAfter_eq]
  by_cases hmax : d.maxAttempts ≤ row.attemptCount
  · rw [if_pos hmax]
    refine ⟨_, find_updateOutbox hf fun _ => rfl, rfl, fun _ => rfl, ?_⟩
    intro hlt
    omega
  · rw [if_neg hmax]
    by_cases hdate : IsDatetime (currentTime + seconds (d.takenDelay exc row.attemptCount)) = true
    · simp only [if_pos hdate]
      exact ⟨_, find_updateOutbox hf fun _ => rfl, rfl, fun hle => absurd hle hmax, fun _ => rfl⟩
    · simp only [if_neg hdate]
      exact ⟨row, hf, rfl, fun hle => absurd hle hmax, fun _ => rfl⟩

/-- Any completion leaves the claim counter, and the row waits no more if it has no
attempt left. -/
theorem FeishuOutboxDispatcher.finish_find (d : FeishuOutboxDispatcher) {item row : FeishuOutbox}
    (currentTime : Time) (outcome : Except OutboxDispatchError Unit) {table : OutboxTable}
    (hf : Table.find FeishuOutbox.id item.id table = some row) (hpos : 0 < row.attemptCount) :
    ∃ row', Table.find FeishuOutbox.id item.id (d.finish item currentTime outcome table) =
        some row' ∧ row'.attemptCount = row.attemptCount ∧
      (d.maxAttempts ≤ row.attemptCount → row'.waitsUntil = none) := by
  cases outcome with
  | ok u => exact ⟨_, find_updateOutbox hf fun _ => rfl, rfl, fun _ => rfl⟩
  | error exc =>
    obtain ⟨row', hf', hcount, hdead, _⟩ := d.finish_error currentTime exc hf hpos
    refine ⟨row', hf', hcount, ?_⟩
    intro hmax
    rw [FeishuOutbox.waitsUntil, hdead hmax]

section Steps

variable {ω : Type*} [DecidableEq ω] {config : ω → FeishuOutboxDispatcher}

/-- A row stays as it is unless a worker claims it or completes it. -/
theorem Cluster.step_find {s t : Cluster ω} {e : Event ω} {id : Py.UUID} {r : FeishuOutbox}
    (hu : Table.Unique FeishuOutbox.id s.outbox)
    (hr : Table.find FeishuOutbox.id id s.outbox = some r) (h : s.step config e = some t) :
    Table.find FeishuOutbox.id id t.outbox = some r ∨
      (r.claimable s.clock = true ∧ ∃ item, Table.find FeishuOutbox.id id t.outbox = some item ∧
        item.attemptCount = r.attemptCount + 1) ∨
      ∃ w outcome h', e = .finish w outcome ∧ s.held w = some h' ∧ h'.item.id = id ∧
        t.outbox = (config w).finish h'.item h'.currentTime outcome s.outbox := by
  cases e with
  | tick d =>
    obtain rfl := Option.some.inj h
    exact .inl hr
  | enqueue row =>
    simp only [Cluster.step] at h
    split_ifs at h
    obtain rfl := Option.some.inj h
    refine .inl ?_
    rw [Table.find_append_singleton, hr, Option.some_or]
  | claim w locked =>
    obtain ⟨_, ⟨_, rfl⟩ | ⟨item, table, hc, rfl⟩⟩ := Cluster.step_claim h
    · exact .inl hr
    · obtain ⟨row, hmem, hcl, _, hcount, _, _, _, f, hf, hfrow, rfl⟩ :=
        FeishuOutboxDispatcher.claim_spec hc
      by_cases hid : id = row.id
      · have hrow : row = r := by
          have hfind := (Table.find_eq_some_iff hu).mpr ⟨hmem, hid.symm⟩
          exact Option.some.inj (hfind.symm.trans hr)
        subst hrow
        refine .inr (.inl ⟨hcl, item, ?_, hcount⟩)
        dsimp only
        rw [hid, Table.find_modify_self hf, ← hid, hr, Option.map_some, hfrow]
      · refine .inl ?_
        dsimp only
        rw [Table.find_modify_ne hf _ hid]
        exact hr
  | finish w outcome =>
    obtain ⟨h', hw, rfl⟩ := Option.map_eq_some_iff.mp h
    by_cases hid : h'.item.id = id
    · exact .inr (.inr ⟨w, outcome, h', rfl, hw, hid, rfl⟩)
    · obtain ⟨f, hf, heq⟩ := (config w).finish_spec h'.item h'.currentTime outcome s.outbox
      refine .inl ?_
      dsimp only
      rw [heq, Table.find_modify_ne (fun r => (hf r).1) _ (fun he => hid he.symm)]
      exact hr
  | crash w =>
    obtain rfl := Option.some.inj h
    exact .inl hr

/-- What a worker holds it held before or has just claimed. -/
theorem Cluster.step_held {s t : Cluster ω} {e : Event ω} {w : ω} {h' : Held}
    (h : s.step config e = some t) (hw : t.held w = some h') :
    s.held w = some h' ∨
      ∃ locked, e = .claim w locked ∧ h'.currentTime = s.clock ∧
        (config w).claim s.clock locked s.outbox = some (h'.item, t.outbox) := by
  have hrelease : ∀ w', Function.update s.held w' none w = some h' → s.held w = some h' := by
    intro w' hw
    by_cases hne : w = w'
    · simp [hne] at hw
    · simpa [hne] using hw
  cases e with
  | tick d =>
    obtain rfl := Option.some.inj h
    exact .inl hw
  | enqueue row =>
    simp only [Cluster.step] at h
    split_ifs at h
    obtain rfl := Option.some.inj h
    exact .inl hw
  | claim w' locked =>
    obtain ⟨_, ⟨_, rfl⟩ | ⟨item, table, hc, rfl⟩⟩ := Cluster.step_claim h
    · exact .inl hw
    · by_cases hne : w = w'
      · subst hne
        obtain rfl : ⟨item, s.clock⟩ = h' := by simpa using hw
        exact .inr ⟨locked, rfl, rfl, hc⟩
      · exact .inl (by simpa [hne] using hw)
  | finish w' outcome =>
    obtain ⟨_, _, rfl⟩ := Option.map_eq_some_iff.mp h
    exact .inl (hrelease w' hw)
  | crash w' =>
    obtain rfl := Option.some.inj h
    exact .inl (hrelease w' hw)

theorem Cluster.step_clock {s t : Cluster ω} {e : Event ω} (h : s.step config e = some t) :
    s.clock ≤ t.clock := by
  cases e with
  | tick d =>
    obtain rfl := Option.some.inj h
    simp
  | enqueue row =>
    simp only [Cluster.step] at h
    split_ifs at h
    obtain rfl := Option.some.inj h
    exact le_rfl
  | claim w locked =>
    obtain ⟨_, ⟨_, rfl⟩ | ⟨_, _, _, rfl⟩⟩ := Cluster.step_claim h <;> exact le_rfl
  | finish w outcome =>
    obtain ⟨_, _, rfl⟩ := Option.map_eq_some_iff.mp h
    exact le_rfl
  | crash w =>
    obtain rfl := Option.some.inj h
    exact le_rfl

theorem Cluster.step_unique {s t : Cluster ω} {e : Event ω} (h : s.step config e = some t)
    (hu : Table.Unique FeishuOutbox.id s.outbox) : Table.Unique FeishuOutbox.id t.outbox := by
  cases e with
  | tick d =>
    obtain rfl := Option.some.inj h
    exact hu
  | enqueue row =>
    simp only [Cluster.step] at h
    split_ifs at h with hrow
    obtain rfl := Option.some.inj h
    simp only [Enqueueable, decide_eq_true_eq] at hrow
    exact hu.append_singleton hrow.2.2.2.2.1
  | claim w locked =>
    obtain ⟨_, ⟨_, rfl⟩ | ⟨item, table, hc, rfl⟩⟩ := Cluster.step_claim h
    · exact hu
    · obtain ⟨_, _, _, _, _, _, _, _, f, hf, _, rfl⟩ := FeishuOutboxDispatcher.claim_spec hc
      exact hu.modify hf
  | finish w outcome =>
    obtain ⟨h', _, rfl⟩ := Option.map_eq_some_iff.mp h
    obtain ⟨f, hf, heq⟩ := (config w).finish_spec h'.item h'.currentTime outcome s.outbox
    exact heq ▸ hu.modify fun r => (hf r).1
  | crash w =>
    obtain rfl := Option.some.inj h
    exact hu

/-- What every run keeps: a row is never claimed less often than its workers know. -/
structure Tracked (s : Cluster ω) : Prop where
  unique : Table.Unique FeishuOutbox.id s.outbox
  clock : 0 ≤ s.clock
  held : ∀ w h, s.held w = some h → 0 ≤ h.currentTime ∧ 0 < h.item.attemptCount ∧
    ∃ r, Table.find FeishuOutbox.id h.item.id s.outbox = some r ∧
      h.item.attemptCount ≤ r.attemptCount

theorem FeishuOutboxDispatcher.claim_find {d : FeishuOutboxDispatcher} {now : Time}
    {locked : Py.UUID → Bool} {table table' : OutboxTable} {item : FeishuOutbox}
    (hu : Table.Unique FeishuOutbox.id table) (hc : d.claim now locked table = some (item, table')) :
    Table.find FeishuOutbox.id item.id table' = some item ∧ 0 < item.attemptCount ∧
      ∃ r, Table.find FeishuOutbox.id item.id table = some r ∧ r.claimable now = true := by
  obtain ⟨row, hmem, hcl, hid, hcount, _, _, _, f, hf, hfrow, rfl⟩ := claim_spec hc
  have hfind : Table.find FeishuOutbox.id row.id table = some row :=
    (Table.find_eq_some_iff hu).mpr ⟨hmem, rfl⟩
  rw [hid]
  refine ⟨?_, by omega, row, hfind, hcl⟩
  rw [Table.find_modify_self hf, hfind, Option.map_some, hfrow]

theorem Tracked.step {s t : Cluster ω} {e : Event ω} (hs : Tracked s)
    (h : s.step config e = some t) : Tracked t where
  unique := Cluster.step_unique h hs.unique
  clock := hs.clock.trans (Cluster.step_clock h)
  held := by
    intro w h' hw
    rcases Cluster.step_held h hw with hold | ⟨locked, _, htime, hc⟩
    · obtain ⟨htime, hpos, r, hr, hle⟩ := hs.held w h' hold
      refine ⟨htime, hpos, ?_⟩
      rcases Cluster.step_find hs.unique hr h with
        hsame | ⟨_, item, hitem, hcount⟩ | ⟨w', outcome, h'', _, _, hid, hout⟩
      · exact ⟨r, hsame, hle⟩
      · exact ⟨item, hitem, by omega⟩
      · rw [← hid] at hr
        obtain ⟨r', hr', hcount, _⟩ := (config w').finish_find h''.currentTime outcome hr (by omega)
        rw [hid, ← hout] at hr'
        exact ⟨r', hr', by omega⟩
    · obtain ⟨hfind, hpos, _⟩ := FeishuOutboxDispatcher.claim_find hs.unique hc
      exact ⟨htime ▸ hs.clock, hpos, h'.item, hfind, le_rfl⟩

/-- Until `due` the row is not claimable, and no worker can make it so. -/
structure Resting (config : ω → FeishuOutboxDispatcher) (id : Py.UUID) (count : Nat) (due : Time)
    (s : Cluster ω) : Prop where
  row : ∃ r, Table.find FeishuOutbox.id id s.outbox = some r ∧ r.attemptCount = count ∧
    ∀ e, r.waitsUntil = some e → due ≤ e
  held : ∀ w h, s.held w = some h → h.item.id = id → (config w).maxAttempts ≤ count

omit [DecidableEq ω] in
theorem Resting.claimable {id : Py.UUID} {count : Nat} {due : Time} {s : Cluster ω}
    (hs : Resting config id count due s) (hclock : s.clock < due) {r : FeishuOutbox}
    (hr : Table.find FeishuOutbox.id id s.outbox = some r) : r.claimable s.clock = false := by
  rw [Bool.eq_false_iff]
  intro hcl
  obtain ⟨e, he, hle⟩ := FeishuOutbox.claimable_iff_waitsUntil.mp hcl
  obtain ⟨r', hr', _, hwait⟩ := hs.row
  obtain rfl := Option.some.inj (hr'.symm.trans hr)
  exact absurd ((hwait e he).trans hle) (not_le.mpr hclock)

theorem Resting.step {id : Py.UUID} {count : Nat} {due : Time} {s t : Cluster ω} {e : Event ω}
    (hu : Table.Unique FeishuOutbox.id s.outbox) (hpos : 0 < count)
    (hs : Resting config id count due s) (hclock : s.clock < due)
    (h : s.step config e = some t) : Resting config id count due t where
  row := by
    obtain ⟨r, hr, hcount, hwait⟩ := hs.row
    rcases Cluster.step_find hu hr h with
      hsame | ⟨hcl, _⟩ | ⟨w, outcome, h', _, hw, hid, hout⟩
    · exact ⟨r, hsame, hcount, hwait⟩
    · rw [hs.claimable hclock hr] at hcl
      cases hcl
    · -- the completion of a worker that is on its last attempt
      rw [← hid] at hr
      obtain ⟨r', hr', hcount', hnone⟩ := (config w).finish_find h'.currentTime outcome hr (by omega)
      rw [hid, ← hout] at hr'
      refine ⟨r', hr', hcount'.trans hcount, ?_⟩
      intro e he
      rw [hnone (hcount ▸ hs.held w h' hw hid)] at he
      cases he
  held := by
    intro w h' hw hid
    rcases Cluster.step_held h hw with hold | ⟨locked, _, _, hc⟩
    · exact hs.held w h' hold hid
    · obtain ⟨_, _, r, hr, hcl⟩ := FeishuOutboxDispatcher.claim_find hu hc
      rw [hid] at hr
      rw [hs.claimable hclock hr] at hcl
      cases hcl

/-- In no run does the row come up for claiming before `due`. -/
def NotClaimableBefore (config : ω → FeishuOutboxDispatcher) (id : Py.UUID) (due : Time)
    (s : Cluster ω) : Prop :=
  ∀ tr t row, exec (Cluster.step config) s tr = some t → t.clock < due →
    Table.find FeishuOutbox.id id t.outbox = some row → row.claimable t.clock = false

theorem Cluster.exec_clock {s t : Cluster ω} {tr : List (Event ω)}
    (hrun : exec (Cluster.step config) s tr = some t) : s.clock ≤ t.clock := by
  refine exec_invariant (P := fun _ _ => True) (fun u => s.clock ≤ u.clock) ?_ le_rfl ?_ hrun
  · exact fun _ _ _ hle _ h => hle.trans (Cluster.step_clock h)
  · exact along_iff_forall.mpr fun _ _ _ _ _ _ => trivial

theorem Resting.notClaimableBefore {id : Py.UUID} {count : Nat} {due : Time} {s : Cluster ω}
    (hu : Table.Unique FeishuOutbox.id s.outbox) (hpos : 0 < count)
    (hs : Resting config id count due s) : NotClaimableBefore config id due s := by
  intro tr t row hrun hclock hrow
  have hrest : Table.Unique FeishuOutbox.id t.outbox ∧
      (t.clock < due → Resting config id count due t) := by
    refine exec_invariant (P := fun _ _ => True) (fun u => Table.Unique FeishuOutbox.id u.outbox ∧
      (u.clock < due → Resting config id count due u)) ?_ ⟨hu, fun _ => hs⟩ ?_ hrun
    · rintro u e v ⟨hu, hrest⟩ _ h
      refine ⟨Cluster.step_unique h hu, ?_⟩
      intro hv
      have hlt : u.clock < due := (Cluster.step_clock h).trans_lt hv
      exact (hrest hlt).step hu hpos hlt h
    · exact along_iff_forall.mpr fun _ _ _ _ _ _ => trivial
  exact (hrest.2 hclock).claimable hclock hrow

/-- The clock after waiting for the instant `e`. -/
theorem tick_bounds {clock e due : Int} (hclock : clock < due) (he : e < due) :
    clock + (e - clock).toNat < due ∧ e ≤ clock + (e - clock).toNat := by
  omega

/-- A row that is not claimable before `due` waits as long. -/
theorem NotClaimableBefore.le_waitsUntil {id : Py.UUID} {due e : Time} {s : Cluster ω}
    {row : FeishuOutbox} (hs : NotClaimableBefore config id due s)
    (hrow : Table.find FeishuOutbox.id id s.outbox = some row) (he : row.waitsUntil = some e)
    (hclock : s.clock < due) : due ≤ e := by
  by_contra hlt
  have hstep : s.step config (.tick (e - s.clock).toNat) =
      some { s with clock := s.clock + (e - s.clock).toNat } := rfl
  obtain ⟨hbefore, hafter⟩ := tick_bounds hclock (not_le.mp hlt)
  have hcl := hs [.tick (e - s.clock).toNat] _ row
    (exec_cons_eq_some.mpr ⟨_, hstep, rfl⟩) hbefore hrow
  rw [Bool.eq_false_iff] at hcl
  exact hcl (FeishuOutbox.claimable_iff_waitsUntil.mpr ⟨e, he, hafter⟩)

structure Booted (s : Cluster ω) : Prop where
  initial : Initial s
  clock : 0 ≤ s.clock

omit [DecidableEq ω] in
theorem Booted.tracked {s : Cluster ω} (hs : Booted s) : Tracked s where
  unique := hs.initial.1
  clock := hs.clock
  held w h hw := by simp [hs.initial.2 w] at hw

/-- The date before which a failed attempt owes no other. -/
def owedDate (config : ω → FeishuOutboxDispatcher) (w : ω) (h : Held) (failure : HandlerFailure)
    (failedAt : Time) : Time :=
  failedAt + seconds ((config w).owedDelay failure h.item.attemptCount)

/-- What is owed after the handler of `w` has failed at `failedAt` and `v` is reached. -/
structure RetrySpaced (config : ω → FeishuOutboxDispatcher) (w : ω) (h : Held)
    (failure : HandlerFailure) (failedAt : Time) (v : Cluster ω) : Prop where
  spaced : h.item.attemptCount < (config w).maxAttempts →
    NotClaimableBefore config h.item.id (owedDate config w h failure failedAt) v
  dead : (config w).maxAttempts ≤ h.item.attemptCount → FinalAt h.item.id .deadLetter v

/-- The date the dispatcher writes for its row, counted from the claim, keeps the delay; a
date that is no `datetime` is not written, and the row's own must keep it. -/
def DateKept (config : ω → FeishuOutboxDispatcher) (w : ω) (h : Held) (failure : HandlerFailure)
    (failedAt : Time) (row : FeishuOutbox) : Prop :=
  let next := h.currentTime +
    seconds ((config w).takenDelay failure.dispatchError row.attemptCount)
  if IsDatetime next then owedDate config w h failure failedAt ≤ next
  else ∀ e, row.waitsUntil = some e → owedDate config w h failure failedAt ≤ e

/-- When the delay of an attempt is kept: no attempt or no delay is left, or no other worker
can move the date of the row, and the date is late enough. -/
def DelayKept (config : ω → FeishuOutboxDispatcher) (w : ω) (h : Held) (failure : HandlerFailure)
    (u : Cluster ω) : Prop :=
  (config w).maxAttempts ≤ h.item.attemptCount ∨
  (config w).owedDelay failure h.item.attemptCount ≤ 0 ∨
  ∀ row, Table.find FeishuOutbox.id h.item.id u.outbox = some row →
    (∀ w' h', w' ≠ w → u.held w' = some h' → h'.item.id = h.item.id →
      (config w').maxAttempts ≤ row.attemptCount) ∧
    ((config w).maxAttempts ≤ row.attemptCount ∨ DateKept config w h failure u.clock row)

/-- A delay that takes any claim back before the epoch, but not out of the calendar. -/
theorem isDatetime_back {currentTime : Int} (h : 0 ≤ currentTime) :
    -(currentTime / 1000000) - 1 ≠ 0 ∧
      IsDatetime (currentTime + seconds (-(currentTime / 1000000) - 1)) = true ∧
      currentTime + seconds (-(currentTime / 1000000) - 1) < 0 := by
  have hsplit := Int.mul_ediv_add_emod currentTime 1000000
  have hlow := Int.emod_nonneg currentTime (by decide : (1000000 : Int) ≠ 0)
  have hhigh := Int.emod_lt_of_pos currentTime (by decide : (0 : Int) < 1000000)
  have hdiv := Int.ediv_nonneg h (by decide : (0 : Int) ≤ 1000000)
  have hnext : currentTime + seconds (-(currentTime / 1000000) - 1) =
      currentTime % 1000000 - 1000000 := by
    unfold seconds
    omega
  rw [hnext]
  have hrange : (-62135596800000000 : Int) ≤ currentTime % 1000000 - 1000000 ∧
      currentTime % 1000000 - 1000000 < (253402300800000000 : Int) := by omega
  exact ⟨by omega, decide_eq_true hrange, by omega⟩

/-- What the failure of `w` leaves of its row and of the workers. -/
theorem Tracked.failed {u v : Cluster ω} {w : ω} {h : Held} {exc : OutboxDispatchError}
    (hu : Tracked u) (hw : u.held w = some h)
    (hstep : u.step config (.finish w (.error exc)) = some v) :
    ∃ row row', Table.find FeishuOutbox.id h.item.id u.outbox = some row ∧
      Table.find FeishuOutbox.id h.item.id v.outbox = some row' ∧
      0 < row.attemptCount ∧ h.item.attemptCount ≤ row.attemptCount ∧
      row'.attemptCount = row.attemptCount ∧
      ((config w).maxAttempts ≤ row.attemptCount → row'.status = .deadLetter) ∧
      (row.attemptCount < (config w).maxAttempts → row'.waitsUntil =
        if IsDatetime (h.currentTime + seconds ((config w).takenDelay exc row.attemptCount)) then
          some (h.currentTime + seconds ((config w).takenDelay exc row.attemptCount))
        else row.waitsUntil) ∧
      v.clock = u.clock ∧ ∀ w', v.held w' = if w' = w then none else u.held w' := by
  obtain ⟨htime, hpos, row, hrow, hle⟩ := hu.held w h hw
  obtain ⟨row', hrow', hcount, hdead, hwait⟩ :=
    (config w).finish_error h.currentTime exc hrow (hpos.trans_le hle)
  obtain rfl : v = { u with
      outbox := (config w).finish h.item h.currentTime (.error exc) u.outbox
      held := Function.update u.held w none } := by
    simpa [Cluster.step, hw] using hstep.symm
  refine ⟨row, row', hrow, hrow', hpos.trans_le hle, hle, hcount, hdead, hwait, rfl, ?_⟩
  intro w'
  by_cases hne : w' = w <;> simp [hne]

/-- Another worker that still holds the row, with an attempt left, can fail at any date. -/
theorem NotClaimableBefore.exhausted {u : Cluster ω} {w : ω} {h : Held} {row : FeishuOutbox}
    {due : Time} (hu : Tracked u) (hw : u.held w = some h)
    (hrow : Table.find FeishuOutbox.id h.item.id u.outbox = some row) (hclock : u.clock < due)
    (hs : NotClaimableBefore config h.item.id due u) :
    (config w).maxAttempts ≤ row.attemptCount := by
  by_contra hlt
  obtain ⟨htime, _⟩ := hu.held w h hw
  obtain ⟨hne, hdate, hneg⟩ := isDatetime_back htime
  let exc : OutboxDispatchError := ⟨"", some (-(h.currentTime / 1000000) - 1)⟩
  have htaken : (config w).takenDelay exc row.attemptCount = -(h.currentTime / 1000000) - 1 := by
    simp [FeishuOutboxDispatcher.takenDelay, exc, Option.filter, hne]
  obtain ⟨t, hstep⟩ : ∃ t, u.step config (.finish w (.error exc)) = some t := by
    simp [Cluster.step, hw]
  obtain ⟨old, new, hold, hnew, _, _, _, _, hwait, hsame, _⟩ := hu.failed hw hstep
  obtain rfl := Option.some.inj (hold.symm.trans hrow)
  have hwait := hwait (not_le.mp hlt)
  rw [htaken, if_pos hdate] at hwait
  have hcl := hs [.finish w (.error exc)] t new (exec_cons_eq_some.mpr ⟨t, hstep, rfl⟩)
    (hsame ▸ hclock) hnew
  rw [Bool.eq_false_iff] at hcl
  refine hcl (FeishuOutbox.claimable_iff_waitsUntil.mpr ⟨_, hwait, ?_⟩)
  rw [hsame]
  exact hneg.le.trans hu.clock

end Steps

def RetrySpacing {ω : Type*} [DecidableEq ω] (config : ω → FeishuOutboxDispatcher) : Prop :=
  ∀ (s u v : Cluster ω) (tr : List (Event ω)) (w : ω) (h : Held) (failure : HandlerFailure),
    Booted s → exec (Cluster.step config) s tr = some u → u.held w = some h →
    u.step config (.finish w (.error failure.dispatchError)) = some v →
    RetrySpaced config w h failure u.clock v

theorem lateStart_booted : Booted lateStart where
  initial := lateStart_initial
  clock := by decide

def slowHandler : List (Event Bool) := [.claim true fun _ => false, .tick 20000000]

def timedOut : HandlerFailure := .handler (.uncaught "timeout")

def fails : Event Bool := .finish true (.error timedOut.dispatchError)

def lateHeld : Held where
  item := { lateRow with
    status := .claimed
    attemptCount := 1
    claimedBy := some "a"
    claimedAt := some 0
    claimExpiresAt := some 300000000 }
  currentTime := 0

end Headhunt.Feishu
