import Headhunt.Feishu.Fencing

/-! How often the handler of one outbox row is started. The limit is looked at only when
a handler raises, so it holds in the runs where no worker takes over an expired claim
that was the last one allowed. -/
namespace Headhunt.Feishu
open Headhunt.Storage Transition

variable {ω : Type*} [DecidableEq ω] {config : ω → FeishuOutboxDispatcher}

def attempts (id : Py.UUID) (s : Cluster ω) : Nat :=
  ((Table.find FeishuOutbox.id id s.outbox).map FeishuOutbox.attemptCount).getD 0

def starts (config : ω → FeishuOutboxDispatcher) (id : Py.UUID) (s : Cluster ω) : Event ω → Nat
  | .claim w locked =>
    match s.held w, (config w).claim s.clock locked s.outbox with
    | none, some (item, _) => if item.id = id then 1 else 0
    | _, _ => 0
  | _ => 0

/-- The claim would take over an expired claim that has no attempt left. -/
def TakesOverExhausted (maxAttempts : Nat) (s : Cluster ω) : Event ω → Prop
  | .claim w locked => s.held w = none ∧
    ∃ row, buildClaimableOutboxQuery s.clock locked s.outbox = some row ∧
      row.expiredClaim s.clock = true ∧ maxAttempts ≤ row.attemptCount
  | _ => False

/-- After a handler has raised on the last attempt the row is dead. -/
def LastFailureDies (config : ω → FeishuOutboxDispatcher) (maxAttempts : Nat) (s : Cluster ω) :
    Event ω → Prop
  | .finish w (.error exc) => ∀ h t row, s.held w = some h →
    s.step config (.finish w (.error exc)) = some t →
    Table.find FeishuOutbox.id h.item.id t.outbox = some row → maxAttempts ≤ row.attemptCount →
    row.status = .deadLetter
  | _ => True

structure AttemptsBounded (config : ω → FeishuOutboxDispatcher) (maxAttempts : Nat)
    (s t : Cluster ω) (tr : List (Event ω)) : Prop where
  starts_le : ∀ id, tally (Cluster.step config) (starts config id) s tr ≤ maxAttempts
  /-- Without an attempt left a row is with a worker, dead or done. -/
  exhausted : ∀ row ∈ t.outbox,
    maxAttempts ≤ tally (Cluster.step config) (starts config row.id) s tr →
      row.status ≠ .pending
  lastFailure : Along (Cluster.step config) (LastFailureDies config maxAttempts) s tr

structure Fresh (s : Cluster ω) : Prop where
  unique : Table.Unique FeishuOutbox.id s.outbox
  rows : ∀ row ∈ s.outbox, row.status = .pending ∧ row.attemptCount = 0
  idle : ∀ w, s.held w = none

/-- A claim finds no row, or it counts one attempt of the row it takes. -/
theorem Cluster.step_claim {s t : Cluster ω} {w : ω} {locked : Py.UUID → Bool}
    (h : s.step config (.claim w locked) = some t) :
    s.held w = none ∧ ((config w).claim s.clock locked s.outbox = none ∧ t = s ∨
      ∃ item table, (config w).claim s.clock locked s.outbox = some (item, table) ∧
        t = { s with
          outbox := table
          held := Function.update s.held w (some ⟨item, s.clock⟩) }) := by
  simp only [Cluster.step] at h
  cases hw : s.held w with
  | some h' => simp [hw] at h
  | none =>
    refine ⟨rfl, ?_⟩
    cases hc : (config w).claim s.clock locked s.outbox with
    | none => exact .inl ⟨rfl, by simpa [hw, hc, eq_comm] using h⟩
    | some p => exact .inr ⟨p.1, p.2, rfl, by simpa [hw, hc, eq_comm] using h⟩

omit [DecidableEq ω] in
theorem attempts_of_mem {s : Cluster ω} (hu : Table.Unique FeishuOutbox.id s.outbox)
    {row : FeishuOutbox} (hrow : row ∈ s.outbox) : attempts row.id s = row.attemptCount := by
  have hfind := (Table.find_eq_some_iff hu).mpr ⟨hrow, rfl⟩
  simp [attempts, hfind]

/-- What every run keeps: ids are unique, and a row that waits has attempts left. -/
structure Paced (maxAttempts : Nat) (s : Cluster ω) : Prop where
  unique : Table.Unique FeishuOutbox.id s.outbox
  pending : ∀ row ∈ s.outbox, row.status = .pending → row.attemptCount < maxAttempts

/-- A completion leaves the row waiting only with attempts left, and a failure without
leaves it dead. The row stays as it was only when its next date cannot be written. -/
theorem FeishuOutboxDispatcher.finish_rows {d : FeishuOutboxDispatcher} {item : FeishuOutbox}
    {currentTime : Time} {outcome : Except OutboxDispatchError Unit} {table : OutboxTable}
    (hu : Table.Unique FeishuOutbox.id table) {row : FeishuOutbox}
    (hrow : row ∈ d.finish item currentTime outcome table) :
    (∃ old ∈ table, row.id = old.id ∧ row.attemptCount = old.attemptCount) ∧
      (row ∈ table ∧ row.id ≠ item.id ∨ row.id = item.id ∧
        ((∃ u, outcome = .ok u) ∧ row.status = .succeeded ∨
          (∃ exc, outcome = .error exc) ∧
            (row.status = .deadLetter ∨
              (row.status = .pending ∨ row ∈ table) ∧ row.attemptCount < d.maxAttempts))) := by
  have hmodify : ∀ {values : FeishuOutbox → FeishuOutbox},
      (∀ r, (values r).id = r.id ∧ (values r).attemptCount = r.attemptCount) →
      row ∈ updateOutbox item.id values table →
      (∃ old ∈ table, row.id = old.id ∧ row.attemptCount = old.attemptCount) ∧
        (row ∈ table ∧ row.id ≠ item.id ∨ row.id = item.id ∧
          ∃ old, Table.find FeishuOutbox.id item.id table = some old ∧ row = values old) := by
    intro values hsame hmem
    obtain ⟨old, hold, rfl⟩ := Table.mem_modify.mp hmem
    by_cases hid : old.id = item.id
    · rw [if_pos hid]
      have hfind := (Table.find_eq_some_iff hu).mpr ⟨hold, hid⟩
      exact ⟨⟨old, hold, hsame old⟩, .inr ⟨(hsame old).1.trans hid, old, hfind, rfl⟩⟩
    · rw [if_neg hid]
      exact ⟨⟨old, hold, rfl, rfl⟩, .inl ⟨hold, hid⟩⟩
  cases outcome with
  | ok u =>
    obtain ⟨hold, hother | ⟨hid, old, _, rfl⟩⟩ :=
      hmodify (fun _ => by exact ⟨rfl, rfl⟩) hrow
    · exact ⟨hold, .inl hother⟩
    · exact ⟨hold, .inr ⟨hid, .inl ⟨⟨u, rfl⟩, rfl⟩⟩⟩
  | error exc =>
    unfold FeishuOutboxDispatcher.finish at hrow
    cases hf : Table.find FeishuOutbox.id item.id table with
    | none =>
      simp only [hf] at hrow
      exact ⟨⟨row, hrow, rfl, rfl⟩, .inl ⟨hrow, Table.find_eq_none_iff.mp hf row hrow⟩⟩
    | some current =>
      have hcurrent : current.id = item.id := Table.find_key hf
      simp only [hf, FeishuOutboxDispatcher.handleFailure, hcurrent] at hrow
      have hcount : current.attemptCount ≤
          if current.attemptCount = 0 then 1 else current.attemptCount := by
        split_ifs <;> omega
      generalize (if current.attemptCount = 0 then 1 else current.attemptCount) = attempts
        at hrow hcount
      by_cases hmax : d.maxAttempts ≤ attempts
      · rw [if_pos hmax] at hrow
        obtain ⟨hold, hother | ⟨hid, old, _, rfl⟩⟩ :=
          hmodify (fun _ => by exact ⟨rfl, rfl⟩) hrow
        · exact ⟨hold, .inl hother⟩
        · exact ⟨hold, .inr ⟨hid, .inr ⟨⟨exc, rfl⟩, .inl rfl⟩⟩⟩
      · rw [if_neg hmax] at hrow
        have hleft : current.attemptCount < d.maxAttempts := by omega
        split_ifs at hrow
        · obtain ⟨hold, hother | ⟨hid, old, hfind, rfl⟩⟩ :=
            hmodify (fun _ => by exact ⟨rfl, rfl⟩) hrow
          · exact ⟨hold, .inl hother⟩
          · obtain rfl := Option.some.inj (hf.symm.trans hfind)
            exact ⟨hold, .inr ⟨hid, .inr ⟨⟨exc, rfl⟩, .inr ⟨.inl rfl, hleft⟩⟩⟩⟩
        · refine ⟨⟨row, hrow, rfl, rfl⟩, ?_⟩
          by_cases hid : row.id = item.id
          · have hsame : current = row :=
              hu.eq (Table.find_mem hf) hrow (hcurrent.trans hid.symm)
            exact .inr ⟨hid, .inr ⟨⟨exc, rfl⟩, .inr ⟨.inr hrow, hsame ▸ hleft⟩⟩⟩
          · exact .inl ⟨hrow, hid⟩

omit [DecidableEq ω] in
theorem attempts_finish (d : FeishuOutboxDispatcher) (item : FeishuOutbox) (currentTime : Time)
    (outcome : Except OutboxDispatchError Unit) (s : Cluster ω) (held : ω → Option Held)
    (id : Py.UUID) :
    attempts id { s with outbox := d.finish item currentTime outcome s.outbox, held := held } =
      attempts id s := by
  obtain ⟨f, hf, heq⟩ := d.finish_spec item currentTime outcome s.outbox
  simp only [attempts, heq]
  rw [Table.find_modify fun r => (hf r).1]
  cases Table.find FeishuOutbox.id id s.outbox with
  | none => rfl
  | some r =>
    simp only [Option.map_some, Option.getD_some]
    split_ifs
    · exact (hf r).2
    · rfl

/-- A step raises the attempts of a row by one when it starts the handler on it. -/
theorem attempts_step {s t : Cluster ω} {e : Event ω} (id : Py.UUID)
    (hu : Table.Unique FeishuOutbox.id s.outbox) (h : s.step config e = some t) :
    attempts id t = attempts id s + starts config id s e := by
  cases e with
  | tick d =>
    obtain rfl := Option.some.inj h
    rfl
  | enqueue row =>
    simp only [Cluster.step] at h
    split_ifs at h with hrow
    obtain rfl := Option.some.inj h
    simp only [Enqueueable, decide_eq_true_eq] at hrow
    simp only [attempts, starts, Table.find_append_singleton, Nat.add_zero]
    cases Table.find FeishuOutbox.id id s.outbox with
    | some r => rfl
    | none =>
      by_cases hid : row.id = id
      · simp [hid, hrow.2.1]
      · simp [hid]
  | claim w locked =>
    obtain ⟨hw, ⟨hc, rfl⟩ | ⟨item, table, hc, rfl⟩⟩ := Cluster.step_claim h
    · simp [starts, hw, hc]
    · obtain ⟨row, hmem, _, hid, hcount, _, _, _, f, hf, hfrow, rfl⟩ :=
        FeishuOutboxDispatcher.claim_spec hc
      have hfind := (Table.find_eq_some_iff hu).mpr ⟨hmem, rfl⟩
      simp only [starts, hw, hc, attempts]
      by_cases hsame : item.id = id
      · have hrow : id = row.id := hsame.symm.trans hid
        rw [if_pos hsame, hrow, Table.find_modify_self hf, hfind]
        simp [hfrow, hcount]
      · have hrow : id ≠ row.id := fun he => hsame (hid.trans he.symm)
        rw [if_neg hsame, Table.find_modify_ne hf _ hrow]
        rfl
  | finish w outcome =>
    obtain ⟨h', _, rfl⟩ := Option.map_eq_some_iff.mp h
    exact attempts_finish _ _ _ _ _ _ _
  | crash w =>
    obtain rfl := Option.some.inj h
    rfl

/-- Where a row after a claim comes from. -/
theorem FeishuOutboxDispatcher.claim_rows {d : FeishuOutboxDispatcher} {now : Time}
    {locked : Py.UUID → Bool} {table table' : OutboxTable} {item : FeishuOutbox}
    (hu : Table.Unique FeishuOutbox.id table) (h : d.claim now locked table = some (item, table'))
    {row : FeishuOutbox} (hrow : row ∈ table') : row ∈ table ∨ row = item := by
  obtain ⟨taken, hmem, _, _, _, _, _, _, f, _, hf, rfl⟩ := FeishuOutboxDispatcher.claim_spec h
  obtain ⟨old, hold, rfl⟩ := Table.mem_modify.mp hrow
  split_ifs with hid
  · obtain rfl := hu.eq hold hmem hid
    exact .inr hf
  · exact .inl hold

theorem Paced.step {maxAttempts : Nat} {s t : Cluster ω} {e : Event ω}
    (hmax : ∀ w, (config w).maxAttempts = maxAttempts) (hpos : 0 < maxAttempts)
    (hs : Paced maxAttempts s) (h : s.step config e = some t) : Paced maxAttempts t := by
  cases e with
  | tick d =>
    obtain rfl := Option.some.inj h
    exact ⟨hs.unique, hs.pending⟩
  | enqueue row =>
    simp only [Cluster.step] at h
    split_ifs at h with hrow
    obtain rfl := Option.some.inj h
    simp only [Enqueueable, decide_eq_true_eq] at hrow
    refine ⟨hs.unique.append_singleton hrow.2.2.2.2.1, ?_⟩
    intro r hr hpending
    rcases List.mem_append.mp hr with hr | hr
    · exact hs.pending r hr hpending
    · obtain rfl := List.mem_singleton.mp hr
      omega
  | claim w locked =>
    obtain ⟨_, ⟨_, rfl⟩ | ⟨item, table, hc, rfl⟩⟩ := Cluster.step_claim h
    · exact hs
    · obtain ⟨_, _, _, _, _, hclaimed, _, _, f, hf, _, htable⟩ :=
        FeishuOutboxDispatcher.claim_spec hc
      refine ⟨htable ▸ hs.unique.modify hf, ?_⟩
      intro r hr hpending
      rcases FeishuOutboxDispatcher.claim_rows hs.unique hc hr with hold | rfl
      · exact hs.pending r hold hpending
      · rw [hclaimed] at hpending
        cases hpending
  | finish w outcome =>
    obtain ⟨h', _, rfl⟩ := Option.map_eq_some_iff.mp h
    obtain ⟨f, hf, heq⟩ := (config w).finish_spec h'.item h'.currentTime outcome s.outbox
    refine ⟨heq ▸ hs.unique.modify fun r => (hf r).1, ?_⟩
    intro r hr hpending
    obtain ⟨_, ⟨hold, _⟩ | ⟨_, ⟨_, hst⟩ | ⟨_, hst | ⟨_, hlt⟩⟩⟩⟩ :=
      FeishuOutboxDispatcher.finish_rows hs.unique hr
    · exact hs.pending r hold hpending
    · rw [hst] at hpending
      cases hpending
    · rw [hst] at hpending
      cases hpending
    · rwa [hmax w] at hlt
  | crash w =>
    obtain rfl := Option.some.inj h
    exact ⟨hs.unique, hs.pending⟩

theorem Paced.lastFailureDies {maxAttempts : Nat} {s : Cluster ω} (e : Event ω)
    (hmax : ∀ w, (config w).maxAttempts = maxAttempts) (hs : Paced maxAttempts s) :
    LastFailureDies config maxAttempts s e := by
  match e with
  | .finish w (.error exc) =>
    intro h t row hw hstep hfind hlast
    simp only [Cluster.step, hw, Option.map_some, Option.some.injEq] at hstep
    subst hstep
    have hmem : row ∈ (config w).finish h.item h.currentTime (.error exc) s.outbox :=
      Table.find_mem hfind
    obtain ⟨_, ⟨_, hne⟩ | ⟨_, ⟨⟨u, hu⟩, _⟩ | ⟨_, hst | ⟨_, hlt⟩⟩⟩⟩ :=
      FeishuOutboxDispatcher.finish_rows hs.unique hmem
    · exact absurd (Table.find_key hfind) hne
    · cases hu
    · exact hst
    · rw [hmax w] at hlt
      omega
  | .finish w (.ok u) => trivial
  | .tick d => trivial
  | .enqueue row => trivial
  | .claim w locked => trivial
  | .crash w => trivial

/-- Unless it takes over an expired claim that was the last, a step leaves every row
within the limit. -/
theorem attempts_le_step {maxAttempts : Nat} {s t : Cluster ω} {e : Event ω}
    (hs : Paced maxAttempts s) (hle : ∀ id, attempts id s ≤ maxAttempts)
    (hn : ¬TakesOverExhausted maxAttempts s e) (h : s.step config e = some t) (id : Py.UUID) :
    attempts id t ≤ maxAttempts := by
  rw [attempts_step id hs.unique h]
  cases e with
  | claim w locked =>
    obtain ⟨hw, ⟨hc, _⟩ | ⟨item, table, hc, _⟩⟩ := Cluster.step_claim h
    · simpa [starts, hw, hc] using hle id
    · simp only [starts, hw, hc]
      split_ifs with hid
      · obtain ⟨row, hrow, heq⟩ := Option.map_eq_some_iff.mp hc
        obtain ⟨hmem, hcl, _⟩ := buildClaimableOutboxQuery_mem hrow
        have hsame : row.id = id := by
          rw [← hid, ← (Prod.mk.inj heq).1]
        have hlt : row.attemptCount < maxAttempts := by
          rcases FeishuOutbox.claimable_iff.mp hcl with ⟨hp, _⟩ | ⟨hclaimed, e, he, hexp⟩
          · exact hs.pending row hmem hp
          · by_contra hge
            refine hn ⟨hw, row, hrow, ?_, not_lt.mp hge⟩
            simp [FeishuOutbox.expiredClaim, hclaimed, he, hexp]
        have hcount := attempts_of_mem hs.unique hmem
        rw [hsame] at hcount
        omega
      · exact hle id
  | tick d => exact hle id
  | enqueue row => exact hle id
  | finish w outcome => exact hle id
  | crash w => exact hle id

omit [DecidableEq ω] in
theorem Fresh.paced {maxAttempts : Nat} {s : Cluster ω} (hs : Fresh s) (hpos : 0 < maxAttempts) :
    Paced maxAttempts s where
  unique := hs.unique
  pending row hrow _ := by rw [(hs.rows row hrow).2]; exact hpos

omit [DecidableEq ω] in
theorem Fresh.attempts_eq {s : Cluster ω} (hs : Fresh s) (id : Py.UUID) : attempts id s = 0 := by
  unfold attempts
  cases hf : Table.find FeishuOutbox.id id s.outbox with
  | none => rfl
  | some row => exact (hs.rows row (Table.find_mem hf)).2

/-- The attempts of a row are its starts. -/
theorem attempts_exec {maxAttempts : Nat} {s t : Cluster ω} {tr : List (Event ω)}
    (hmax : ∀ w, (config w).maxAttempts = maxAttempts) (hpos : 0 < maxAttempts)
    (hs : Paced maxAttempts s) (hrun : exec (Cluster.step config) s tr = some t) (id : Py.UUID) :
    attempts id t = attempts id s + tally (Cluster.step config) (starts config id) s tr :=
  exec_tally (Paced maxAttempts)
    (fun _ _ _ hs h => ⟨hs.step hmax hpos h, attempts_step id hs.unique h⟩) hs hrun

/-- A run that keeps every row within the limit takes over no exhausted claim. -/
theorem along_not_takesOverExhausted {maxAttempts : Nat} {s t : Cluster ω} {tr : List (Event ω)}
    (hmax : ∀ w, (config w).maxAttempts = maxAttempts) (hpos : 0 < maxAttempts)
    (hs : Paced maxAttempts s) (hrun : exec (Cluster.step config) s tr = some t)
    (hle : ∀ id, attempts id s + tally (Cluster.step config) (starts config id) s tr ≤ maxAttempts) :
    Along (Cluster.step config) (fun s e => ¬TakesOverExhausted maxAttempts s e) s tr := by
  induction tr generalizing s with
  | nil => trivial
  | cons e tr ih =>
    obtain ⟨r, hr, hrt⟩ := exec_cons_eq_some.mp hrun
    have hnext : ∀ id, attempts id r + tally (Cluster.step config) (starts config id) r tr ≤
        maxAttempts := by
      intro id
      rw [attempts_step id hs.unique hr]
      have := hle id
      rw [tally_cons hr] at this
      omega
    refine ⟨?_, ?_⟩
    · cases e with
      | claim w locked =>
        rintro ⟨hw, row, hrow, _, hge⟩
        obtain ⟨hmem, _, _⟩ := buildClaimableOutboxQuery_mem hrow
        have hstart : starts config row.id s (.claim w locked) = 1 := by
          simp [starts, hw, FeishuOutboxDispatcher.claim, claimNext, hrow]
        have hlast := hnext row.id
        rw [attempts_step row.id hs.unique hr, hstart, attempts_of_mem hs.unique hmem] at hlast
        omega
      | _ => exact id
    · intro u hu
      obtain rfl := Option.some.inj (hr.symm.trans hu)
      exact ih (hs.step hmax hpos hr) hrt hnext

/-- The attempts of a run are bounded exactly when no worker takes over an expired claim
whose attempts are used up. -/
theorem attemptsBounded_iff {maxAttempts : Nat} {s t : Cluster ω} {tr : List (Event ω)}
    (hmax : ∀ w, (config w).maxAttempts = maxAttempts) (hpos : 0 < maxAttempts) (hs : Fresh s)
    (hrun : exec (Cluster.step config) s tr = some t) :
    AttemptsBounded config maxAttempts s t tr ↔
      Along (Cluster.step config) (fun s e => ¬TakesOverExhausted maxAttempts s e) s tr := by
  have hpaced := hs.paced hpos
  have hcount : ∀ id, attempts id t =
      tally (Cluster.step config) (starts config id) s tr := by
    intro id
    rw [attempts_exec hmax hpos hpaced hrun, hs.attempts_eq, Nat.zero_add]
  constructor
  · intro h
    refine along_not_takesOverExhausted hmax hpos hpaced hrun ?_
    intro id
    rw [hs.attempts_eq, Nat.zero_add]
    exact h.starts_le id
  · intro hn
    have hend : Paced maxAttempts t ∧ ∀ id, attempts id t ≤ maxAttempts := by
      refine exec_invariant (fun s => Paced maxAttempts s ∧ ∀ id, attempts id s ≤ maxAttempts) ?_
        ⟨hpaced, fun id => by simp [hs.attempts_eq]⟩ hn hrun
      rintro s e t ⟨hs, hle⟩ hn h
      exact ⟨hs.step hmax hpos h, attempts_le_step hs hle hn h⟩
    refine ⟨?_, ?_, ?_⟩
    · intro id
      rw [← hcount]
      exact hend.2 id
    · intro row hrow hlast hpending
      rw [← hcount, attempts_of_mem hend.1.unique hrow] at hlast
      have := hend.1.pending row hrow hpending
      omega
    · exact Along.of_invariant (Paced maxAttempts) (fun _ _ _ hs _ h => hs.step hmax hpos h)
        (fun _ e hs _ => hs.lastFailureDies e hmax) hpaced hn

def BoundedAttempts (config : ω → FeishuOutboxDispatcher) (maxAttempts : Nat) : Prop :=
  ∀ (s t : Cluster ω) (tr : List (Event ω)), Fresh s → exec (Cluster.step config) s tr = some t →
    AttemptsBounded config maxAttempts s t tr

def crashAndExpire : List (Event Bool) :=
  [.claim true fun _ => false, .crash true, .tick 300000000]

theorem lateStart_fresh : Fresh lateStart where
  unique := lateStart_initial.1
  rows := by simp [lateStart, lateRow]
  idle _ := rfl

/-- The sixth start of a handler that is allowed five. -/
theorem not_boundedAttempts : ¬BoundedAttempts twoWorkers 5 := by
  intro hall
  let tr : List (Event Bool) := (List.replicate 6 crashAndExpire).flatten
  have hrun : (exec (Cluster.step twoWorkers) lateStart tr).isSome = true := by decide +kernel
  have hsix : tally (Cluster.step twoWorkers) (starts twoWorkers lateRow.id) lateStart tr = 6 := by
    decide +kernel
  obtain ⟨t, ht⟩ := Option.isSome_iff_exists.mp hrun
  have hle := (hall lateStart t tr lateStart_fresh ht).starts_le lateRow.id
  omega

/-- A first attempt that ends in a crash. -/
theorem attemptsBounded_crash : ∃ t,
    exec (Cluster.step twoWorkers) lateStart crashAndExpire = some t ∧
      AttemptsBounded twoWorkers 5 lateStart t crashAndExpire := by
  have hsome : (exec (Cluster.step twoWorkers) lateStart crashAndExpire).isSome = true := by
    decide
  have hmax : ∀ w, (twoWorkers w).maxAttempts = 5 := fun _ => rfl
  obtain ⟨t, ht⟩ := Option.isSome_iff_exists.mp hsome
  refine ⟨t, ht, (attemptsBounded_iff hmax (by decide) lateStart_fresh ht).mpr ⟨?_, ?_⟩⟩
  · rintro ⟨_, row, hrow, hexpired, _⟩
    have hquery : buildClaimableOutboxQuery lateStart.clock (fun _ => false) lateStart.outbox =
        some lateRow := by decide
    obtain rfl := Option.some.inj (hquery.symm.trans hrow)
    revert hexpired
    decide
  · exact fun _ _ => ⟨id, fun _ _ => ⟨id, fun _ _ => trivial⟩⟩

end Headhunt.Feishu
