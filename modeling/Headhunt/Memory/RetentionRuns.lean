import Headhunt.Lib.Result
import Headhunt.Memory.Retention

/-! A run of `MemoryRetentionService` with its counts: a dry run counts what a real run does, and a
second run at the same time finds nothing to do. -/
namespace Headhunt.Memory
open Headhunt.Storage Py

/-- A `datetime`: the wall clock of a naive one is read as UTC. -/
inductive Datetime
  | naive (wall : Time)
  | aware (instant : Time)
deriving DecidableEq

def awareDatetime : Datetime → Time
  | .naive wall => wall
  | .aware instant => instant

def datetimeMax : Time := 253402300799999999

/-- The `OverflowError` of a date after the last one. -/
inductive DateError
  | overflow
deriving DecidableEq

/-- What the service reads and writes of a row, and the columns it does not touch. -/
structure RetentionRow (ρ : Type) where
  scope : String
  status : MemoryStatus
  metadata : Json
  createdAt : Datetime
  expiresAt : Option Datetime
  updatedAt : Datetime
  rest : ρ
deriving DecidableEq

structure RetentionCounts where
  scanned : Nat := 0
  defaultExpiry : Nat := 0
  expired : Nat := 0
  permanent : Nat := 0
  skipped : Nat := 0
deriving DecidableEq

def longTermMemoryScopes : List String :=
  ["ProjectMemory", "AgentMemory", "CaseMemory", "UserCorrectionMemory"]

/-- `_retention_window` of any text that stands for a scope. -/
def scopeWindow (scope : String) (policy : Option String) : Option Time :=
  if policy = some "30d" then some (days 30)
  else if policy = some "90d" then some (days 90)
  else if scope = "RunMemory" then some (days 30)
  else if scope ∈ longTermMemoryScopes then some (days 90)
  else none

/-- `default_memory_expires_at`. -/
def defaultExpiry (scope : String) (createdAt : Datetime) (metadata : Dict) :
    Except DateError (Option Time) :=
  if isPermanentMemory metadata then .ok none
  else
    match scopeWindow scope (retentionPolicy metadata) with
    | none => .ok none
    | some ttl =>
      let expiresAt := awareDatetime createdAt + ttl
      if datetimeMax < expiresAt then .error .overflow else .ok (some expiresAt)

namespace RetentionRow

variable {ρ : Type} (row : RetentionRow ρ)

def managed : Bool := row.status = .active || row.status = .pendingReview

def permanent : Bool := isPermanentMemory row.metadata.asDict

def expiry : Except DateError (Option Time) :=
  match row.expiresAt with
  | some stored => .ok (some (awareDatetime stored))
  | none => defaultExpiry row.scope row.createdAt row.metadata.asDict

def assign (now : Time) (expiresAt : Option Datetime) : RetentionRow ρ :=
  { row with
    expiresAt := expiresAt
    updatedAt := .aware now }

def expire (now : Time) : RetentionRow ρ :=
  { row with
    status := .expired
    updatedAt := .aware now }

end RetentionRow

section Run

variable {ρ : Type} (now : Time) (dryRun : Bool)

/-- The end of the loop body: the row has the expiry date that has been found. -/
def settleRow (counts : RetentionCounts) (row : RetentionRow ρ) (expiresAt : Option Time) :
    RetentionCounts × RetentionRow ρ :=
  match expiresAt with
  | none => ({ counts with skipped := counts.skipped + 1 }, row)
  | some expiresAt =>
    if expiresAt ≤ now then
      ({ counts with expired := counts.expired + 1 }, if dryRun then row else row.expire now)
    else (counts, row)

def visitRow (counts : RetentionCounts) (row : RetentionRow ρ) :
    Except DateError (RetentionCounts × RetentionRow ρ) :=
  let counts := { counts with scanned := counts.scanned + 1 }
  if row.permanent then
    .ok ({ counts with permanent := counts.permanent + 1 },
      if row.expiresAt.isSome && !dryRun then row.assign now none else row)
  else
    match row.expiresAt with
    | some stored => .ok (settleRow now dryRun counts row (some (awareDatetime stored)))
    | none => do
      match ← defaultExpiry row.scope row.createdAt row.metadata.asDict with
      | none => .ok (settleRow now dryRun counts row none)
      | some expiresAt =>
        .ok (settleRow now dryRun { counts with defaultExpiry := counts.defaultExpiry + 1 }
          (if dryRun then row else row.assign now (some (.aware expiresAt))) (some expiresAt))

/-- The loop over the rows of the table; those in another status are not selected. -/
def visitRows : RetentionCounts → List (RetentionRow ρ) →
    Except DateError (RetentionCounts × List (RetentionRow ρ))
  | counts, [] => .ok (counts, [])
  | counts, row :: rows =>
    if row.managed then do
      let (counts, row) ← visitRow now dryRun counts row
      let (counts, rows) ← visitRows counts rows
      .ok (counts, row :: rows)
    else do
      let (counts, rows) ← visitRows counts rows
      .ok (counts, row :: rows)

/-- `run`: the counts of its summary, and the table after it. -/
def runRetentionService (rows : List (RetentionRow ρ)) :
    Except DateError (RetentionCounts × List (RetentionRow ρ)) :=
  visitRows now dryRun {} rows

end Run

section Dry

variable {ρ : Type} {now : Time}

theorem settleRow_dry (counts : RetentionCounts) (row row' : RetentionRow ρ)
    (expiresAt : Option Time) :
    settleRow now true counts row expiresAt =
      ((settleRow now false counts row' expiresAt).1, row) := by
  unfold settleRow
  cases expiresAt with
  | none => rfl
  | some expiresAt => by_cases hdue : expiresAt ≤ now <;> simp [hdue]

theorem visitRow_dry (counts : RetentionCounts) (row : RetentionRow ρ) :
    visitRow now true counts row =
      (visitRow now false counts row).map fun result => (result.1, row) := by
  unfold visitRow
  dsimp only
  by_cases hpermanent : row.permanent = true
  · simp [hpermanent, Except.map]
  · rw [if_neg hpermanent, if_neg hpermanent]
    cases hstored : row.expiresAt with
    | some stored =>
      dsimp only
      rw [settleRow_dry _ row row]
      rfl
    | none =>
      dsimp only
      cases defaultExpiry row.scope row.createdAt row.metadata.asDict with
      | error exc => rfl
      | ok expiresAt =>
        cases expiresAt with
        | none => rfl
        | some expiresAt =>
          simp only [bind, Except.bind, Except.map]
          rw [settleRow_dry _ _ (row.assign now (some (.aware expiresAt)))]
          rfl

theorem visitRows_dry (counts : RetentionCounts) (rows : List (RetentionRow ρ)) :
    visitRows now true counts rows =
      (visitRows now false counts rows).map fun result => (result.1, rows) := by
  induction rows generalizing counts with
  | nil => rfl
  | cons row rows ih =>
    simp only [visitRows]
    by_cases hmanaged : row.managed = true
    · rw [if_pos hmanaged, if_pos hmanaged, visitRow_dry]
      cases visitRow now false counts row with
      | error exc => rfl
      | ok visited =>
        simp only [bind, Except.bind, Except.map]
        rw [ih]
        cases visitRows now false visited.1 rows <;> rfl
    · rw [if_neg hmanaged, if_neg hmanaged, ih]
      cases visitRows now false counts rows <;> rfl

end Dry

section Real

variable {ρ : Type} {now : Time} {counts counts' : RetentionCounts} {row row' : RetentionRow ρ}
  {rows rows' : List (RetentionRow ρ)}

inductive Retained (now : Time) (row : RetentionRow ρ) : RetentionRow ρ → Prop
  | permanent (h : row.permanent = true) (hstored : row.expiresAt = none) : Retained now row row
  | freed (h : row.permanent = true) : Retained now row (row.assign now none)
  | skipped (h : row.permanent = false) (hnone : row.expiry = .ok none) : Retained now row row
  | kept {stored : Datetime} (h : row.permanent = false) (hstored : row.expiresAt = some stored)
      (hlate : now < awareDatetime stored) : Retained now row row
  | due {stored : Datetime} (h : row.permanent = false) (hstored : row.expiresAt = some stored)
      (hdue : awareDatetime stored ≤ now) : Retained now row (row.expire now)
  | dated {expiresAt : Time} (h : row.permanent = false) (hexpiry : row.expiry = .ok (some expiresAt))
      (hlate : now < expiresAt) : Retained now row (row.assign now (some (.aware expiresAt)))
  | datedDue {expiresAt : Time} (h : row.permanent = false)
      (hexpiry : row.expiry = .ok (some expiresAt)) (hdue : expiresAt ≤ now) :
      Retained now row ((row.assign now (some (.aware expiresAt))).expire now)

def RetentionRow.hasExpiry (row : RetentionRow ρ) : Bool :=
  !row.permanent && match row.expiry with
    | .ok (some _) => true
    | _ => false

def RetentionRow.isSkipped (row : RetentionRow ρ) : Bool :=
  !row.permanent && match row.expiry with
    | .ok none => true
    | _ => false

/-- The counts go up by one row, which is permanent, skipped or dated. -/
structure CountsRow (counts counts' : RetentionCounts) (row : RetentionRow ρ) : Prop where
  scanned : counts'.scanned = counts.scanned + 1
  permanent : counts'.permanent = counts.permanent + row.permanent.toNat
  skipped : counts'.skipped = counts.skipped + row.isSkipped.toNat
  one : row.permanent.toNat + row.isSkipped.toNat + row.hasExpiry.toNat = 1

theorem visitRow_eq_ok (h : visitRow now false counts row = .ok (counts', row')) :
    Retained now row row' ∧ CountsRow counts counts' row := by
  unfold visitRow at h
  dsimp only at h
  by_cases hpermanent : row.permanent = true
  · rw [if_pos hpermanent] at h
    obtain ⟨rfl, rfl⟩ := Prod.mk.inj (Except.ok.inj h)
    refine ⟨?_, ?_⟩
    · cases hstored : row.expiresAt with
      | none => simpa [hstored] using @Retained.permanent _ now _ hpermanent hstored
      | some stored => simpa [hstored] using @Retained.freed _ now _ hpermanent
    · exact ⟨rfl, by simp [hpermanent], by simp [RetentionRow.isSkipped, hpermanent],
        by simp [RetentionRow.isSkipped, RetentionRow.hasExpiry, hpermanent]⟩
  · have hfalse : row.permanent = false := by simpa using hpermanent
    rw [if_neg hpermanent] at h
    cases hstored : row.expiresAt with
    | some stored =>
      have hexpiry : row.expiry = .ok (some (awareDatetime stored)) := by
        simp [RetentionRow.expiry, hstored]
      have hcounts : row.isSkipped = false ∧ row.hasExpiry = true := by
        simp [RetentionRow.isSkipped, RetentionRow.hasExpiry, hfalse, hexpiry]
      simp only [hstored, settleRow] at h
      by_cases hdue : awareDatetime stored ≤ now
      · rw [if_pos hdue] at h
        obtain ⟨rfl, rfl⟩ := Prod.mk.inj (Except.ok.inj h)
        exact ⟨.due hfalse hstored hdue, rfl, by simp [hfalse], by simp [hcounts],
          by simp [hcounts, hfalse]⟩
      · rw [if_neg hdue] at h
        obtain ⟨rfl, rfl⟩ := Prod.mk.inj (Except.ok.inj h)
        exact ⟨.kept hfalse hstored (not_le.mp hdue), rfl, by simp [hfalse], by simp [hcounts],
          by simp [hcounts, hfalse]⟩
    | none =>
      simp only [hstored, Except.bind_eq_ok] at h
      obtain ⟨expiresAt, hdefault, h⟩ := h
      have hexpiry : row.expiry = .ok expiresAt := by
        simp [RetentionRow.expiry, hstored, hdefault]
      cases expiresAt with
      | none =>
        have hcounts : row.isSkipped = true ∧ row.hasExpiry = false := by
          simp [RetentionRow.isSkipped, RetentionRow.hasExpiry, hfalse, hexpiry]
        obtain ⟨rfl, rfl⟩ := Prod.mk.inj (Except.ok.inj h)
        exact ⟨.skipped hfalse hexpiry, rfl, by simp [hfalse], by simp [hcounts],
          by simp [hcounts, hfalse]⟩
      | some expiresAt =>
        have hcounts : row.isSkipped = false ∧ row.hasExpiry = true := by
          simp [RetentionRow.isSkipped, RetentionRow.hasExpiry, hfalse, hexpiry]
        simp only [settleRow] at h
        by_cases hdue : expiresAt ≤ now
        · rw [if_pos hdue] at h
          obtain ⟨rfl, rfl⟩ := Prod.mk.inj (Except.ok.inj h)
          exact ⟨.datedDue hfalse hexpiry hdue, rfl, by simp [hfalse], by simp [hcounts],
            by simp [hcounts, hfalse]⟩
        · rw [if_neg hdue] at h
          obtain ⟨rfl, rfl⟩ := Prod.mk.inj (Except.ok.inj h)
          exact ⟨.dated hfalse hexpiry (not_le.mp hdue), rfl, by simp [hfalse], by simp [hcounts],
            by simp [hcounts, hfalse]⟩

namespace Retained

/-- The columns that decide how long a row is kept stay. -/
theorem metadata_eq (h : Retained now row row') : row'.metadata = row.metadata := by
  cases h <;> rfl

theorem permanent_eq (h : Retained now row row') : row'.permanent = row.permanent :=
  congrArg (fun metadata : Json => isPermanentMemory metadata.asDict) h.metadata_eq

theorem of_permanent (h : Retained now row row') (hpermanent : row.permanent = true) :
    row'.status = row.status ∧ row'.expiresAt = none := by
  cases h with
  | permanent _ hstored => exact ⟨rfl, hstored⟩
  | freed => exact ⟨rfl, rfl⟩
  | skipped h => simp [hpermanent] at h
  | kept h => simp [hpermanent] at h
  | due h => simp [hpermanent] at h
  | dated h => simp [hpermanent] at h
  | datedDue h => simp [hpermanent] at h

/-- A row that is still managed expires later. -/
theorem late (h : Retained now row row') (hmanaged : row'.managed = true)
    (hpermanent : row'.permanent = false) {expiresAt : Time}
    (hexpiry : row'.expiry = .ok (some expiresAt)) : now < expiresAt := by
  rw [h.permanent_eq] at hpermanent
  cases h with
  | permanent h => simp [hpermanent] at h
  | freed h => simp [hpermanent] at h
  | skipped _ hnone =>
    rw [hnone] at hexpiry
    cases hexpiry
  | kept _ hstored hlate =>
    simp only [RetentionRow.expiry, hstored, Except.ok.injEq, Option.some.injEq] at hexpiry
    exact hexpiry ▸ hlate
  | due => simp [RetentionRow.managed, RetentionRow.expire] at hmanaged
  | dated _ _ hlate =>
    simp only [RetentionRow.expiry, RetentionRow.assign, awareDatetime, Except.ok.injEq,
      Option.some.injEq] at hexpiry
    exact hexpiry ▸ hlate
  | datedDue => simp [RetentionRow.managed, RetentionRow.expire] at hmanaged

/-- A row that is permanent and has no date, one that has none, and one with a later date are left
alone. -/
theorem again (h : Retained now row row') (hmanaged : row'.managed = true)
    (counts : RetentionCounts) :
    ∃ counts', visitRow now false counts row' = .ok (counts', row') := by
  cases h with
  | permanent h hstored => exact ⟨_, by simp [visitRow, h, hstored]; rfl⟩
  | freed h =>
    have h' : (row.assign now none).permanent = true := h
    have hstored : (row.assign now none).expiresAt = none := rfl
    exact ⟨_, by simp [visitRow, h', hstored]; rfl⟩
  | skipped h hnone =>
    cases hstored : row.expiresAt with
    | some stored => simp [RetentionRow.expiry, hstored] at hnone
    | none =>
      have hdefault : defaultExpiry row.scope row.createdAt row.metadata.asDict = .ok none := by
        simpa [RetentionRow.expiry, hstored] using hnone
      exact ⟨_, by simp [visitRow, h, hstored, hdefault, settleRow, bind, Except.bind]; rfl⟩
  | kept h hstored hlate =>
    exact ⟨_, by simp [visitRow, h, hstored, settleRow, not_le.mpr hlate]; rfl⟩
  | due => simp [RetentionRow.managed, RetentionRow.expire] at hmanaged
  | @dated expiresAt h _ hlate =>
    have h' : (row.assign now (some (.aware expiresAt))).permanent = false := h
    have hstored : (row.assign now (some (.aware expiresAt))).expiresAt =
        some (.aware expiresAt) := rfl
    exact ⟨_, by simp [visitRow, h', hstored, settleRow, awareDatetime, not_le.mpr hlate]; rfl⟩
  | datedDue => simp [RetentionRow.managed, RetentionRow.expire] at hmanaged

end Retained

/-- A row after a run; one in another status is as it was. -/
def RowAfter (now : Time) (row row' : RetentionRow ρ) : Prop :=
  if row.managed then Retained now row row' else row' = row

def managedCount (test : RetentionRow ρ → Bool) (rows : List (RetentionRow ρ)) : Nat :=
  (rows.filter fun row => row.managed && test row).length

theorem managedCount_cons (test : RetentionRow ρ → Bool) (row : RetentionRow ρ)
    (rows : List (RetentionRow ρ)) : managedCount test (row :: rows) =
      (row.managed && test row).toNat + managedCount test rows := by
  unfold managedCount
  rw [List.filter_cons]
  cases row.managed && test row with
  | false => simp
  | true => simp [Nat.add_comm]

/-- The counts go up by the managed rows of each kind. -/
structure CountsRows (counts counts' : RetentionCounts) (rows : List (RetentionRow ρ)) : Prop where
  scanned : counts'.scanned = counts.scanned + managedCount (fun _ => true) rows
  permanent : counts'.permanent = counts.permanent + managedCount RetentionRow.permanent rows
  skipped : counts'.skipped = counts.skipped + managedCount RetentionRow.isSkipped rows
  kinds : managedCount (fun _ => true) rows = managedCount RetentionRow.permanent rows +
    managedCount RetentionRow.isSkipped rows + managedCount RetentionRow.hasExpiry rows

theorem visitRows_eq_ok (h : visitRows now false counts rows = .ok (counts', rows')) :
    List.Forall₂ (RowAfter now) rows rows' ∧ CountsRows counts counts' rows := by
  induction rows generalizing counts rows' with
  | nil =>
    obtain ⟨rfl, rfl⟩ := Prod.mk.inj (Except.ok.inj h)
    exact ⟨.nil, rfl, rfl, rfl, rfl⟩
  | cons row rows ih =>
    simp only [visitRows] at h
    by_cases hmanaged : row.managed = true
    · simp only [if_pos hmanaged, Except.bind_eq_ok] at h
      obtain ⟨⟨counts₁, row'⟩, hrow, ⟨counts₂, rows'⟩, hrows, h⟩ := h
      dsimp only at hrows h
      obtain ⟨rfl, rfl⟩ := Prod.mk.inj (Except.ok.inj h)
      obtain ⟨hretained, hone⟩ := visitRow_eq_ok hrow
      obtain ⟨hafter, hall⟩ := ih hrows
      refine ⟨.cons (by simpa [RowAfter, hmanaged] using hretained) hafter, ?_⟩
      obtain ⟨hscanned, hpermanent, hskipped, hkind⟩ := hone
      obtain ⟨hscanneds, hpermanents, hskippeds, hkinds⟩ := hall
      refine ⟨?_, ?_, ?_, ?_⟩ <;>
        simp only [managedCount_cons, hmanaged, Bool.true_and, Bool.toNat_true] <;> omega
    · simp only [if_neg hmanaged, Except.bind_eq_ok] at h
      obtain ⟨⟨counts₂, rows'⟩, hrows, h⟩ := h
      dsimp only at h
      obtain ⟨rfl, rfl⟩ := Prod.mk.inj (Except.ok.inj h)
      obtain ⟨hafter, hscanneds, hpermanents, hskippeds, hkinds⟩ := ih hrows
      refine ⟨.cons (by simp [RowAfter, hmanaged]) hafter, ?_⟩
      have hfalse : row.managed = false := by simpa using hmanaged
      refine ⟨?_, ?_, ?_, ?_⟩ <;>
        simp only [managedCount_cons, hfalse, Bool.false_and, Bool.toNat_false] <;> omega

/-- A second run at the same time leaves every row alone. -/
theorem visitRows_again (h : List.Forall₂ (RowAfter now) rows rows') (counts : RetentionCounts) :
    ∃ counts', visitRows now false counts rows' = .ok (counts', rows') := by
  induction h generalizing counts with
  | nil => exact ⟨counts, rfl⟩
  | @cons row row' rows rows' hrow _ ih =>
    by_cases hmanaged : row'.managed = true
    · have hretained : Retained now row row' := by
        unfold RowAfter at hrow
        split_ifs at hrow with hbefore
        · exact hrow
        · exact absurd (hrow ▸ hmanaged) hbefore
      obtain ⟨counts₁, hvisit⟩ := hretained.again hmanaged counts
      obtain ⟨counts₂, hrows⟩ := ih counts₁
      exact ⟨counts₂, by simp [visitRows, hmanaged, hvisit, hrows, bind, Except.bind]⟩
    · obtain ⟨counts₂, hrows⟩ := ih counts
      exact ⟨counts₂, by simp [visitRows, hmanaged, hrows, bind, Except.bind]⟩

/-- Every row of the table afterwards comes from one before. -/
theorem exists_rowAfter (h : List.Forall₂ (RowAfter now) rows rows') :
    ∀ row' ∈ rows', ∃ row, RowAfter now row row' := by
  induction h with
  | nil => simp
  | cons hrow _ ih =>
    intro row' hrow'
    rcases List.mem_cons.mp hrow' with rfl | hrow'
    · exact ⟨_, hrow⟩
    · exact ih row' hrow'

structure RetentionDone (now : Time) (rows rows' : List (RetentionRow ρ))
    (counts : RetentionCounts) : Prop where
  again : ∃ counts', runRetentionService now false rows' = .ok (counts', rows')
  late : ∀ row ∈ rows', row.managed = true → row.permanent = false →
    ∀ expiresAt, row.expiry = .ok (some expiresAt) → now < expiresAt
  permanent : List.Forall₂ (fun row row' => row.managed = true → row.permanent = true →
    row'.status = row.status ∧ row'.expiresAt = none) rows rows'
  untouched : List.Forall₂ (fun row row' => row.managed = false → row' = row) rows rows'
  scanned : counts.scanned = managedCount (fun _ => true) rows
  permanents : counts.permanent = managedCount RetentionRow.permanent rows
  skipped : counts.skipped = managedCount RetentionRow.isSkipped rows
  kinds : counts.scanned =
    counts.permanent + counts.skipped + managedCount RetentionRow.hasExpiry rows

/-- A dry run returns what a real run does and changes nothing, and a real run is exact. -/
theorem retention_exact (now : Datetime) (rows : List (RetentionRow ρ)) :
    runRetentionService (awareDatetime now) true rows =
        (runRetentionService (awareDatetime now) false rows).map
          (fun result => (result.1, rows)) ∧
      ∀ counts rows', runRetentionService (awareDatetime now) false rows = .ok (counts, rows') →
        RetentionDone (awareDatetime now) rows rows' counts := by
  refine ⟨visitRows_dry {} rows, fun counts rows' h => ?_⟩
  obtain ⟨hafter, hscanned, hpermanents, hskipped, hkinds⟩ := visitRows_eq_ok h
  simp only [Nat.zero_add] at hscanned hpermanents hskipped
  refine ⟨visitRows_again hafter {}, ?_, ?_, ?_, hscanned, hpermanents, hskipped, ?_⟩
  · intro row' hrow' hmanaged hpermanent expiresAt hexpiry
    obtain ⟨row, hrow⟩ := exists_rowAfter hafter row' hrow'
    unfold RowAfter at hrow
    split_ifs at hrow with hbefore
    · exact hrow.late hmanaged hpermanent hexpiry
    · exact absurd (hrow ▸ hmanaged) hbefore
  · refine hafter.imp fun row row' hrow hmanaged hpermanent => ?_
    rw [RowAfter, if_pos hmanaged] at hrow
    exact hrow.of_permanent hpermanent
  · refine hafter.imp fun row row' hrow hmanaged => ?_
    rw [RowAfter, if_neg (by simp [hmanaged])] at hrow
    exact hrow
  · omega

end Real

def sampleRows : List (RetentionRow Unit) :=
  [⟨"RunMemory", .active, .obj [], .aware 0, none, .aware 0, ()⟩,
    ⟨"CaseMemory", .pendingReview, .obj [("retention_policy", .str " Forever ")], .aware 0,
      some (.naive 1), .aware 0, ()⟩]

/-- After 40 days the first one expires, and the second one loses its date. -/
theorem retention_exact_sampleRows : ∃ counts rows',
    runRetentionService (days 40) false sampleRows = .ok (counts, rows') ∧
      counts = ⟨2, 1, 1, 1, 0⟩ ∧ RetentionDone (days 40) sampleRows rows' counts := by
  have hcounts : (runRetentionService (days 40) false sampleRows).toOption.map Prod.fst =
      some ⟨2, 1, 1, 1, 0⟩ := by
    decide +kernel
  obtain ⟨⟨counts, rows'⟩, hrun, hsame⟩ := Option.map_eq_some_iff.mp hcounts
  have hrun := Except.toOption_eq_some.mp hrun
  exact ⟨counts, rows', hrun, hsame, (retention_exact (.naive (days 40)) sampleRows).2 _ _ hrun⟩

/-- The row of a `MemoryRecord`, with a date for its last update. -/
def MemoryRecord.retentionRow (row : MemoryRecord) (updatedAt : Datetime) :
    RetentionRow MemoryRecord where
  scope := row.scope.value
  status := row.status
  metadata := .obj row.metadata
  createdAt := .aware row.createdAt
  expiresAt := row.expiresAt.map .aware
  updatedAt := updatedAt
  rest := row

theorem scopeWindow_value (scope : MemoryScope) (policy : Option String) :
    scopeWindow scope.value policy = some (retentionWindow scope policy) := by
  unfold scopeWindow retentionWindow
  cases scope <;> split_ifs <;> simp_all [MemoryScope.value, longTermMemoryScopes]

theorem expiry_retentionRow {row : MemoryRecord} {updatedAt : Datetime} {expiresAt : Option Time}
    (h : (row.retentionRow updatedAt).expiry = .ok expiresAt) :
    expiresAt = row.expiresAt.or
      (defaultMemoryExpiresAt row.scope row.createdAt row.metadata) := by
  cases hstored : row.expiresAt with
  | some stored =>
    simp only [RetentionRow.expiry, MemoryRecord.retentionRow, hstored, Option.map_some,
      Except.ok.injEq] at h
    exact h.symm
  | none =>
    simp only [RetentionRow.expiry, MemoryRecord.retentionRow, hstored, Option.map_none,
      defaultExpiry, scopeWindow_value, Json.asDict] at h
    rw [Option.none_or]
    unfold defaultMemoryExpiresAt
    split_ifs at h ⊢
    · exact (Except.ok.inj h).symm
    · exact (Except.ok.inj h).symm

/-- A run that returns gives each row of the table the status and the date `retainRow` gives it. -/
theorem retained_retainRow {row : MemoryRecord} {updatedAt : Datetime} {now : Time}
    {row' : RetentionRow MemoryRecord} (h : Retained now (row.retentionRow updatedAt) row') :
    row'.status = (retainRow now row).status ∧
      row'.expiresAt.map awareDatetime = (retainRow now row).expiresAt := by
  have hkept : (row.retentionRow updatedAt).expiresAt.map awareDatetime = row.expiresAt := by
    cases hstored : row.expiresAt <;> simp [MemoryRecord.retentionRow, hstored, awareDatetime]
  have hdate : ∀ stored, (row.retentionRow updatedAt).expiresAt = some stored →
      row.expiresAt = some (awareDatetime stored) := by
    intro stored hstored
    rw [← hkept, hstored, Option.map_some]
  have hplain : ∀ expiresAt, (row.retentionRow updatedAt).permanent = false →
      row.expiresAt.or (defaultMemoryExpiresAt row.scope row.createdAt row.metadata) = expiresAt →
      retainRow now row = row.withLife
        (if ∃ e ∈ expiresAt, e ≤ now then .expired else row.status) expiresAt := by
    intro expiresAt hpermanent hexpiry
    have hmetadata : isPermanentMemory row.metadata = false := hpermanent
    rw [retainRow, hmetadata, if_neg Bool.false_ne_true]
    dsimp only
    rw [hexpiry]
  have hfree : (row.retentionRow updatedAt).permanent = true →
      retainRow now row = row.withLife row.status none := by
    intro hpermanent
    have hmetadata : isPermanentMemory row.metadata = true := hpermanent
    rw [retainRow, if_pos hmetadata]
  cases h with
  | permanent hpermanent hstored =>
    rw [hfree hpermanent, hstored]
    exact ⟨rfl, rfl⟩
  | freed hpermanent =>
    rw [hfree hpermanent]
    exact ⟨rfl, rfl⟩
  | skipped hpermanent hnone =>
    have hexpiry := (expiry_retentionRow hnone).symm
    rw [hplain none hpermanent hexpiry, hkept, (Option.or_eq_none_iff.mp hexpiry).1]
    simp [MemoryRecord.withLife, MemoryRecord.retentionRow]
  | @kept stored hpermanent hstored hlate =>
    rw [hplain (some (awareDatetime stored)) hpermanent (by simp [hdate stored hstored]), hstored]
    simp [MemoryRecord.withLife, MemoryRecord.retentionRow, not_le.mpr hlate]
  | @due stored hpermanent hstored hdue =>
    rw [hplain (some (awareDatetime stored)) hpermanent (by simp [hdate stored hstored])]
    simp [MemoryRecord.withLife, RetentionRow.expire, hstored, hdue]
  | @dated expiresAt hpermanent hexpiry hlate =>
    rw [hplain (some expiresAt) hpermanent (expiry_retentionRow hexpiry).symm]
    simp [MemoryRecord.withLife, MemoryRecord.retentionRow, RetentionRow.assign, awareDatetime,
      not_le.mpr hlate]
  | @datedDue expiresAt hpermanent hexpiry hdue =>
    rw [hplain (some expiresAt) hpermanent (expiry_retentionRow hexpiry).symm]
    simp [MemoryRecord.withLife, RetentionRow.expire, RetentionRow.assign, awareDatetime, hdue]

end Headhunt.Memory
