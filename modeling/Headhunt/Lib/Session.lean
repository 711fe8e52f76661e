import Mathlib.Data.Option.Basic

/-! Work in a database session. A statement takes effect in what the session sees at
once, also when the work raises later, and in the database when the session commits. -/
namespace Session

universe u
variable {δ : Type*} {ε σ α β : Type u}

/-- One statement. What is raised when the database refuses it is up to the work. -/
def statement (refused : δ → ε) (write : σ → Except δ σ) : EStateM ε σ PUnit := fun s =>
  match write s with
  | .ok t => .ok ⟨⟩ t
  | .error exc => .error (refused exc) s

/-- Commit what the work has written when it returns, and roll it back when it raises. -/
def transaction (work : EStateM ε σ α) (committed : σ) : Except ε α × σ :=
  match work.run committed with
  | .ok a view => (.ok a, view)
  | .error exc _ => (.error exc, committed)

/-- The work raises and the session sees `view` then. -/
def RaisesAt (work : EStateM ε σ α) (s : σ) (exc : ε) (view : σ) : Prop :=
  work.run s = .error exc view

/-- The work returns and the session sees `view` then. -/
def ReturnsAt (work : EStateM ε σ α) (s : σ) (a : α) (view : σ) : Prop :=
  work.run s = .ok a view

/-- The session sees `view` when the work returns or raises. -/
def EndsAt (work : EStateM ε σ α) (s view : σ) : Prop :=
  (∃ a, ReturnsAt work s a view) ∨ ∃ exc, RaisesAt work s exc view

variable {work : EStateM ε σ α} {next : α → EStateM ε σ β} {s t u : σ} {a : α} {b : β} {exc exc' : ε}

/-- Nothing of work that raises reaches the database. -/
theorem transaction_of_raises (h : RaisesAt work s exc t) :
    transaction work s = (.error exc, s) := by
  unfold RaisesAt at h
  simp [transaction, h]

theorem transaction_of_returns (h : ReturnsAt work s a t) : transaction work s = (.ok a, t) := by
  unfold ReturnsAt at h
  simp [transaction, h]

@[simp] theorem raisesAt_throw :
    RaisesAt (throw exc' : EStateM ε σ α) s exc t ↔ exc' = exc ∧ s = t := by
  change EStateM.Result.error exc' s = .error exc t ↔ _
  simp

@[simp] theorem not_returnsAt_throw : ¬ReturnsAt (throw exc : EStateM ε σ α) s a t := by
  change ¬EStateM.Result.error exc s = .ok a t
  simp

@[simp] theorem returnsAt_pure {a' : α} :
    ReturnsAt (pure a' : EStateM ε σ α) s a t ↔ a' = a ∧ s = t := by
  simp [ReturnsAt]

@[simp] theorem returnsAt_get {r : σ} : ReturnsAt (get : EStateM ε σ σ) s r t ↔ s = r ∧ s = t := by
  simp [ReturnsAt]

@[simp] theorem returnsAt_modify {f : σ → σ} {x : PUnit} :
    ReturnsAt (modify f : EStateM ε σ PUnit) s x t ↔ f s = t := by
  change EStateM.Result.ok PUnit.unit (f s) = .ok x t ↔ _
  simp

@[simp] theorem returnsAt_statement {refused : δ → ε} {write : σ → Except δ σ} {x : PUnit} :
    ReturnsAt (statement refused write) s x t ↔ write s = .ok t := by
  change statement refused write s = .ok x t ↔ _
  unfold statement
  cases write s <;> simp

theorem returnsAt_bind :
    ReturnsAt (work >>= next) s b u ↔ ∃ a t, ReturnsAt work s a t ∧ ReturnsAt (next a) t b u := by
  unfold ReturnsAt
  cases h : work.run s with
  | error exc t => simp [h]
  | ok a t => simp [h, and_assoc]

theorem raisesAt_bind :
    RaisesAt (work >>= next) s exc u ↔
      RaisesAt work s exc u ∨ ∃ a t, ReturnsAt work s a t ∧ RaisesAt (next a) t exc u := by
  unfold RaisesAt ReturnsAt
  cases h : work.run s with
  | error exc t => simp [h]
  | ok a t => simp [h, and_assoc]

theorem endsAt_bind :
    EndsAt (work >>= next) s u ↔
      (∃ exc, RaisesAt work s exc u) ∨ ∃ a t, ReturnsAt work s a t ∧ EndsAt (next a) t u := by
  simp only [EndsAt, returnsAt_bind, raisesAt_bind]
  constructor
  · rintro (⟨b, a, t, ha, hb⟩ | ⟨exc, h | ⟨a, t, ha, hexc⟩⟩)
    · exact Or.inr ⟨a, t, ha, Or.inl ⟨b, hb⟩⟩
    · exact Or.inl ⟨exc, h⟩
    · exact Or.inr ⟨a, t, ha, Or.inr ⟨exc, hexc⟩⟩
  · rintro (⟨exc, h⟩ | ⟨a, t, ha, ⟨b, hb⟩ | ⟨exc, hexc⟩⟩)
    · exact Or.inr ⟨exc, Or.inl h⟩
    · exact Or.inl ⟨b, a, t, ha, hb⟩
    · exact Or.inr ⟨exc, Or.inr ⟨a, t, ha, hexc⟩⟩

@[simp] theorem endsAt_throw : EndsAt (throw exc : EStateM ε σ α) s t ↔ s = t := by
  simp [EndsAt]

@[simp] theorem endsAt_pure : EndsAt (pure a : EStateM ε σ α) s t ↔ s = t := by
  have hraises : ∀ exc, ¬RaisesAt (pure a : EStateM ε σ α) s exc t := by
    intro exc
    simp [RaisesAt]
  simp [EndsAt, hraises]

@[simp] theorem not_raisesAt_get : ¬RaisesAt (get : EStateM ε σ σ) s exc t := by
  simp [RaisesAt]

theorem raisesAt_statement {refused : δ → ε} {write : σ → Except δ σ} :
    RaisesAt (statement refused write) s exc t ↔
      ∃ exc', write s = .error exc' ∧ refused exc' = exc ∧ s = t := by
  change statement refused write s = .error exc t ↔ _
  unfold statement
  cases write s <;> simp

/-- Work that does not return raises. -/
theorem exists_raisesAt (h : ∀ a t, ¬ReturnsAt work s a t) : ∃ exc t, RaisesAt work s exc t := by
  cases hrun : work.run s with
  | ok a t => exact absurd hrun (h a t)
  | error exc t => exact ⟨exc, t, hrun⟩

theorem raisesAt_adaptExcept {ε' : Type u} {f : ε → ε'} {exc' : ε'} :
    RaisesAt (EStateM.adaptExcept f work) s exc' t ↔ ∃ exc, RaisesAt work s exc t ∧ f exc = exc' := by
  unfold RaisesAt
  cases h : work.run s with
  | error exc u =>
    simp only [EStateM.run_adaptExcept, h, EStateM.Result.error.injEq]
    exact ⟨fun ⟨hexc, hu⟩ => ⟨exc, ⟨rfl, hu⟩, hexc⟩, fun ⟨_, ⟨rfl, hu⟩, hexc⟩ => ⟨hexc, hu⟩⟩
  | ok a u => simp [h]

theorem returnsAt_adaptExcept {ε' : Type u} {f : ε → ε'} :
    ReturnsAt (EStateM.adaptExcept f work) s a t ↔ ReturnsAt work s a t := by
  unfold ReturnsAt
  cases h : work.run s <;> simp [h]

/-- The handler goes on with what the session sees when the work raises. -/
theorem raisesAt_tryCatch {handle : ε → EStateM ε σ α} (h : RaisesAt work s exc t)
    (hhandle : RaisesAt (handle exc) t exc' u) : RaisesAt (tryCatch work handle) s exc' u := by
  change EStateM.tryCatch work handle s = _
  change work s = _ at h
  simp only [EStateM.tryCatch, h]
  exact hhandle

end Session
