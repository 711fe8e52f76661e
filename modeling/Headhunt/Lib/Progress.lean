import Mathlib.Data.Nat.Basic

/-! Progress of an infinite run, given as the sequence of its states, by a number that
never grows and falls again and again until the goal is reached. -/
namespace Progress

variable {σ : Type*} {s : Nat → σ}

/-- What one step keeps, every later state keeps. -/
theorem keeps {P : σ → Prop} {N : Nat} (hkeep : ∀ n ≥ N, P (s n) → P (s (n + 1))) {m : Nat}
    (hm : N ≤ m) (hP : P (s m)) : ∀ n ≥ m, P (s n) := by
  intro n hn
  induction n, hn using Nat.le_induction with
  | base => exact hP
  | succ n hmn ih => exact hkeep n (by omega) ih

theorem measure_le {μ : σ → Nat} {N : Nat} (hle : ∀ n ≥ N, μ (s (n + 1)) ≤ μ (s n)) {m n : Nat}
    (hm : N ≤ m) (hmn : m ≤ n) : μ (s n) ≤ μ (s m) :=
  keeps (P := fun t => μ t ≤ μ (s m)) (fun k hk hP => le_trans (hle k hk) hP) hm le_rfl n hmn

/-- A state that is not there yet is followed by one with a smaller measure. -/
theorem eventually {Done : σ → Prop} (μ : σ → Nat) {N : Nat}
    (hle : ∀ n ≥ N, μ (s (n + 1)) ≤ μ (s n))
    (hlt : ∀ n ≥ N, ¬Done (s n) → ∃ m ≥ n, μ (s (m + 1)) < μ (s m)) : ∃ n ≥ N, Done (s n) := by
  have hreach : ∀ k n, N ≤ n → μ (s n) ≤ k → ∃ m ≥ N, Done (s m) := by
    intro k
    induction k with
    | zero =>
      intro n hn hk
      by_contra hnone
      have hdone : ¬Done (s n) := fun h => hnone ⟨n, hn, h⟩
      obtain ⟨m, hm, hless⟩ := hlt n hn hdone
      have := measure_le hle hn hm
      omega
    | succ k ih =>
      intro n hn hk
      by_cases hdone : Done (s n)
      · exact ⟨n, hn, hdone⟩
      · obtain ⟨m, hm, hless⟩ := hlt n hn hdone
        have hbefore := measure_le hle hn hm
        apply ih (m + 1)
        · omega
        · omega
  exact hreach (μ (s N)) N le_rfl le_rfl

/-- A goal that is kept once it is reached holds from some point on. -/
theorem eventuallyAlways {Done : σ → Prop} (μ : σ → Nat) {N : Nat}
    (hle : ∀ n ≥ N, μ (s (n + 1)) ≤ μ (s n))
    (hlt : ∀ n ≥ N, ¬Done (s n) → ∃ m ≥ n, μ (s (m + 1)) < μ (s m))
    (hkeep : ∀ n ≥ N, Done (s n) → Done (s (n + 1))) : ∃ m ≥ N, ∀ n ≥ m, Done (s n) := by
  obtain ⟨m, hm, hdone⟩ := eventually μ hle hlt
  exact ⟨m, hm, keeps hkeep hm hdone⟩

/-- A clock that advances by at least one unit in every round passes every date. -/
theorem clock_passes {clock : Nat → Int} {N : Nat} (hticks : ∀ n ≥ N, clock n + 1 ≤ clock (n + 1))
    (date : Int) : ∃ n ≥ N, date ≤ clock n := by
  have hgrows : ∀ k : Nat, clock N + k ≤ clock (N + k) := by
    intro k
    induction k with
    | zero => simp
    | succ k ih =>
      have hnext := hticks (N + k) (by omega)
      rw [← Nat.add_assoc]
      push_cast
      omega
  refine ⟨N + (date - clock N).toNat, by omega, ?_⟩
  have := hgrows (date - clock N).toNat
  omega

end Progress
