import Mathlib.Data.Option.Basic

/-! Finite runs of a partial step function. A label carries every choice the
environment makes, so a run is the list of its labels. -/
namespace Transition

variable {σ ι : Type*} (step : σ → ι → Option σ)

/-- Run the labels in order; `none` as soon as one of them is not enabled. -/
def exec (s : σ) : List ι → Option σ
  | [] => some s
  | i :: tr => (step s i).bind fun t => exec t tr

/-- `P` holds of every state and label met along the run. -/
def Along (P : σ → ι → Prop) (s : σ) : List ι → Prop
  | [] => True
  | i :: tr => P s i ∧ ∀ t, step s i = some t → Along P t tr

/-- `Along` for a property that is computed. -/
def checkAlong (check : σ → ι → Bool) (s : σ) : List ι → Bool
  | [] => true
  | i :: tr => check s i && (step s i).all fun t => checkAlong check t tr

@[simp] theorem exec_nil (s : σ) : exec step s [] = some s := rfl

@[simp] theorem along_nil (P : σ → ι → Prop) (s : σ) : Along step P s [] := trivial

theorem exec_cons (s : σ) (i : ι) (tr : List ι) :
    exec step s (i :: tr) = (step s i).bind fun t => exec step t tr := rfl

/-- The sum of what the steps of the run count for. -/
def tally (count : σ → ι → Nat) (s : σ) : List ι → Nat
  | [] => 0
  | i :: tr => count s i + ((step s i).map fun t => tally count t tr).getD 0

/-- On its way from `s` to `t` the run takes the step `i` from `u` to `v`. -/
def Takes (s : σ) (tr : List ι) (t u : σ) (i : ι) (v : σ) : Prop :=
  ∃ pre post, tr = pre ++ i :: post ∧ exec step s pre = some u ∧ step u i = some v ∧
    exec step v post = some t

/-- The run comes through `u`, at its ends or in between. -/
def Visits (s : σ) (tr : List ι) (u : σ) : Prop :=
  ∃ pre post, tr = pre ++ post ∧ exec step s pre = some u

/-- The run takes a step `A`, and none of the steps after it is a `W`. -/
def Since (A W : σ → ι → Prop) (s : σ) (tr : List ι) : Prop :=
  ∃ pre i post u v, tr = pre ++ i :: post ∧ exec step s pre = some u ∧ step u i = some v ∧ A u i ∧
    Along step (fun s i => ¬W s i) v post

variable {step}

theorem exec_cons_eq_some {s u : σ} {i : ι} {tr : List ι} :
    exec step s (i :: tr) = some u ↔ ∃ t, step s i = some t ∧ exec step t tr = some u :=
  Option.bind_eq_some_iff

theorem exec_append (s : σ) (pre post : List ι) :
    exec step s (pre ++ post) = (exec step s pre).bind fun t => exec step t post := by
  induction pre generalizing s with
  | nil => rfl
  | cons i pre ih =>
    cases h : step s i with
    | none => simp [exec_cons, h]
    | some t => simp [exec_cons, h, ih]

theorem exec_append_eq_some {s u : σ} {pre post : List ι} :
    exec step s (pre ++ post) = some u ↔
      ∃ t, exec step s pre = some t ∧ exec step t post = some u := by
  rw [exec_append]
  exact Option.bind_eq_some_iff

theorem along_append {P : σ → ι → Prop} {s t : σ} {pre post : List ι}
    (hpre : exec step s pre = some t) :
    Along step P s (pre ++ post) ↔ Along step P s pre ∧ Along step P t post := by
  induction pre generalizing s with
  | nil =>
    obtain rfl : s = t := Option.some.inj hpre
    simp
  | cons i pre ih =>
    obtain ⟨r, hr, hrt⟩ := exec_cons_eq_some.mp hpre
    have hone : ∀ {Q : σ → Prop}, (∀ u, step s i = some u → Q u) ↔ Q r := by
      intro Q
      constructor
      · intro h
        exact h r hr
      · intro h u hu
        rwa [← Option.some.inj (hr.symm.trans hu)]
    simp only [List.cons_append, Along, hone, ih hrt, and_assoc]

theorem along_of_checkAlong {P : σ → ι → Prop} {check : σ → ι → Bool}
    (hcheck : ∀ s i, check s i = true → P s i) {s : σ} {tr : List ι}
    (h : checkAlong step check s tr = true) : Along step P s tr := by
  induction tr generalizing s with
  | nil => trivial
  | cons i tr ih =>
    simp only [checkAlong, Bool.and_eq_true, Option.all_eq_true] at h
    exact ⟨hcheck s i h.1, fun t ht => ih (h.2 t ht)⟩

/-- A property of the whole run is one of every step it takes. -/
theorem along_iff_forall {P : σ → ι → Prop} {s : σ} {tr : List ι} :
    Along step P s tr ↔
      ∀ pre i post u, tr = pre ++ i :: post → exec step s pre = some u → P u i := by
  constructor
  · rintro h pre i post u rfl hu
    exact ((along_append hu).mp h).2.1
  · intro h
    induction tr generalizing s with
    | nil => trivial
    | cons i tr ih =>
      refine ⟨h [] i tr s rfl rfl, ?_⟩
      intro r hr
      refine ih ?_
      rintro pre j post u rfl hu
      exact h (i :: pre) j post u rfl (exec_cons_eq_some.mpr ⟨r, hr, hu⟩)

/-- The run rule: an invariant kept by every step that meets `P` holds wherever
a run that meets `P` leads. -/
theorem exec_invariant (Inv : σ → Prop) {P : σ → ι → Prop}
    (hstep : ∀ s i t, Inv s → P s i → step s i = some t → Inv t)
    {s t : σ} {tr : List ι} (hs : Inv s) (hP : Along step P s tr)
    (hrun : exec step s tr = some t) : Inv t := by
  induction tr generalizing s with
  | nil =>
    obtain rfl : s = t := Option.some.inj hrun
    exact hs
  | cons i tr ih =>
    obtain ⟨r, hr, hrt⟩ := exec_cons_eq_some.mp hrun
    exact ih (hstep s i r hs hP.1 hr) (hP.2 r hr) hrt

/-- What holds at the end and not at the start began to hold at some step. -/
theorem exec_begins (P : σ → Prop) {s t : σ} {tr : List ι} (hs : ¬P s) (ht : P t)
    (hrun : exec step s tr = some t) :
    ∃ u i v, Takes step s tr t u i v ∧ ¬P u ∧ P v := by
  induction tr generalizing s with
  | nil =>
    obtain rfl : s = t := Option.some.inj hrun
    exact absurd ht hs
  | cons i tr ih =>
    obtain ⟨r, hr, hrt⟩ := exec_cons_eq_some.mp hrun
    by_cases hPr : P r
    · exact ⟨s, i, r, ⟨[], tr, rfl, rfl, hr, hrt⟩, hs, hPr⟩
    · obtain ⟨u, j, v, ⟨pre, post, rfl, hpre, hstep, hpost⟩, hu, hv⟩ := ih hPr hrt
      exact ⟨u, j, v,
        ⟨i :: pre, post, rfl, exec_cons_eq_some.mpr ⟨r, hr, hpre⟩, hstep, hpost⟩, hu, hv⟩

/-- What `P` says of the whole run it says of the parts before and after a state. -/
theorem Visits.along {P : σ → ι → Prop} {s u : σ} {tr : List ι} (h : Visits step s tr u)
    (hP : Along step P s tr) :
    ∃ pre, exec step s pre = some u ∧ Along step P s pre := by
  obtain ⟨pre, post, rfl, hpre⟩ := h
  exact ⟨pre, hpre, ((along_append hpre).mp hP).1⟩

/-- Of two states that a run comes through, one leads to the other. -/
theorem Visits.connected {P : σ → ι → Prop} {s u v : σ} {tr : List ι}
    (hu : Visits step s tr u) (hv : Visits step s tr v) (hP : Along step P s tr) :
    (∃ mid, exec step u mid = some v ∧ Along step P u mid) ∨
      ∃ mid, exec step v mid = some u ∧ Along step P v mid := by
  obtain ⟨pre, post, rfl, hpre⟩ := hu
  obtain ⟨pre', post', heq, hpre'⟩ := hv
  have hprefix : pre <+: pre ++ post := List.prefix_append pre post
  have hprefix' : pre' <+: pre ++ post := heq ▸ List.prefix_append pre' post'
  rcases List.prefix_or_prefix_of_prefix hprefix hprefix' with ⟨mid, rfl⟩ | ⟨mid, rfl⟩
  · left
    obtain ⟨w, hw, hrest⟩ := exec_append_eq_some.mp hpre'
    obtain rfl := Option.some.inj (hpre.symm.trans hw)
    rw [heq, List.append_assoc] at hP
    have hmid := ((along_append hpre).mp hP).2
    exact ⟨mid, hrest, ((along_append hrest).mp hmid).1⟩
  · right
    obtain ⟨w, hw, hrest⟩ := exec_append_eq_some.mp hpre
    obtain rfl := Option.some.inj (hpre'.symm.trans hw)
    rw [List.append_assoc] at hP
    have hmid := ((along_append hpre').mp hP).2
    exact ⟨mid, hrest, ((along_append hrest).mp hmid).1⟩

/-- What `P` says of the whole run it says of the parts around a step. -/
theorem Takes.along {P : σ → ι → Prop} {s t u v : σ} {i : ι} {tr : List ι}
    (h : Takes step s tr t u i v) (hP : Along step P s tr) :
    ∃ pre post, exec step s pre = some u ∧ Along step P s pre ∧ P u i ∧ step u i = some v ∧
      exec step v post = some t ∧ Along step P v post := by
  obtain ⟨pre, post, rfl, hpre, hstep, hpost⟩ := h
  obtain ⟨hbefore, hi, hafter⟩ := (along_append hpre).mp hP
  exact ⟨pre, post, hpre, hbefore, hi, hstep, hpost, hafter v hstep⟩

theorem tally_cons {count : σ → ι → Nat} {s t : σ} {i : ι} {tr : List ι}
    (h : step s i = some t) : tally step count s (i :: tr) = count s i + tally step count t tr := by
  simp [tally, h]

/-- A number of the state that each step raises by what it counts for. -/
theorem exec_tally (Inv : σ → Prop) {measure : σ → Nat} {count : σ → ι → Nat}
    (hstep : ∀ s i t, Inv s → step s i = some t → Inv t ∧ measure t = measure s + count s i)
    {s t : σ} {tr : List ι} (hs : Inv s) (hrun : exec step s tr = some t) :
    measure t = measure s + tally step count s tr := by
  induction tr generalizing s with
  | nil =>
    obtain rfl : s = t := Option.some.inj hrun
    rfl
  | cons i tr ih =>
    obtain ⟨r, hr, hrt⟩ := exec_cons_eq_some.mp hrun
    obtain ⟨hinv, hmeasure⟩ := hstep s i r hs hr
    rw [ih hinv hrt, hmeasure, tally_cons hr, Nat.add_assoc]

/-- The same rule for what the invariant says about the steps themselves. -/
theorem Along.of_invariant (Inv : σ → Prop) {P Q : σ → ι → Prop}
    (hstep : ∀ s i t, Inv s → P s i → step s i = some t → Inv t)
    (hQ : ∀ s i, Inv s → P s i → Q s i)
    {s : σ} {tr : List ι} (hs : Inv s) (hP : Along step P s tr) : Along step Q s tr := by
  induction tr generalizing s with
  | nil => trivial
  | cons i tr ih =>
    refine ⟨hQ s i hs hP.1, ?_⟩
    intro t ht
    exact ih (hstep s i t hs hP.1 ht) (hP.2 t ht)

theorem Along.mono {P Q : σ → ι → Prop} (h : ∀ s i, P s i → Q s i) {s : σ} {tr : List ι}
    (hP : Along step P s tr) : Along step Q s tr :=
  Along.of_invariant (fun _ => True) (fun _ _ _ _ _ _ => trivial)
    (fun s i _ hp => h s i hp) trivial hP

theorem Along.and {P Q : σ → ι → Prop} {s : σ} {tr : List ι} (hP : Along step P s tr)
    (hQ : Along step Q s tr) : Along step (fun s i => P s i ∧ Q s i) s tr := by
  induction tr generalizing s with
  | nil => trivial
  | cons i tr ih => exact ⟨⟨hP.1, hQ.1⟩, fun t ht => ih (hP.2 t ht) (hQ.2 t ht)⟩

/-- What only an `A` brings about, and a `W` ends, was brought about by an `A` with no `W`
since, or it held at the start and there was no `W` at all. -/
theorem since_or_initially {C A W : σ → ι → Prop} (P Inv : σ → Prop)
    (hinv : ∀ u i v, Inv u → C u i → step u i = some v → Inv v)
    (hstep : ∀ u i v, Inv u → C u i → step u i = some v → P v → A u i ∨ P u ∧ ¬W u i)
    {s t : σ} {tr : List ι} (hs : Inv s) (hC : Along step C s tr) (hrun : exec step s tr = some t)
    (ht : P t) : Since step A W s tr ∨ P s ∧ Along step (fun s i => ¬W s i) s tr := by
  induction tr generalizing s with
  | nil =>
    obtain rfl : s = t := Option.some.inj hrun
    exact .inr ⟨ht, trivial⟩
  | cons i tr ih =>
    obtain ⟨r, hr, hrt⟩ := exec_cons_eq_some.mp hrun
    have hnext : ∀ u, step s i = some u → u = r := fun u hu => Option.some.inj (hu.symm.trans hr)
    rcases ih (hinv s i r hs hC.1 hr) (hC.2 r hr) hrt with
      ⟨pre, j, post, u, v, rfl, hpre, hv, hA, hpost⟩ | ⟨hP, hW⟩
    · exact .inl ⟨i :: pre, j, post, u, v, rfl, exec_cons_eq_some.mpr ⟨r, hr, hpre⟩, hv, hA, hpost⟩
    · rcases hstep s i r hs hC.1 hr hP with hA | ⟨hPs, hWs⟩
      · exact .inl ⟨[], i, tr, s, r, rfl, rfl, hr, hA, hW⟩
      · refine .inr ⟨hPs, hWs, ?_⟩
        intro u hu
        rw [hnext u hu]
        exact hW

/-- Right after a `W` that is no `A` there is no `A` since. -/
theorem not_since_append_singleton {A W : σ → ι → Prop} {s u : σ} {tr : List ι} {i : ι}
    (hpre : exec step s tr = some u) (hA : ¬A u i) (hW : W u i) :
    ¬Since step A W s (tr ++ [i]) := by
  rintro ⟨pre, j, post, v, w, heq, hv, hw, hAv, hpost⟩
  rcases List.eq_nil_or_concat post with rfl | ⟨post, k, rfl⟩
  · obtain ⟨rfl, hj⟩ := List.append_inj' heq rfl
    obtain rfl := List.singleton_inj.mp hj
    obtain rfl := Option.some.inj (hpre.symm.trans hv)
    exact hA hAv
  · rw [List.concat_eq_append, ← List.cons_append, ← List.append_assoc] at heq
    obtain ⟨rfl, hk⟩ := List.append_inj' heq rfl
    obtain rfl := List.singleton_inj.mp hk
    obtain ⟨v', hv', hrest⟩ := exec_append_eq_some.mp hpre
    obtain rfl := Option.some.inj (hv.symm.trans hv')
    obtain ⟨w', hw', hpost'⟩ := exec_cons_eq_some.mp hrest
    obtain rfl := Option.some.inj (hw.symm.trans hw')
    rw [List.concat_eq_append] at hpost
    exact ((along_append hpost').mp hpost).2.1 hW

end Transition
