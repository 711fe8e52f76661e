import Mathlib.Data.List.Induction

/-! Histories: lists of events in the order they came in. -/
namespace History

variable {α : Type*}

/-- `P` holds of every event with what was there before it. -/
def EachAfter (P : List α → α → Prop) (log : List α) : Prop :=
  ∀ pre e post, log = pre ++ e :: post → P pre e

theorem eachAfter_nil (P : List α → α → Prop) : EachAfter P [] := by
  intro pre e post h
  simp at h

theorem eachAfter_append_singleton {P : List α → α → Prop} {log : List α} {e : α} :
    EachAfter P (log ++ [e]) ↔ EachAfter P log ∧ P log e := by
  constructor
  · intro h
    refine ⟨?_, h log e [] rfl⟩
    rintro pre e' post rfl
    exact h pre e' (post ++ [e]) (by simp)
  · rintro ⟨hlog, he⟩ pre e' post heq
    rcases List.eq_nil_or_concat post with rfl | ⟨rest, last, rfl⟩
    · obtain ⟨rfl, hone⟩ := List.append_inj' heq rfl
      obtain rfl := (List.cons.inj hone).1
      exact he
    · rw [List.concat_eq_append, ← List.cons_append, ← List.append_assoc] at heq
      obtain ⟨rfl, _⟩ := List.append_inj' heq rfl
      exact hlog pre e' rest rfl

theorem eachAfter_append {P : List α → α → Prop} {log more : List α} :
    EachAfter P (log ++ more) ↔
      EachAfter P log ∧ EachAfter (fun pre e => P (log ++ pre) e) more := by
  induction more using List.reverseRecOn with
  | nil => simp [eachAfter_nil]
  | append_singleton more e ih =>
    rw [← List.append_assoc, eachAfter_append_singleton, ih, eachAfter_append_singleton, and_assoc]

/-- What holds after some of the events holds after more of them. -/
theorem EachAfter.insert {P : List α → α → Prop}
    (hmono : ∀ pre pre' e, pre ⊆ pre' → P pre e → P pre' e) {log added more : List α}
    (hadded : EachAfter P (log ++ added)) (hmore : EachAfter P (log ++ more)) :
    EachAfter P (log ++ added ++ more) := by
  refine eachAfter_append.mpr ⟨hadded, ?_⟩
  intro pre e post heq
  refine hmono (log ++ pre) _ e ?_ ((eachAfter_append.mp hmore).2 pre e post heq)
  intro x hx
  rcases List.mem_append.mp hx with hx | hx
  · exact List.mem_append_left _ (List.mem_append_left _ hx)
  · exact List.mem_append_right _ hx

/-- An event has its reasons before it. -/
theorem EachAfter.of_mem {P : List α → α → Prop} {log : List α} (h : EachAfter P log) {e : α}
    (he : e ∈ log) : ∃ pre post, log = pre ++ e :: post ∧ P pre e := by
  obtain ⟨pre, post, hsplit⟩ := List.append_of_mem he
  exact ⟨pre, post, hsplit, h pre e post hsplit⟩

end History
