import Headhunt.Lib.PyText
import Mathlib.Data.List.DropRight
import Mathlib.Data.List.Infix

/-! When a pattern occurs in a text that was joined or stripped. The pattern contains no
separator, so it lies within one of the parts. -/
namespace List

variable {α : Type*} {p : List α} {c : α}

theorem prefix_append_cons (a b : List α) (hc : c ∉ p) : p <+: a ++ c :: b ↔ p <+: a := by
  induction a generalizing p with
  | nil =>
    constructor
    · intro h
      cases p with
      | nil => exact List.nil_prefix
      | cons d p =>
        obtain ⟨rfl, _⟩ := List.cons_prefix_cons.mp h
        simp at hc
    · rintro h
      rw [List.prefix_nil.mp h]
      exact List.nil_prefix
  | cons d a ih =>
    cases p with
    | nil => simp
    | cons e p =>
      have hp : c ∉ p := fun h => hc (List.mem_cons_of_mem _ h)
      simp only [List.cons_append, List.cons_prefix_cons, ih hp]

/-- A pattern without the separator lies before or after it. -/
theorem infix_append_cons (a b : List α) (hne : p ≠ []) (hc : c ∉ p) :
    p <:+: a ++ c :: b ↔ p <:+: a ∨ p <:+: b := by
  induction a with
  | nil =>
    have hnil : ¬p <+: [] := fun h => hne (List.prefix_nil.mp h)
    have hhead : ¬p <+: c :: b := by
      rw [← List.nil_append (c :: b), prefix_append_cons [] b hc]
      exact hnil
    simp [List.infix_cons_iff, hhead, hne]
  | cons d a ih =>
    have hprefix : p <+: d :: (a ++ c :: b) ↔ p <+: d :: a :=
      prefix_append_cons (d :: a) b hc
    simp only [List.cons_append, List.infix_cons_iff, hprefix, ih, or_assoc]

/-- In a joined text the pattern lies within one of the parts. -/
theorem infix_intercalate (hne : p ≠ []) (hc : c ∉ p) (parts : List (List α)) :
    p <:+: [c].intercalate parts ↔ ∃ part ∈ parts, p <:+: part := by
  induction parts with
  | nil => simp [hne]
  | cons x parts ih =>
    cases parts with
    | nil => simp
    | cons y parts =>
      rw [List.intercalate_cons_cons, List.append_assoc, List.singleton_append,
        infix_append_cons _ _ hne hc, ih]
      simp

variable {f : α → Bool}

/-- Characters before the pattern that are none of its first are no part of it. -/
theorem infix_dropWhile (a : List α) (hne : p ≠ []) (hhead : f (p.head hne) = false) :
    p <:+: a.dropWhile f ↔ p <:+: a := by
  induction a with
  | nil => simp
  | cons d a ih =>
    by_cases hd : f d = true
    · have hno : ¬p <+: d :: a := by
        intro h
        cases p with
        | nil => exact hne rfl
        | cons e p =>
          obtain ⟨rfl, _⟩ := List.cons_prefix_cons.mp h
          simp [hd] at hhead
      simp [hd, ih, List.infix_cons_iff, hno]
    · simp [hd]

/-- Every part lies in the joined text. -/
theorem infix_intercalate_of_mem {x : List α} {parts : List (List α)} (sep : List α)
    (h : x ∈ parts) : x <:+: sep.intercalate parts := by
  induction parts with
  | nil => cases h
  | cons y parts ih =>
    cases parts with
    | nil =>
      rw [List.mem_singleton.mp h, List.intercalate_singleton]
    | cons z parts =>
      rw [List.intercalate_cons_cons, List.append_assoc]
      rcases List.mem_cons.mp h with rfl | h
      · exact (List.prefix_append _ _).isInfix
      · have htail := (List.suffix_append sep (sep.intercalate (z :: parts))).isInfix
        exact ((ih h).trans htail).trans (List.suffix_append y _).isInfix

theorem any_eq_of_mem {g : α → Bool} {xs : List α} (h : ∀ x ∈ xs, g x = f x) :
    xs.any g = xs.any f := by
  rw [Bool.eq_iff_iff, List.any_eq_true, List.any_eq_true]
  exact exists_congr fun x => and_congr_right fun hx => by rw [h x hx]

/-- Some part that is there satisfies the predicate. -/
theorem any_filterMap_eq {β : Type*} {g : α → Option β} {q : β → Bool} {xs : List α}
    (h : ∀ x ∈ xs, (g x).any q = f x) : (xs.filterMap g).any q = xs.any f := by
  induction xs with
  | nil => rfl
  | cons x xs ih =>
    have hx := h x List.mem_cons_self
    have hxs := ih fun y hy => h y (List.mem_cons_of_mem x hy)
    cases hg : g x <;> simp [hg, ← hx, hxs]

/-- Nothing is dropped from the first element outside the class on. -/
theorem dropWhile_append_stop {c : α} (hc : f c = false) (xs ys : List α) :
    (xs ++ c :: ys).dropWhile f = xs.dropWhile f ++ c :: ys := by
  induction xs with
  | nil => rw [List.nil_append, List.dropWhile_cons_of_neg (by simp [hc])]; rfl
  | cons x xs ih =>
    rw [List.cons_append, List.dropWhile_cons, List.dropWhile_cons, ih]
    split_ifs
    · rfl
    · rfl

end List

namespace Py

/-- A pattern with no white space at its ends is not touched by `strip`. -/
theorem infix_stripChars {f : Char → Bool} {p cs : List Char} (hne : p ≠ [])
    (hhead : f (p.head hne) = false) (hlast : f (p.getLast hne) = false) :
    p <:+: stripChars f cs ↔ p <:+: cs := by
  have hrev : p.reverse ≠ [] := by simpa using hne
  have hfront : f (p.reverse.head hrev) = false := by simpa using hlast
  unfold stripChars
  rw [← List.reverse_infix, List.reverse_reverse, List.infix_dropWhile _ hrev hfront,
    List.reverse_infix, List.infix_dropWhile _ hne hhead]

section Strip

variable {f : Char → Bool}

theorem stripChars_dropWhile (cs : List Char) : stripChars f (cs.dropWhile f) = stripChars f cs := by
  unfold stripChars
  rw [List.dropWhile_idempotent]

/-- The two ends are stripped apart, when something in between stays. -/
theorem stripChars_around {c : Char} (hc : f c = false) (xs ys : List Char) :
    stripChars f (xs ++ c :: ys) = xs.dropWhile f ++ c :: (ys.reverse.dropWhile f).reverse := by
  have hreverse : (xs.dropWhile f ++ c :: ys).reverse =
      ys.reverse ++ c :: (xs.dropWhile f).reverse := by simp
  rw [stripChars, List.dropWhile_append_stop hc, hreverse, List.dropWhile_append_stop hc]
  simp

/-- Characters of the class at the end make no difference. -/
theorem stripChars_append {ws : List Char} (cs : List Char) (hws : ∀ c ∈ ws, f c = true) :
    stripChars f (cs ++ ws) = stripChars f cs := by
  have hnil : ws.dropWhile f = [] := List.dropWhile_eq_nil_iff.mpr hws
  have hreverse : ws.reverse.dropWhile f = [] := by
    apply List.dropWhile_eq_nil_iff.mpr
    intro c hc
    exact hws c (List.mem_reverse.mp hc)
  unfold stripChars
  rw [List.dropWhile_append]
  by_cases hempty : (cs.dropWhile f).isEmpty = true
  · rw [if_pos hempty, hnil, List.isEmpty_iff.mp hempty]
  · rw [if_neg hempty, List.reverse_append, List.dropWhile_append, hreverse]
    rfl

/-- What is left of a text begins and ends outside the class. -/
theorem stripChars_stripChars (cs : List Char) :
    stripChars f (stripChars f cs) = stripChars f cs := by
  obtain ⟨ws, hsplit, hws⟩ : ∃ ws, cs.dropWhile f = stripChars f cs ++ ws ∧
      ∀ c ∈ ws, f c = true := by
    refine ⟨((cs.dropWhile f).reverse.takeWhile f).reverse, ?_, ?_⟩
    · rw [stripChars, ← List.reverse_append, List.takeWhile_append_dropWhile, List.reverse_reverse]
    · intro c hc
      exact List.mem_takeWhile_imp (List.mem_reverse.mp hc)
  calc stripChars f (stripChars f cs)
      = stripChars f (stripChars f cs ++ ws) := (stripChars_append _ hws).symm
    _ = stripChars f (cs.dropWhile f) := by rw [hsplit]
    _ = stripChars f cs := stripChars_dropWhile cs

theorem strip_strip (text : String) : strip (strip text) = strip text := by
  simp only [strip, String.toList_ofList, stripChars_stripChars]

end Strip

/-- A pattern that the joins and strips of a text leave alone. -/
structure Solid (separators : List Char) (pattern : String) : Prop where
  ne : pattern.toList ≠ []
  head : isSpace (pattern.toList.head ne) = false
  last : isSpace (pattern.toList.getLast ne) = false
  separators : ∀ c ∈ separators, c ∉ pattern.toList

variable {separators : List Char} {pattern : String}

theorem Solid.contains_strip (h : Solid separators pattern) (text : String) :
    contains (strip text) pattern = contains text pattern := by
  unfold contains strip
  rw [String.toList_ofList, decide_eq_decide]
  exact infix_stripChars h.ne h.head h.last

theorem Solid.contains_empty (h : Solid separators pattern) : contains "" pattern = false := by
  simpa [contains] using h.ne

theorem Solid.contains_intercalate (h : Solid separators pattern) (sep : String) (c : Char)
    (hsep : sep.toList = [c]) (hc : c ∈ separators) (parts : List String) :
    contains (sep.intercalate parts) pattern = parts.any fun part => contains part pattern := by
  rw [Bool.eq_iff_iff]
  simp only [contains, decide_eq_true_eq, List.any_eq_true, String.toList_intercalate, hsep,
    List.infix_intercalate h.ne (h.separators c hc), List.mem_map]
  constructor
  · rintro ⟨_, ⟨part, hpart, rfl⟩, hin⟩
    exact ⟨part, hpart, hin⟩
  · rintro ⟨part, hpart, hin⟩
    exact ⟨part.toList, ⟨part, hpart, rfl⟩, hin⟩

/-- `label + ": " + value`. -/
theorem Solid.contains_label (h : Solid separators pattern) (hc : ':' ∈ separators)
    (label value : String) :
    contains (label ++ ": " ++ value) pattern =
      (contains label pattern || contains value pattern) := by
  have hspace : pattern.toList <:+: ' ' :: value.toList ↔ pattern.toList <:+: value.toList := by
    have hall := List.infix_dropWhile (' ' :: value.toList) h.ne h.head
    rw [← hall, ← List.infix_dropWhile value.toList h.ne h.head]
    simp [show isSpace ' ' = true from rfl]
  rw [Bool.eq_iff_iff]
  simp only [contains, decide_eq_true_eq, Bool.or_eq_true, String.toList_append]
  rw [show (": ".toList : List Char) = [':', ' '] from rfl, List.append_assoc]
  exact (List.infix_append_cons _ _ h.ne (h.separators ':' hc)).trans (or_congr_right hspace)

end Py
