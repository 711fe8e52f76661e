import Headhunt.Lib.PyText

/-! `str.splitlines`, and texts joined from lines. -/
namespace Py

/-- The characters that end a line, besides `\n` and `\r` some exotic ones. -/
def isLineBreak (c : Char) : Bool :=
  let n := c.toNat
  (10 ≤ n && n ≤ 13) || (28 ≤ n && n ≤ 30) || n == 0x85 || n == 0x2028 || n == 0x2029

/-- The lines of a text, `line` the characters since the last break in reverse. -/
def splitLinesGo (line : List Char) : List Char → List (List Char)
  | [] => if line = [] then [] else [line.reverse]
  | '\r' :: '\n' :: cs => line.reverse :: splitLinesGo [] cs
  | c :: cs =>
    if isLineBreak c then line.reverse :: splitLinesGo [] cs else splitLinesGo (c :: line) cs

def splitLines (text : String) : List String := (splitLinesGo [] text.toList).map String.ofList

/-- `"\n".join(lines) + "\n"`. -/
def joinLines (lines : List String) : String := "\n".intercalate lines ++ "\n"

def IsLine (line : String) : Prop := ∀ c ∈ line.toList, isLineBreak c = false

theorem splitLinesGo_cons {c : Char} (hc : isLineBreak c = false) (line cs : List Char) :
    splitLinesGo line (c :: cs) = splitLinesGo (c :: line) cs := by
  have hne : c ≠ '\r' := by
    rintro rfl
    exact absurd hc (by decide)
  rw [splitLinesGo]
  · rw [hc]
    rfl
  · rintro rest rfl
    exact (hne rfl).elim

/-- Up to the end of the line. -/
theorem splitLinesGo_line {cs : List Char} (h : ∀ c ∈ cs, isLineBreak c = false)
    (line rest : List Char) :
    splitLinesGo line (cs ++ '\n' :: rest) = (line.reverse ++ cs) :: splitLinesGo [] rest := by
  induction cs generalizing line with
  | nil =>
    rw [List.nil_append, splitLinesGo, if_pos (by decide), List.append_nil]
    nofun
  | cons c cs ih =>
    rw [List.cons_append, splitLinesGo_cons (h c List.mem_cons_self),
      ih fun d hd => h d (List.mem_cons_of_mem _ hd)]
    simp

theorem toList_joinLines {lines : List String} (h : lines ≠ []) :
    (joinLines lines).toList = lines.flatMap fun line => line.toList ++ ['\n'] := by
  rw [joinLines, String.toList_append, String.toList_intercalate]
  induction lines with
  | nil => exact (h rfl).elim
  | cons line lines ih =>
    cases lines with
    | nil => simp
    | cons next lines =>
      have hrest := ih (by simp)
      rw [List.map_cons, List.map_cons, List.intercalate_cons_cons, ← List.map_cons,
        List.flatMap_cons, ← hrest]
      simp

/-- A file written line by line is read line by line. -/
theorem splitLines_joinLines {lines : List String} (hne : lines ≠ [])
    (h : ∀ line ∈ lines, IsLine line) : splitLines (joinLines lines) = lines := by
  have hsplit : splitLinesGo [] (lines.flatMap fun line => line.toList ++ ['\n']) =
      lines.map String.toList := by
    clear hne
    induction lines with
    | nil => rfl
    | cons line lines ih =>
      rw [List.flatMap_cons, List.append_assoc, List.singleton_append,
        splitLinesGo_line (h line List.mem_cons_self),
        ih fun l hl => h l (List.mem_cons_of_mem _ hl)]
      rfl
  rw [splitLines, toList_joinLines hne, hsplit, List.map_map]
  refine (List.map_congr_left fun line _ => ?_).trans (List.map_id _)
  exact String.ofList_toList

theorem splitLinesGo_isLine (line cs : List Char) (h : ∀ c ∈ line, isLineBreak c = false) :
    ∀ l ∈ splitLinesGo line cs, ∀ c ∈ l, isLineBreak c = false := by
  have hfirst : ∀ c ∈ line.reverse, isLineBreak c = false := fun c hc =>
    h c (List.mem_reverse.mp hc)
  induction line, cs using splitLinesGo.induct with
  | case1 => simp [splitLinesGo]
  | case2 line hne =>
    rw [splitLinesGo, if_neg hne]
    exact List.forall_mem_singleton.mpr hfirst
  | case3 line cs ih =>
    rw [splitLinesGo]
    exact List.forall_mem_cons.mpr ⟨hfirst, ih nofun nofun⟩
  | case4 line c cs hcr hbreak ih =>
    rw [splitLinesGo, if_pos hbreak]
    · exact List.forall_mem_cons.mpr ⟨hfirst, ih nofun nofun⟩
    · exact hcr
  | case5 line c cs hcr hbreak ih =>
    rw [splitLinesGo, if_neg hbreak]
    · have hmore : ∀ d ∈ c :: line, isLineBreak d = false :=
        List.forall_mem_cons.mpr ⟨Bool.eq_false_iff.mpr hbreak, h⟩
      exact ih hmore fun d hd => hmore d (List.mem_reverse.mp hd)
    · exact hcr

/-- The lines of a text hold no breaks. -/
theorem isLine_of_mem_splitLines {text line : String} (h : line ∈ splitLines text) :
    IsLine line := by
  obtain ⟨cs, hcs, rfl⟩ := List.mem_map.mp h
  intro c hc
  rw [String.toList_ofList] at hc
  exact splitLinesGo_isLine [] text.toList nofun cs hcs c hc

end Py
