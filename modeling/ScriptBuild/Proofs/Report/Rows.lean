import Mathlib
import ScriptBuild.Report.Row
import ScriptBuild.Report.Span

/-!
# Rows and lines

Every line ends a row, but a row may also end within a line. A display that is told where a line
starts counts rows up to there, so it comes to the number of the line plus the number of characters
in front of it that end a row, but no line.

A carriage return with a newline behind it ends one row, and so a text cannot be cut character by
character: what stands behind a piece may belong to its end. At a newline that cannot happen, and so
lines can be cut into rows one by one. The induction is over the characters of a line, with what has
been read of the current row in hand.

`strays` counts the characters that end a row and are no part of a line's ending. A row is found by
an offset, not by a number, and no row of a text that has a line is empty, so the offset of a line's
start belongs to the row that starts there and to no other.

**Results.**
* `cutFrom_append_newline`: a text is cut at a newline whatever else it is cut at.
* `length_cutFrom_newline`: how many rows a line is.
* `at?_ofLine`: the row that a line starts in, its number and where it starts.
* `strays_eq_zero_iff`: when rows and lines have the same numbers up to a line.
-/
namespace ScriptBuild

namespace Text

def Ended (piece : List Char) : Prop := ∃ front, piece = front ++ ['\n'] ∧ '\n' ∉ front

theorem ended_of_mem_dropLast_pieces {cs piece : List Char} (h : piece ∈ (pieces cs).dropLast) :
    Ended piece := by
  induction cs generalizing piece with
  | nil => simp at h
  | cons c cs ih =>
    rw [pieces_cons] at h
    unfold consPiece at h
    cases hpieces : pieces cs with
    | nil => simp [hpieces] at h
    | cons first rest =>
      rw [hpieces] at h ih
      by_cases hc : c = '\n'
      · simp only [if_pos hc, List.dropLast_cons_cons, List.mem_cons] at h
        rcases h with rfl | h
        · exact ⟨[], by simp [hc]⟩
        · exact ih h
      · simp only [if_neg hc] at h
        cases rest with
        | nil => simp at h
        | cons next rest =>
          simp only [List.dropLast_cons_cons, List.mem_cons] at h ih
          rcases h with rfl | h
          · obtain ⟨front, rfl, hfront⟩ := ih (.inl rfl)
            exact ⟨c :: front, by simp, by simp [hfront, Ne.symm hc]⟩
          · exact ih (.inr h)

theorem dropTerminator_cons {c : Char} {front : List Char} (h : ¬(c = '\r' ∧ front = [])) :
    dropTerminator (c :: front ++ ['\n']) = c :: dropTerminator (front ++ ['\n']) := by
  cases front using List.reverseRecOn with
  | nil =>
    have hc : c ≠ '\r' := fun hc => h ⟨hc, rfl⟩
    simp [dropTerminator, hc]
  | append_singleton front last =>
    by_cases hlast : last = '\r' <;> simp [dropTerminator, hlast]

end Text

namespace Report.Row

/-- A row goes on, or ends with the character, unless that is the first half of a terminator. -/
theorem cutFrom_cons {c : Char} {back rest : List Char}
    (h : ¬(c = '\r' ∧ rest.head? = some '\n')) :
    cutFrom back (c :: rest) =
      if isRowEnd c then (back.reverse ++ [c]) :: cutFrom [] rest
      else cutFrom (c :: back) rest := by
  rw [cutFrom]
  rintro later rfl rfl
  exact h ⟨rfl, rfl⟩

/-- What follows the text does not pair up with a character in it, unless that is the last one. -/
theorem not_pair_append {c : Char} {front tail : List Char}
    (hpair : ¬(c = '\r' ∧ front.head? = some '\n')) (hlast : ¬(c = '\r' ∧ front = [])) :
    ¬(c = '\r' ∧ (front ++ tail).head? = some '\n') := by
  rintro ⟨rfl, hhead⟩
  cases front with
  | nil => exact hlast ⟨rfl, rfl⟩
  | cons d front => exact hpair ⟨rfl, hhead⟩

theorem cutFrom_append_newline (back front rest : List Char) :
    cutFrom back (front ++ '\n' :: rest) =
      cutFrom back (front ++ ['\n']) ++ cutFrom [] rest := by
  fun_induction cutFrom back front with
  | case1 back h | case2 back h => simp [cutFrom, isRowEnd]
  | case3 back later ih => simp [cutFrom, ih]
  | case4 back c later hpair hend ih =>
    by_cases hlast : c = '\r' ∧ later = []
    · obtain ⟨rfl, rfl⟩ := hlast
      simp [cutFrom]
    · have hopen : ¬(c = '\r' ∧ later.head? = some '\n') := fun ⟨hc, hhead⟩ =>
        hpair later.tail hc (List.eq_cons_of_mem_head? hhead)
      rw [List.cons_append, List.cons_append, cutFrom_cons (not_pair_append hopen hlast),
        cutFrom_cons (not_pair_append hopen hlast), if_pos hend, if_pos hend, ih, List.cons_append]
  | case5 back c later hpair hend ih =>
    have hc : c ≠ '\r' := by
      rintro rfl
      exact hend rfl
    rw [List.cons_append, List.cons_append, cutFrom_cons (fun h => hc h.1),
      cutFrom_cons (fun h => hc h.1), if_neg hend, if_neg hend, ih]

/-- A line with its newline is one row, and one more for each character in it that ends a row. -/
theorem length_cutFrom_newline {back front : List Char} (h : '\n' ∉ front) :
    (cutFrom back (front ++ ['\n'])).length =
      1 + (Text.dropTerminator (front ++ ['\n'])).countP isRowEnd := by
  induction front generalizing back with
  | nil => simp [cutFrom, isRowEnd, Text.dropTerminator]
  | cons c front ih =>
    obtain ⟨hc, hfront⟩ : '\n' ≠ c ∧ '\n' ∉ front := by simpa using h
    by_cases hlast : c = '\r' ∧ front = []
    · obtain ⟨rfl, rfl⟩ := hlast
      simp [cutFrom, Text.dropTerminator]
    · have hopen : ¬(c = '\r' ∧ front.head? = some '\n') := fun ⟨_, hhead⟩ =>
        hfront (List.mem_of_mem_head? hhead)
      rw [Text.dropTerminator_cons hlast, List.cons_append,
        cutFrom_cons (not_pair_append hopen hlast), List.countP_cons]
      split
      · rw [List.length_cons, ih hfront, Nat.add_assoc]
      · rw [ih hfront, Nat.add_zero]

theorem cutFrom_flatten_append {ended : List (List Char)} (h : ∀ piece ∈ ended, Text.Ended piece)
    (later : List Char) :
    cutFrom [] (ended.flatten ++ later) = ended.flatMap (cutFrom []) ++ cutFrom [] later := by
  induction ended with
  | nil => rfl
  | cons piece ended ih =>
    obtain ⟨⟨front, rfl, -⟩, hended⟩ := List.forall_mem_cons.mp h
    rw [List.flatten_cons, List.append_assoc, List.append_assoc, List.singleton_append,
      cutFrom_append_newline, ih hended, List.flatMap_cons, List.append_assoc]

theorem length_flatMap_cutFrom {ended : List (List Char)} (h : ∀ piece ∈ ended, Text.Ended piece) :
    (ended.flatMap (cutFrom [])).length =
      ended.length + (ended.map Text.dropTerminator).flatten.countP isRowEnd := by
  induction ended with
  | nil => rfl
  | cons piece ended ih =>
    obtain ⟨⟨front, rfl, hfront⟩, hended⟩ := List.forall_mem_cons.mp h
    rw [List.flatMap_cons, List.length_append, length_cutFrom_newline hfront, ih hended,
      List.map_cons, List.flatten_cons, List.countP_append, List.length_cons]
    omega

theorem flatten_flatMap_cutFrom (ended : List (List Char)) :
    (ended.flatMap (cutFrom [])).flatten = ended.flatten := by
  induction ended with
  | nil => rfl
  | cons piece ended ih =>
    rw [List.flatMap_cons, List.flatten_append, flatten_cutFrom, ih, List.flatten_cons]
    rfl

theorem nil_notMem_cutFrom (back text : List Char) : [] ∉ cutFrom back text := by
  fun_induction cutFrom back text with
  | case1 back h => simp
  | case2 back h => simpa using h
  | case3 back later ih => simp [ih]
  | case4 back c later _ h ih => simp [ih]
  | case5 back c later _ h ih => exact ih

/-! ## Numbered rows -/

theorem numberFrom_append (first offset : Nat) (front back : List (List Char)) :
    numberFrom first offset (front ++ back) =
      numberFrom first offset front ++
        numberFrom (first + front.length) (offset + front.flatten.length) back := by
  induction front generalizing first offset with
  | nil => simp [numberFrom]
  | cons chars front ih =>
    simp only [List.cons_append, numberFrom, ih, List.length_cons, List.flatten_cons,
      List.length_append]
    congr 3 <;> omega

theorem le_offset_of_mem_numberFrom {first offset : Nat} {rows : List (List Char)} {row : Row}
    (h : row ∈ numberFrom first offset rows) : offset ≤ row.offset := by
  induction rows generalizing first offset with
  | nil => cases h
  | cons chars rows ih =>
    rcases List.mem_cons.mp h with rfl | h
    · exact Nat.le_refl _
    · have := ih h
      omega

/-- The row that starts at an offset is the one that the offset lies in. -/
theorem at?_numberFrom {first offset : Nat} {front back : List (List Char)} {chars : List Char}
    (h : chars ≠ []) :
    at? (numberFrom first offset (front ++ chars :: back)) (offset + front.flatten.length) =
      some ⟨first + front.length, offset + front.flatten.length, chars⟩ := by
  have hlater : (numberFrom (first + front.length + 1)
      (offset + front.flatten.length + chars.length) back).filter
      (·.offset ≤ offset + front.flatten.length) = [] := by
    rw [List.filter_eq_nil_iff]
    intro row hrow
    have hlength : 0 < chars.length := List.length_pos_iff.mpr h
    have := le_offset_of_mem_numberFrom hrow
    simp only [decide_eq_true_eq]
    omega
  rw [at?, numberFrom_append, numberFrom, List.filter_append, List.filter_cons_of_pos (by simp),
    hlater, List.getLast?_concat]

end Report.Row

/-! ## The row of a line -/

namespace Report

theorem Span.start_among {offset number : Nat} (pieces : List (List Char)) (h : 1 ≤ number) :
    (among offset number pieces).start = offset + (pieces.take (number - 1)).flatten.length := by
  fun_induction among offset number pieces with
  | case1 => simp
  | case2 => simp
  | case3 offset number piece rest hother ih =>
    obtain ⟨later, rfl⟩ : ∃ later, number = later + 2 := ⟨number - 2, by omega⟩
    rw [ih (by omega)]
    simp [Nat.add_assoc]

/-- How many characters of the lines in front of a line end a row. -/
def strays (text : List Char) (line : Nat) : Nat :=
  ((Text.lineList text).take (line - 1)).flatten.countP isRowEnd

/-- Rows and lines have the same numbers up to a line if nothing else ends a row before it. -/
theorem strays_eq_zero_iff {text : List Char} {line : Nat} :
    strays text line = 0 ↔
      ∀ earlier ∈ (Text.lineList text).take (line - 1), ∀ c ∈ earlier, isRowEnd c = false := by
  simp only [strays, List.countP_eq_zero, List.mem_flatten, Bool.not_eq_true]
  grind

/-- A line starts a row: the one with its number, and one more for each character in front of it
that ends a row but no line. -/
theorem Row.at?_ofLine {text : List Char} {line : Nat} (low : 1 ≤ line)
    (high : line ≤ (Text.lineList text).length) :
    ∃ chars, Row.at? (Row.ofText text) (Span.ofLine text line).start =
      some ⟨line + strays text line, (Span.ofLine text line).start, chars⟩ := by
  have hlength : line - 1 < (Text.pieces text).length := by
    rw [Text.lineList, List.length_map] at high
    omega
  set ended := (Text.pieces text).take (line - 1) with hended
  set later := ((Text.pieces text).drop (line - 1)).flatten with hlater
  have htext : text = ended.flatten ++ later := by
    rw [← List.flatten_append, List.take_append_drop, Text.flatten_pieces]
  have hends : ∀ piece ∈ ended, Text.Ended piece := fun piece hpiece =>
    Text.ended_of_mem_dropLast_pieces <| by
      rw [List.dropLast_eq_take]
      exact List.take_subset_take_left _ (by omega) hpiece
  -- The line itself is not empty, so it starts a row.
  have hopen : later ≠ [] := by
    rw [hlater, List.drop_eq_getElem_cons hlength, List.flatten_cons]
    have := (Text.newline_notMem_dropLast_of_mem_pieces (List.getElem_mem hlength)).1
    simp [this]
  obtain ⟨chars, more, hrows⟩ : ∃ chars more, Row.cutFrom [] later = chars :: more := by
    refine List.exists_cons_of_ne_nil fun hnil => hopen ?_
    simpa [hnil] using (Row.flatten_cutFrom [] later).symm
  have hcut : Row.cut text = ended.flatMap (Row.cutFrom []) ++ chars :: more := by
    rw [Row.cut, if_neg (by simp [htext, hopen]), htext, Row.cutFrom_flatten_append hends, hrows]
  have hstart : (Span.ofLine text line).start =
      0 + (ended.flatMap (Row.cutFrom [])).flatten.length := by
    rw [Span.ofLine, Span.start_among _ low, Row.flatten_flatMap_cutFrom]
  have hstrays : line + strays text line = 1 + (ended.flatMap (Row.cutFrom [])).length := by
    rw [Row.length_flatMap_cutFrom hends, hended, List.map_take, ← Text.lineList,
      List.length_take, Nat.min_eq_left hlength.le, strays]
    omega
  refine ⟨chars, ?_⟩
  rw [Row.ofText, hcut, hstart, hstrays]
  exact Row.at?_numberFrom fun hnil => Row.nil_notMem_cutFrom [] later (by simp [hrows, hnil])

end Report

end ScriptBuild
