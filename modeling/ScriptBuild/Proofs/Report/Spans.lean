import Mathlib
import ScriptBuild.Proofs.Report.Rows
import ScriptBuild.Proofs.Text.Trimming
import ScriptBuild.Script.Header

/-!
# What spans hold

The span of a line is where that line stands in its text: the characters there are the line without
the carriage returns at its end, so trimming them gives what a header has for it. Spans follow each
other without meeting, and a number that is no line's has the empty span at the end.

A span is counted in characters of the whole text, endings included, while a line has none. `pieces`
are the lines with their endings, so where a piece starts is how long the pieces in front of it are.
All of the carriage returns at the end of a piece are left out of its span, where only one is left
out of the line.

The last piece may have no newline, and the text may be empty, which has no line at all. Asking for
a line that is not there is not a fault: the span is empty then, and at the end.

**Results.**
* `content_of_mem_pieces`: a piece without its ending is its line without carriage returns.
* `ofLine_of_piece`, `ofLine_of_outside`: where a line stands, and where none does.
* `stop_lt_start`: the spans of different lines do not meet.
* `spans_agree`: spans and headers have the same lines.
-/
namespace ScriptBuild

/-! ## Carriage returns -/

namespace Text

/-- A line without the carriage returns at its end. -/
def dropReturns (line : List Char) : List Char := line.rdropWhile (· == '\r')

theorem trimChars_dropReturns (line : List Char) :
    trimChars (dropReturns line) = trimChars line := by
  have hblank : ∀ c ∈ line.rtakeWhile (· == '\r'), isBlank c = true := fun c hc => by
    obtain rfl : c = '\r' := by simpa using List.mem_rtakeWhile_imp hc
    exact isBlank_return
  calc
    trimChars (dropReturns line)
      = trimChars (dropReturns line ++ line.rtakeWhile (· == '\r')) :=
        (trimChars_append_blank _ hblank).symm
    _ = trimChars line := by rw [dropReturns, List.rdropWhile_append_rtakeWhile]

theorem dropReturns_concat_return (line : List Char) :
    dropReturns (line ++ ['\r']) = dropReturns line :=
  List.rdropWhile_concat_pos _ _ _ (by decide)

theorem dropReturns_dropTerminator (front : List Char) :
    dropReturns (dropTerminator (front ++ ['\n'])) = dropReturns front := by
  cases front using List.reverseRecOn with
  | nil => rfl
  | append_singleton front last =>
    by_cases hlast : last = '\r'
    · subst hlast
      simp [dropTerminator, dropReturns_concat_return]
    · simp [dropTerminator, hlast]

/-- A trimmed line of a header is a line of the text, trimmed. -/
theorem exists_line_of_scan {text line : String} {row : Nat}
    (h : (Header.scan text)[row]? = some line) :
    ∃ cs, (lineList text.toList)[row]? = some cs ∧ line = String.ofList (trimChars cs) := by
  rw [Header.scan, List.getElem?_map, Option.map_eq_some_iff] at h
  obtain ⟨trimmed, htrimmed, rfl⟩ := h
  have hline : ((lineList text.toList).map trimChars)[row]? = some trimmed := by
    obtain ⟨hrow, rfl⟩ := List.getElem?_eq_some_iff.mp htrimmed
    exact List.prefix_iff_getElem?.mp (List.takeWhile_prefix Header.admits) row hrow
  rw [List.getElem?_map, Option.map_eq_some_iff] at hline
  obtain ⟨cs, hcs, rfl⟩ := hline
  exact ⟨cs, hcs, rfl⟩

end Text

/-! ## Pieces -/

namespace Report.Span

open Text (pieces lineList dropTerminator dropReturns)

variable {text piece : List Char} {offset number row : Nat}

theorem content_concat_newline (front : List Char) : content (front ++ ['\n']) = content front :=
  List.rdropWhile_concat_pos _ _ _ (by decide)

theorem content_of_newline_notMem (h : '\n' ∉ piece) : content piece = dropReturns piece := by
  change piece.rdropWhile isEnding = piece.rdropWhile (· == '\r')
  induction piece using List.reverseRecOn with
  | nil => rfl
  | append_singleton front last ih =>
    obtain ⟨hfront, hlast⟩ : '\n' ∉ front ∧ '\n' ≠ last := by simpa using h
    have hending : isEnding last = (last == '\r') := by simp [isEnding, Ne.symm hlast]
    rw [List.rdropWhile_concat, List.rdropWhile_concat, hending, ih hfront]

/-- A piece without its ending is its line without carriage returns. -/
theorem content_of_mem_pieces (h : piece ∈ pieces text) :
    content piece = dropReturns (dropTerminator piece) := by
  obtain ⟨hne, hfront⟩ := Text.newline_notMem_dropLast_of_mem_pieces h
  obtain ⟨front, last, rfl⟩ := (List.eq_nil_or_concat' piece).resolve_left hne
  rw [List.dropLast_concat] at hfront
  by_cases hlast : last = '\n'
  · subst hlast
    rw [content_concat_newline, content_of_newline_notMem hfront, Text.dropReturns_dropTerminator]
  · have hnewline : '\n' ∉ front ++ [last] := by simp [hfront, Ne.symm hlast]
    rw [Text.dropTerminator_of_newline_notMem hnewline, content_of_newline_notMem hnewline]

theorem length_content_lt (h : Text.Ended piece) : (content piece).length < piece.length := by
  obtain ⟨front, rfl, -⟩ := h
  have := length_content_le front
  rw [content_concat_newline, List.length_append, List.length_singleton]
  omega

/-! ## Spans -/

def chars (span : Span) (text : List Char) : List Char := (text.take span.stop).drop span.start

/-- How many characters stand in front of a line. -/
def before (text : List Char) (row : Nat) : Nat := ((pieces text).take row).flatten.length

theorem among_of_piece {pieces : List (List Char)} (h : pieces[row]? = some piece) :
    among offset (row + 1) pieces =
      ⟨offset + (pieces.take row).flatten.length,
        offset + (pieces.take row).flatten.length + (content piece).length⟩ := by
  induction pieces generalizing offset row with
  | nil => simp at h
  | cons first rest ih =>
    cases row with
    | zero =>
      obtain rfl : first = piece := by simpa using h
      simp [among]
    | succ row =>
      rw [among, if_neg (by omega), Nat.add_sub_cancel, ih (by simpa using h)]
      simp [Nat.add_assoc]

theorem among_of_outside {pieces : List (List Char)} (h : number = 0 ∨ pieces.length < number) :
    among offset number pieces =
      ⟨offset + pieces.flatten.length, offset + pieces.flatten.length⟩ := by
  fun_induction among offset number pieces with
  | case1 => simp
  | case2 offset piece rest => simp at h
  | case3 offset number piece rest hother ih =>
    rw [ih (by simp at h; omega)]
    simp [Nat.add_assoc]

theorem ofLine_of_piece (h : (pieces text)[row]? = some piece) :
    ofLine text (row + 1) = ⟨before text row, before text row + (content piece).length⟩ := by
  rw [ofLine, among_of_piece h, Nat.zero_add, before]

theorem ofLine_of_outside (h : number = 0 ∨ (lineList text).length < number) :
    ofLine text number = ⟨text.length, text.length⟩ := by
  rw [lineList, List.length_map] at h
  rw [ofLine, among_of_outside h, Text.flatten_pieces, Nat.zero_add]

theorem exists_split (h : (pieces text)[row]? = some piece) :
    ∃ front back, text = front ++ (content piece ++ back) ∧ front.length = before text row := by
  obtain ⟨hrow, hget⟩ := List.getElem?_eq_some_iff.mp h
  obtain ⟨ending, hending⟩ : content piece <+: piece := List.rdropWhile_prefix _ _
  refine ⟨((pieces text).take row).flatten, ending ++ ((pieces text).drop (row + 1)).flatten,
    ?_, rfl⟩
  rw [← List.append_assoc (content piece), hending, ← hget, ← List.flatten_cons,
    List.getElem_cons_drop, ← List.flatten_append, List.take_append_drop, Text.flatten_pieces]

/-- What stands in the span of a line is the line without carriage returns. -/
theorem chars_ofLine {line : List Char} (h : (lineList text)[row]? = some line) :
    (ofLine text (row + 1)).chars text = dropReturns line := by
  rw [lineList, List.getElem?_map, Option.map_eq_some_iff] at h
  obtain ⟨piece, hpiece, rfl⟩ := h
  obtain ⟨front, back, htext, hfront⟩ := exists_split hpiece
  rw [← content_of_mem_pieces (List.mem_of_getElem? hpiece), ofLine_of_piece hpiece, ← hfront,
    chars]
  conv_lhs => rw [htext]
  rw [List.take_length_add_append, List.drop_left, List.take_left]

/-- The spans of different lines do not meet. -/
theorem stop_lt_start {row later : Nat} (hrow : row < later)
    (hlater : later < (lineList text).length) :
    (ofLine text (row + 1)).stop < (ofLine text (later + 1)).start := by
  rw [lineList, List.length_map] at hlater
  have hget : (pieces text)[row]? = some (pieces text)[row] :=
    List.getElem?_eq_getElem (hrow.trans hlater)
  have hmem : (pieces text)[row] ∈ (pieces text).dropLast := by
    rw [List.dropLast_eq_take]
    exact List.mem_take_iff_getElem.mpr ⟨row, by omega, rfl⟩
  have hended : Text.Ended (pieces text)[row] := Text.ended_of_mem_dropLast_pieces hmem
  have hbefore : before text (row + 1) ≤ before text later :=
    ((List.take_sublist_take_left hrow).flatten).length_le
  rw [ofLine_of_piece hget, ofLine_of_piece (List.getElem?_eq_getElem hlater)]
  have hnext : before text (row + 1) = before text row + (pieces text)[row].length := by
    rw [before, before, ← List.take_append_getElem (hrow.trans hlater), List.flatten_append,
      List.length_append, List.flatten_singleton]
  have := length_content_lt hended
  simp only
  omega

/-- What stands in the span of a line is that line without its last carriage returns, and trimmed
it is what a header has for the line. Spans lie one behind the other in the text without meeting. A
number that no line has, 0 among them, gets the empty span at the end. -/
theorem spans_agree (text : String) :
    (∀ row line, (Text.lines text)[row]? = some line →
      (ofLine text.toList (row + 1)).chars text.toList = dropReturns line.toList) ∧
    (∀ row line, (Header.scan text)[row]? = some line →
      Text.trimChars ((ofLine text.toList (row + 1)).chars text.toList) = line.toList) ∧
    (∀ row later, row < later → later < (Text.lines text).length →
      (ofLine text.toList (row + 1)).stop < (ofLine text.toList (later + 1)).start) ∧
    (∀ number, (ofLine text.toList number).start ≤ (ofLine text.toList number).stop ∧
      (ofLine text.toList number).stop ≤ text.length) ∧
    ∀ number, number = 0 ∨ (Text.lines text).length < number →
      ofLine text.toList number = ⟨text.length, text.length⟩ := by
  have hlength : (Text.lines text).length = (lineList text.toList).length := List.length_map _
  refine ⟨fun row line h => ?_, fun row line h => ?_, fun row later hrow hlater => ?_,
    fun number => ⟨start_le_stop _ _, ?_⟩, fun number h => ?_⟩
  · rw [Text.lines, List.getElem?_map, Option.map_eq_some_iff] at h
    obtain ⟨cs, hcs, rfl⟩ := h
    rw [chars_ofLine hcs, String.toList_ofList]
  · obtain ⟨cs, hcs, rfl⟩ := Text.exists_line_of_scan h
    rw [chars_ofLine hcs, Text.trimChars_dropReturns, String.toList_ofList]
  · exact stop_lt_start hrow (hlength ▸ hlater)
  · rw [← String.length_toList]
    exact stop_le_length _ _
  · rw [← String.length_toList]
    exact ofLine_of_outside (hlength ▸ h)

/-- Lines that end in several ways, or not at all. -/
def mixedEndings : String := "//é\r\r\n\nusing A;\r\n x\r"

theorem spans_agree_mixedEndings :
    (Text.lines mixedEndings)[0]? = some "//é\r" ∧
    (ofLine mixedEndings.toList 1).chars mixedEndings.toList = ['/', '/', 'é'] ∧
    (Header.scan mixedEndings)[2]? = some "using A;" ∧
    Text.trimChars ((ofLine mixedEndings.toList 3).chars mixedEndings.toList) =
      "using A;".toList ∧
    0 < 3 ∧ 3 < (Text.lines mixedEndings).length ∧
    (ofLine mixedEndings.toList 1).stop < (ofLine mixedEndings.toList 4).start ∧
    (5 = 0 ∨ (Text.lines mixedEndings).length < 5) ∧
    ofLine mixedEndings.toList 5 = ⟨20, 20⟩ := by
  obtain ⟨hchars, htrim, hapart, -, houtside⟩ := spans_agree mixedEndings
  have hfirst : (Text.lines mixedEndings)[0]? = some "//é\r" := by cbv
  have hthird : (Header.scan mixedEndings)[2]? = some "using A;" := by cbv
  have hlast : 3 < (Text.lines mixedEndings).length := by decide
  have hpast : 5 = 0 ∨ (Text.lines mixedEndings).length < 5 := by decide
  have hreturns : dropReturns "//é\r".toList = ['/', '/', 'é'] := by cbv
  exact ⟨hfirst, (hchars 0 _ hfirst).trans hreturns, hthird, htrim 2 _ hthird, by decide, hlast,
    hapart 0 3 (by decide) hlast, hpast, houtside 5 hpast⟩

end Report.Span

end ScriptBuild
