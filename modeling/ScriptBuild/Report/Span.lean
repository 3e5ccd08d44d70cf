import ScriptBuild.Text.Lines

/-!
# Spans of lines

Where in a text a numbered line stands, by character offsets. Lines end at newlines, as they do for
headers; carriage returns at the end of a line are outside its span.

A line is found by cutting the text behind its newlines and counting pieces from 1; the offset goes
up by the length of each piece that is passed. All carriage returns at the end of a piece are left
out of the span, not just the one in front of the newline, so that a line which a header gives
trimmed has its last visible character in the span.

A number that no line has, because it is 0 or too great, gets the empty span behind the last
character. So every number has a span, and every span lies in the text; nothing that shows a span
has to ask whether there is one.

**Results.**
* `start_le_stop`, `stop_le_length`: a span is a range of the text's characters.
-/
namespace ScriptBuild.Report

/-- The characters from one offset up to another. -/
structure Span where
  start : Nat
  stop : Nat
deriving DecidableEq, Repr, Inhabited

namespace Span

/-- Whether a character ends lines, or stands before one that does. -/
def isEnding (c : Char) : Bool := c == '\r' || c == '\n'

/-- A piece without the carriage returns and newlines at its end. -/
def content (piece : List Char) : List Char := (piece.reverse.dropWhile isEnding).reverse

/-- The span of a numbered piece, when the first one has number 1 and starts at `offset`; the empty
span at the end if there is none of that number. -/
def among (offset : Nat) : Nat → List (List Char) → Span
  | _, [] => ⟨offset, offset⟩
  | number, piece :: rest =>
    if number = 1 then ⟨offset, offset + (content piece).length⟩
    else among (offset + piece.length) (number - 1) rest

/-- The span of a line, counted from 1. -/
def ofLine (text : List Char) (number : Nat) : Span := among 0 number (Text.pieces text)

theorem length_content_le (piece : List Char) : (content piece).length ≤ piece.length := by
  have := (List.dropWhile_sublist isEnding (l := piece.reverse)).length_le
  simpa [content] using this

theorem among_start_le_stop (offset number : Nat) (pieces : List (List Char)) :
    (among offset number pieces).start ≤ (among offset number pieces).stop := by
  fun_induction among offset number pieces with
  | case1 => exact Nat.le_refl _
  | case2 => exact Nat.le_add_right _ _
  | case3 _ _ _ _ _ ih => exact ih

theorem among_stop_le (offset number : Nat) (pieces : List (List Char)) :
    (among offset number pieces).stop ≤ offset + pieces.flatten.length := by
  fun_induction among offset number pieces with
  | case1 => simp
  | case2 offset piece rest =>
    have := length_content_le piece
    simp only [List.flatten_cons, List.length_append]
    omega
  | case3 offset number piece rest h ih =>
    simp only [List.flatten_cons, List.length_append]
    omega

theorem start_le_stop (text : List Char) (number : Nat) :
    (ofLine text number).start ≤ (ofLine text number).stop :=
  among_start_le_stop _ _ _

theorem stop_le_length (text : List Char) (number : Nat) :
    (ofLine text number).stop ≤ text.length := by
  have := among_stop_le 0 number (Text.pieces text)
  rwa [Text.flatten_pieces, Nat.zero_add] at this

end Span

end ScriptBuild.Report
