/-!
# Rows of a display

A display breaks a text more often than headers do: at a newline, a carriage return or both
together, at a line or form feed, and at the line and paragraph separators of Unicode. A text that
ends in a terminator has no empty row after it, and an empty text is one empty row.

So the number of a row is not the number of the line that a header would give it, if the text has a
terminator that ends rows and no lines. A carriage return in front of a newline does not end a row
of its own. Rows keep their terminators, so that offsets into the text can be told apart by row: a
row starts where the one before it has ended, terminator included.

A row is looked up by the offset of a character in it. The terminator belongs to the row it ends,
and the offset behind the last character of the text to the last row. The cutting is a recursion
over the text with what has been read of the first row in hand, given backwards.

**Results.**
* `flatten_cut`: no character is lost in cutting.
* `cut_ne_nil`: there is always a row.
-/
namespace ScriptBuild.Report

/-- Whether a character ends a row. -/
def isRowEnd (c : Char) : Bool :=
  c == '\n' || c == '\r' || c == '\x0B' || c == '\x0C' || c == '\u0085' || c == '\u2028' ||
    c == '\u2029'

/-- A row with its terminator, its number from 1 on, and the offset of its first character. -/
structure Row where
  number : Nat
  offset : Nat
  chars : List Char
deriving DecidableEq, Repr, Inhabited

namespace Row

/-- Cuts a text behind each terminator. The start of the first row is given backwards. -/
def cutFrom (back : List Char) : List Char → List (List Char)
  | [] => if back.isEmpty then [] else [back.reverse]
  | '\r' :: '\n' :: rest => (back.reverse ++ ['\r', '\n']) :: cutFrom [] rest
  | c :: rest =>
    if isRowEnd c then (back.reverse ++ [c]) :: cutFrom [] rest else cutFrom (c :: back) rest

def cut (text : List Char) : List (List Char) :=
  if text.isEmpty then [[]] else cutFrom [] text

/-- Numbers rows, the first of which has the given number and offset. -/
def numberFrom (first offset : Nat) : List (List Char) → List Row
  | [] => []
  | chars :: rest => ⟨first, offset, chars⟩ :: numberFrom (first + 1) (offset + chars.length) rest

def ofText (text : List Char) : List Row := numberFrom 1 0 (cut text)

/-- The row that an offset lies in: the last that does not start behind it. -/
def at? (rows : List Row) (offset : Nat) : Option Row :=
  (rows.filter (·.offset ≤ offset)).getLast?

theorem flatten_cutFrom (back text : List Char) :
    (cutFrom back text).flatten = back.reverse ++ text := by
  fun_induction cutFrom back text with
  | case1 back h => simp_all
  | case2 back h => simp
  | case3 back rest ih => simp [ih]
  | case4 back c rest _ h ih => simp [ih]
  | case5 back c rest _ h ih => simp [ih]

theorem flatten_cut (text : List Char) : (cut text).flatten = text := by
  unfold cut
  split
  · simp_all
  · simp [flatten_cutFrom]

theorem cut_ne_nil (text : List Char) : cut text ≠ [] := by
  intro h
  have := flatten_cut text
  rw [h] at this
  cases this
  simp [cut] at h

end Row

end ScriptBuild.Report
