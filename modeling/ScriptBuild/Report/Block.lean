import ScriptBuild.Report.Row
import ScriptBuild.Report.Span
import ScriptBuild.Text.Width

/-!
# Marked source lines

A block shows a line of a file, underlines it, and hangs a message from the middle of the underline.
Columns are as wide as the characters printed above them. A line that the display breaks into
several rows gets a bracket along its first and last row instead, with the message below.

A block is laid out in rows: a heading with the file's name and the row and the column at which the
span starts, an empty row, the rows of the label, those of the remark if there is one, and a closing
rule. Every row between heading and rule has a margin as wide as the greatest row number in the
block. The heading tells the place, and it is the only part that does so in words.

A label within one row underlines the characters of its span. The message hangs from the middle
character, and a span without any character still has a middle, where a stroke stands alone. A label
over several rows shows the first and the last of them and an ellipsis if there are others between.
A remark is broken into its lines; only the first is introduced.

Cells are as wide as the characters above them in the row that they belong to (`Text.columns`),
which is why the label of a row with tabs or wide characters is wider than its span has characters.
-/
namespace ScriptBuild.Report

/-- What a block shows. -/
structure Highlight where
  /-- The file's name as shown. -/
  name : String
  text : List Char
  span : Span
  message : String
  /-- A remark below the marked line. -/
  note : Option String
deriving DecidableEq, Repr, Inhabited

namespace Block

def blanks (count : Nat) : String := String.ofList (List.replicate count ' ')

def bars (count : Nat) : String := String.ofList (List.replicate count '─')

/-- One column of a label: a character and what continues it to the column's width. -/
structure Cell where
  head : Char
  tail : Char

/-- A cell as printed. -/
def Cell.paint (cell : Cell) : Nat → List Char
  | 0 => []
  | width + 1 => cell.head :: List.replicate width cell.tail

/-- A row's text as printed: without blanks at its end, tabs widened. -/
def printed (chars : List Char) : String :=
  String.ofList ((Text.columns 0 (Text.trimEnd chars)).flatMap fun (c, width) =>
    if c = ' ' then List.replicate width c else [c])

/-- The widths of a row's first columns; those behind the printed text have width 1. -/
def widths (chars : List Char) (count : Nat) : List Nat :=
  let known := (Text.columns 0 (Text.trimEnd chars)).map Prod.snd
  (known ++ List.replicate count 1).take count

/-- A row of cells below a row of text. -/
def paint (chars : List Char) (cells : List Cell) : String :=
  String.ofList ((cells.zip (widths chars cells.length)).flatMap fun (cell, width) =>
    cell.paint width)

/-- How far a label reaches beyond what it marks. -/
def overhang : Nat := 2

/-- The cell of an underline whose message hangs from column `middle`. -/
def underlineCell (start stop middle column : Nat) : Cell :=
  let inside := start ≤ column ∧ column < stop
  if column = middle then if inside then ⟨'┬', '─'⟩ else ⟨'│', ' '⟩
  else if inside then ⟨'─', '─'⟩
  else ⟨' ', ' '⟩

/-- The cell of the line that leads from column `middle` to the message. -/
def leaderCell (middle column : Nat) : Cell :=
  if column < middle then ⟨' ', ' '⟩
  else if column = middle then ⟨'╰', '─'⟩
  else ⟨'─', '─'⟩

/-- The margin of a row of text. -/
def numbered (digits number : Nat) : String :=
  let shown := toString number
  blanks (1 + (digits - shown.length)) ++ shown ++ " │ "

/-- The margin of any other row. -/
def unnumbered (digits : Nat) : String := blanks (digits + 2) ++ "│ "

def inlineRows (digits : Nat) (row : Row) (highlight : Highlight) : List String :=
  let start := highlight.span.start - row.offset
  let stop := highlight.span.stop - row.offset
  let middle := (highlight.span.start + highlight.span.stop) / 2 - row.offset
  let columns := List.range (stop + overhang)
  [numbered digits row.number ++ printed row.chars,
    unnumbered digits ++ paint row.chars (columns.map (underlineCell start stop middle)),
    unnumbered digits ++ paint row.chars (columns.map (leaderCell middle)) ++ " " ++
      highlight.message]

def bracketRows (digits : Nat) (first last : Row) (highlight : Highlight) : List String :=
  let reach := (widths last.chars (last.chars.length + overhang)).foldl (· + ·) 0
  [numbered digits first.number ++ "╭─▶ " ++ printed first.chars] ++
    (if first.number + 1 < last.number then [blanks (digits + 2) ++ "┆ ┆   "] else []) ++
    [numbered digits last.number ++ "├─▶ " ++ printed last.chars,
      unnumbered digits ++ "│   " ++ blanks reach,
      unnumbered digits ++ "╰───" ++ bars reach ++ " " ++ highlight.message]

/-- The rows of a remark: a blank one, and one for each of its lines. -/
def noteRows (margin : String) : Option String → List String
  | none => []
  | some note =>
    match Text.lines note with
    | [] => [margin]
    | first :: rest => margin :: (margin ++ "Note: " ++ first) :: rest.map (margin ++ blanks 6 ++ ·)

/-- The margin of a remark below a bracket. The bracket is drawn on beside it if what it marks starts
right behind the first row of the text. -/
def bracketNoteMargin (digits : Nat) (rows : List Row) (span : Span) : String :=
  let touches := rows.head?.any fun row => row.offset + row.chars.length == span.start
  unnumbered digits ++ (if touches then "│   " else blanks 4)

def lines (highlight : Highlight) : List String :=
  let rows := Row.ofText highlight.text
  let first := (Row.at? rows highlight.span.start).getD default
  let last := (Row.at? rows (max highlight.span.start (highlight.span.stop - 1))).getD default
  let digits := (toString last.number).length
  let column := highlight.span.start - first.offset + 1
  let inline := first.number == last.number
  ["[D0001] Error: Directive error",
    blanks (digits + 2) ++ "╭─[ " ++ highlight.name ++ ":" ++ toString first.number ++ ":" ++
      toString column ++ " ]",
    blanks (digits + 2) ++ "│"] ++
    (if inline then inlineRows digits first highlight
      else bracketRows digits first last highlight) ++
    noteRows (if inline then unnumbered digits else bracketNoteMargin digits rows highlight.span)
      highlight.note ++
    [bars (digits + 2) ++ "╯"]

/-- A block as text, each line ended. -/
def render (highlight : Highlight) : String :=
  String.join ((lines highlight).map (· ++ "\n"))

end Block

end ScriptBuild.Report
