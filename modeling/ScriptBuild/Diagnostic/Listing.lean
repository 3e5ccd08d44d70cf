import ScriptBuild.Diagnostic
import ScriptBuild.Text.Digit
import ScriptBuild.Text.Lines
import ScriptBuild.Text.Word

/-!
# Compiler listings

A compiler reports on the console, one message a line: `file(line,column): error code: message`, or
`error code: message` for a message about no place in particular. The file is the shortest beginning
of the line, of at least one character, behind which the rest has that form. Other lines say
nothing.

Reading is by search, not by guessing where a file's name ends: the beginnings of the line are tried
from the shortest on, and the first behind which a line and a column in parentheses, a colon, a
severity, a code and another colon stand is the file. So a name that holds such a thing itself is
cut short, and a line that holds it nowhere is tried as a message about no place. A listing is cut
into lines first and every line is trimmed.

Line and column are numbers of 32 bits. Digits may be those of any script, as the pattern has it,
but a number that is too large or has a digit beyond ASCII counts as 0. What stands behind the code
is the message up to the end of the line, without the blanks in front of it.

**Results.**
* `run?_append`, `severity?_append`: what is put in front of a rest is read off it.
-/
namespace ScriptBuild.Listing

/-- What a message says, apart from its place. -/
structure Heading where
  severity : Severity
  code : String
  message : String
deriving DecidableEq, Repr, Inhabited

/-- The longest run of a class at the start, if it is not empty, and the rest. -/
def run? (class_ : Char → Bool) (cs : List Char) : Option (List Char × List Char) :=
  match cs.takeWhile class_ with
  | [] => none
  | run => some (run, cs.dropWhile class_)

/-- The rest behind a given character. -/
def after? (c : Char) : List Char → Option (List Char)
  | [] => none
  | d :: rest => if d = c then some rest else none

def greatestNumber : Nat := 4294967295

def digitValue? (c : Char) : Option Nat := if c.isDigit then some (c.toNat - 48) else none

/-- The value of a run of digits: 0 if it is too large, or has a digit beyond ASCII. -/
def numberValue (digits : List Char) : Nat :=
  match digits.mapM digitValue? with
  | some values =>
    let value := values.foldl (fun value digit => 10 * value + digit) 0
    if value ≤ greatestNumber then value else 0
  | none => 0

def severity? (cs : List Char) : Option (Severity × List Char) :=
  match "error".toList.isPrefixOf? cs with
  | some rest => some (.error, rest)
  | none => ("warning".toList.isPrefixOf? cs).map fun rest => (.warning, rest)

/-- Reads severity, code and message, to the end of the line. -/
def heading? (cs : List Char) : Option Heading := do
  let (severity, cs) ← severity? cs
  let (_, cs) ← run? Text.isBlank cs
  let (code, cs) ← run? Text.isWordChar cs
  let cs ← after? ':' cs
  return ⟨severity, String.ofList code, String.ofList (cs.dropWhile Text.isBlank)⟩

/-- Reads a line and a column number in parentheses and the colon behind them. -/
def position? (cs : List Char) : Option (Nat × Nat × List Char) := do
  let cs ← after? '(' cs
  let (line, cs) ← run? Text.isDigit cs
  let cs ← after? ',' cs
  let (column, cs) ← run? Text.isDigit cs
  let cs ← after? ')' cs
  let cs ← after? ':' cs
  return (numberValue line, numberValue column, cs)

/-- Reads all of a message that stands behind the file's name. -/
def placed? (cs : List Char) : Option (Nat × Nat × Heading) := do
  let (line, column, cs) ← position? cs
  let heading ← heading? (cs.dropWhile Text.isBlank)
  return (line, column, heading)

/-- Looks for a file's name, given backwards as far as it goes already, that the rest of a message
follows. -/
def located? (back : List Char) (cs : List Char) : Option Diagnostic :=
  match if back.isEmpty then none else placed? cs with
  | some (line, column, heading) =>
    some ⟨⟨String.ofList back.reverse⟩, line, column, heading.code, heading.message,
      heading.severity⟩
  | none =>
    match cs with
    | [] => none
    | c :: rest => located? (c :: back) rest

/-- A message about no place in particular. -/
def placeless (heading : Heading) : Diagnostic :=
  ⟨⟨""⟩, 0, 0, heading.code, heading.message, heading.severity⟩

/-- What one trimmed line reports. -/
def readLine? (line : List Char) : Option Diagnostic :=
  match located? [] line with
  | some diagnostic => some diagnostic
  | none => (heading? line).map placeless

/-- What a listing reports, in its order. -/
def read (listing : String) : List Diagnostic :=
  (Text.lineList listing.toList).filterMap fun line => readLine? (Text.trimChars line)

def severityName : Severity → String
  | .error => "error"
  | .warning => "warning"

/-- A heading as a compiler writes it. -/
def Heading.render (heading : Heading) : String :=
  severityName heading.severity ++ " " ++ heading.code ++ ": " ++ heading.message

def render (diagnostic : Diagnostic) : String :=
  let heading : Heading := ⟨diagnostic.severity, diagnostic.code, diagnostic.message⟩
  if diagnostic.file.text.isEmpty then heading.render
  else diagnostic.file.text ++ "(" ++ toString diagnostic.line ++ "," ++
    toString diagnostic.column ++ "): " ++ heading.render

theorem run?_append {class_ : Char → Bool} {run rest : List Char} (nonempty : run ≠ [])
    (inside : ∀ c ∈ run, class_ c = true) (outside : ∀ c ∈ rest.head?, class_ c = false) :
    run? class_ (run ++ rest) = some (run, rest) := by
  have htake : (run ++ rest).takeWhile class_ = run := by
    rw [List.takeWhile_append_of_pos inside]
    cases rest with
    | nil => simp
    | cons c rest => simp [outside c (by simp)]
  have hdrop : (run ++ rest).dropWhile class_ = rest := by
    rw [List.dropWhile_append_of_pos inside]
    cases rest with
    | nil => simp
    | cons c rest => simp [outside c (by simp)]
  unfold run?
  rw [htake, hdrop]
  cases run with
  | nil => exact absurd rfl nonempty
  | cons c run => rfl

theorem severity?_append (severity : Severity) (rest : List Char) :
    severity? ((severityName severity).toList ++ rest) = some (severity, rest) := by
  cases severity <;> rfl

end ScriptBuild.Listing
