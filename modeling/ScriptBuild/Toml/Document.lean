import ScriptBuild.Toml.Quoted
import ScriptBuild.Toml.Scalar
import ScriptBuild.Toml.Table

/-!
# TOML documents

A document is a list of lines, each blank, a key with its value, or a header that opens a table.
Values nest up to a fixed depth. Reading gives the document's table, or nothing at all.

The readers work on lists of characters, from left to right, and give what they have read with the
characters behind it. None goes back: the first character behind blanks tells which kind of line,
key or value follows. Nothing is recovered from; one faulty line and there is no document.

Two bounds keep a text from nesting without end: dotted keys are shorter than `depthLimit`, and
values have fewer containers in each other than that. The fuel of a reader is another matter. It is
a number of steps, taken from the length of what is left to read, and every step consumes a
character or enters a value, so a text that is read to its end never runs out of it.

Between the lines of a document there is its `Progress`: the table so far, and the path of the
header that keys are under now. A header changes the path even when the table at its end has been
made before; whether it may be opened again is for the table to say (`Table`). One byte order mark
in front of the text is dropped.
-/
namespace ScriptBuild.Toml

/-- A list of keys joined by dots must be shorter than this, and values nest less deeply. -/
def depthLimit : Nat := 80

namespace Document

def skipSpace (cs : List Char) : List Char := cs.dropWhile Quoted.isSpace

def skipComment : List Char → List Char
  | '#' :: rest => rest.dropWhile Quoted.isPlain
  | cs => cs

/-- Takes the end of a line: space, a comment, and a newline or the end of the text. -/
def endLine? (cs : List Char) : Option (List Char) :=
  match skipComment (skipSpace cs) with
  | [] => some []
  | '\n' :: rest => some rest
  | '\r' :: '\n' :: rest => some rest
  | _ => none

/-- Drops space, comments and newlines, as may stand between the items of an array. A comment ends
in a newline. -/
def skipLines : Nat → List Char → Option (List Char)
  | 0, cs => some cs
  | fuel + 1, cs =>
    match skipSpace cs with
    | '\n' :: rest => skipLines fuel rest
    | '\r' :: '\n' :: rest => skipLines fuel rest
    | '\r' :: _ => none
    | '#' :: rest =>
      match rest.dropWhile Quoted.isPlain with
      | '\n' :: rest => skipLines fuel rest
      | '\r' :: '\n' :: rest => skipLines fuel rest
      | _ => none
    | cs => some cs

def isKeyChar (c : Char) : Bool := c.isAlphanum || c == '-' || c == '_'

/-- Reads one key, quoted or not. -/
def simpleKey? (cs : List Char) : Option (String × List Char) :=
  match cs with
  | '"' :: _ | '\'' :: _ => (Quoted.line? cs).map fun (key, rest) => (String.ofList key, rest)
  | _ =>
    match cs.takeWhile isKeyChar with
    | [] => none
    | key => some (String.ofList key, cs.dropWhile isKeyChar)

/-- Reads keys joined by dots, with space around each: the way to the last one, and that. -/
def keys? : Nat → List Char → Option (List String × String × List Char)
  | 0, _ => none
  | fuel + 1, cs => do
    let (key, rest) ← simpleKey? (skipSpace cs)
    match skipSpace rest with
    | '.' :: rest =>
      let (path, last, rest) ← keys? fuel rest
      return (key :: path, last, rest)
    | rest => return ([], key, rest)

/-- Reads keys joined by dots, fewer than the limit. -/
def dottedKey? (cs : List Char) : Option (List String × String × List Char) :=
  keys? (depthLimit - 1) cs

/-- Reads a value that is not a container: a string, a truth value, a number, or a moment. A date
and a time may have a space between them. -/
def plain? (cs : List Char) : Option (Item × List Char) :=
  match cs with
  | '"' :: _ | '\'' :: _ => (Quoted.any? cs).map fun (text, rest) => (.text (String.ofList text), rest)
  | _ =>
    let run := cs.takeWhile Scalar.isScalarChar
    let rest := cs.dropWhile Scalar.isScalarChar
    if run = "true".toList then some (.bool true, rest)
    else if run = "false".toList then some (.bool false, rest)
    else if Scalar.isMoment run then
      match rest with
      | ' ' :: later =>
        if Scalar.isDate run && Scalar.isZonedTime (later.takeWhile Scalar.isScalarChar) then
          some (.moment, later.dropWhile Scalar.isScalarChar)
        else some (.moment, rest)
      | _ => some (.moment, rest)
    else if Scalar.isNumber run then some (.number, rest)
    else none

mutual

/-- Reads a value with at most `depth` containers in each other. -/
def value? (fuel depth : Nat) (cs : List Char) : Option (Item × List Char) :=
  match fuel with
  | 0 => none
  | fuel + 1 =>
    match cs, depth with
    | '[' :: _, 0 | '\x7b' :: _, 0 => none
    | '[' :: rest, depth + 1 => do
      let (back, rest) ← items? fuel depth [] rest
      return (.array back.reverse, rest)
    | '\x7b' :: rest, depth + 1 => do
      match skipSpace rest with
      | '\x7d' :: rest => return (.table .inline [], rest)
      | rest =>
        let (entries, rest) ← fields? fuel depth [] rest
        return (.table .inline entries, rest)
    | cs, _ => plain? cs

/-- Reads the items of an array to its end; a comma may follow the last. -/
def items? (fuel depth : Nat) (back : List Item) (cs : List Char) :
    Option (List Item × List Char) :=
  match fuel with
  | 0 => none
  | fuel + 1 => do
    match ← skipLines cs.length cs with
    | ']' :: rest => return (back, rest)
    | cs =>
      let (item, rest) ← value? fuel depth cs
      match ← skipLines rest.length rest with
      | ',' :: rest => items? fuel depth (item :: back) rest
      | ']' :: rest => return (item :: back, rest)
      | _ => none

/-- Reads the fields of an inline table to its end: at least one, on one line, without a comma
behind the last. -/
def fields? (fuel depth : Nat) (entries : Entries) (cs : List Char) :
    Option (Entries × List Char) :=
  match fuel with
  | 0 => none
  | fuel + 1 => do
    let (path, key, rest) ← dottedKey? cs
    match rest with
    | '=' :: rest =>
      let (item, rest) ← value? fuel depth (skipSpace rest)
      let entries ← entries.setDotted path key item
      match skipSpace rest with
      | ',' :: rest => fields? fuel depth entries rest
      | '\x7d' :: rest => return (entries, rest)
      | _ => none
    | _ => none

end

/-- A document between two lines: all of it so far, and the table that keys go into now. -/
structure Progress where
  entries : Entries
  current : List String
deriving Repr, Inhabited

def Progress.set? (progress : Progress) (path : List String) (key : String) (item : Item) :
    Option Progress := do
  let entries ← Entries.update false (fun _ => Entries.setDotted path key item) .header
    progress.current progress.entries
  return { progress with entries := entries }

/-- Opens a table, or a row of tables, by its header. -/
def Progress.open? (progress : Progress) (row : Bool) (path : List String) (key : String) :
    Option Progress := do
  let opened := if row then Entries.openRow key else Entries.openTable key
  let entries ← Entries.update false (fun _ => opened) .header path progress.entries
  return ⟨entries, path ++ [key]⟩

def header? (row : Bool) (progress : Progress) (cs : List Char) :
    Option (Progress × List Char) := do
  let (path, key, rest) ← dottedKey? cs
  let rest ← match row, rest with
    | false, ']' :: rest => some rest
    | true, ']' :: ']' :: rest => some rest
    | _, _ => none
  let rest ← endLine? rest
  return (← progress.open? row path key, rest)

def keyValue? (progress : Progress) (cs : List Char) : Option (Progress × List Char) := do
  let (path, key, rest) ← dottedKey? cs
  match rest with
  | '=' :: rest =>
    let (item, rest) ← value? (2 * rest.length + 2) (depthLimit - 1) (skipSpace rest)
    let rest ← endLine? rest
    return (← progress.set? path key item, rest)
  | _ => none

def lines? : Nat → Progress → List Char → Option Entries
  | 0, _, _ => none
  | fuel + 1, progress, cs =>
    match skipSpace cs with
    | [] => some progress.entries
    | '\n' :: rest => lines? fuel progress rest
    | '#' :: rest => do lines? fuel progress (← endLine? ('#' :: rest))
    | '\r' :: rest => do lines? fuel progress (← endLine? ('\r' :: rest))
    | '[' :: '[' :: rest => do
      let (progress, rest) ← header? true progress rest
      lines? fuel progress rest
    | '[' :: rest => do
      let (progress, rest) ← header? false progress rest
      lines? fuel progress rest
    | cs => do
      let (progress, rest) ← keyValue? progress cs
      lines? fuel progress rest

def dropMark : List Char → List Char
  | '\uFEFF' :: rest => rest
  | cs => cs

def read? (text : String) : Option Entries :=
  let cs := dropMark text.toList
  lines? (cs.length + 1) ⟨[], []⟩ cs

end Document

end ScriptBuild.Toml
