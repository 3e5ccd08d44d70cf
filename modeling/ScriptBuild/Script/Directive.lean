import ScriptBuild.Script.Header
import ScriptBuild.Text.Lower

/-!
# Directives

A header line with a space in it is a command and an argument. `//#mode`, `//#ref` and `//#include`
with an argument in quotes or angle brackets are directives; any other command with such an argument
ends the search for directives in its file, and `//#version` is always refused.

Commands are compared in lower case, arguments are taken as they stand between their delimiters: the
first and the last character of what stands behind the command, blanks around it left out. A quoted
path is seen from the directory of the file that the line stands in, a bracketed one from the
reference directory; an absolute one stands for itself either way. A path is then spelled out at
once, and where it has no canonical form it is made absolute as it is written, so that whoever is
asked about it next can say that it is missing.

A line without a space, a comment and a command without a delimited argument are passed over, but a
reference or an include without delimiters is an error: quotes were forgotten. A mode with
delimiters is a directive that brings in nothing; the mode itself is read elsewhere (`Mode`), and by
its first word.

A search (`HeaderScan`) hands out directives one by one, each with its line number. It is a value:
the lines still to read and how many have been read. After an error, or after a line that ends the
search, no lines are left in it, so nothing comes after.

**Results.**
* `next_shortens`: each step of a scan uses up at least one header line.
-/
namespace ScriptBuild

inductive Directive
  /-- A delimited mode. It brings in no dependency. -/
  | mode (name : String)
  /-- A reference for the compiler, passed on as written. -/
  | reference (name : String)
  /-- An included unit, by its full path. -/
  | includes (target : Path)
deriving DecidableEq, Repr, Inhabited

/-- What one header line says. -/
inductive LineMeaning
  | found (directive : Directive)
  /-- A blank line, a comment or a `using` declaration. -/
  | skip
  /-- No directive of this file counts from here on. -/
  | stop
deriving DecidableEq, Repr, Inhabited

/-- An argument in its delimiters. -/
inductive Argument
  /-- In quotes: seen from the file it stands in. -/
  | quoted (inner : String)
  /-- In angle brackets: seen from the reference directory. -/
  | bracketed (inner : String)
deriving DecidableEq, Repr, Inhabited

namespace Directive

def modeCommand : String := "//#mode"
def referenceCommand : String := "//#ref"
def includeCommand : String := "//#include"
def versionCommand : String := "//#version"

end Directive

namespace Argument

/-- What stands between two delimiters that are the first and the last character. -/
def between (first last : Char) : List Char → Option (List Char)
  | [] => none
  | c :: rest => if c = first ∧ rest.getLast? = some last then some rest.dropLast else none

def read? (raw : String) : Option Argument :=
  match between '"' '"' raw.toList with
  | some inner => some (.quoted (String.ofList inner))
  | none => (between '<' '>' raw.toList).map fun inner => .bracketed (String.ofList inner)

def inner : Argument → String
  | .quoted text | .bracketed text => text

/-- Where the argument is seen from. -/
def base (directory reference : Path) : Argument → Path
  | .quoted _ => directory
  | .bracketed _ => reference

end Argument

namespace Header

/-- The lower-cased command and the trimmed argument of a line with a space in it. -/
def splitCommand (line : String) : Option (String × String) :=
  (Text.cutOnce ' ' line.toList).map fun (command, argument) =>
    (String.ofList (Text.lowerChars (Text.trimChars command)),
      String.ofList (Text.trimChars argument))

/-- What a header line says in a file of `directory`. -/
def meaning (files : FileSystem) (directory reference : Path) (line : String) :
    Except DirectiveFault LineMeaning :=
  match splitCommand line with
  | none => .ok .skip
  | some (command, raw) =>
    if command = Directive.versionCommand then .error .versionUnsupported
    else match Argument.read? raw with
      | none =>
        if command = Directive.referenceCommand ∨ command = Directive.includeCommand then
          .error .unquoted
        else .ok .skip
      | some argument =>
        if command = Directive.modeCommand then .ok (.found (.mode argument.inner))
        else if command = Directive.referenceCommand then .ok (.found (.reference argument.inner))
        else if command = Directive.includeCommand then
          .ok (.found (.includes
            (files.fullPath ((argument.base directory reference).join ⟨argument.inner⟩))))
        else .ok .stop

end Header

/-- A search for the directives of one file: the header lines still to read, and how many have
been read. -/
structure HeaderScan where
  file : Path
  reference : Path
  rest : List String
  line : Nat
deriving DecidableEq, Repr, Inhabited

namespace HeaderScan

/-- A directive with the number of its line, or the error that ends the search. -/
abbrev Item := Except DirectiveError (Nat × Directive)

def start (file : Path) (header : List String) (reference : Path) : HeaderScan :=
  ⟨file, reference, header, 0⟩

/-- The directory that quoted arguments are seen from. -/
def directory (scan : HeaderScan) : Path := scan.file.directory

/-- Reads on to the next directive or error. Nothing follows an error or a line that stops the
search. -/
def next (files : FileSystem) (scan : HeaderScan) : Option Item × HeaderScan :=
  match _h : scan.rest with
  | [] => (none, scan)
  | text :: rest =>
    let after : HeaderScan := { scan with rest := rest, line := scan.line + 1 }
    match Header.meaning files scan.directory scan.reference text with
    | .ok .skip => after.next files
    | .ok .stop => (none, { after with rest := [] })
    | .ok (.found directive) => (some (.ok (after.line, directive)), after)
    | .error fault => (some (.error ⟨scan.file, after.line, fault⟩), { after with rest := [] })
termination_by scan.rest.length
decreasing_by simp [_h]

theorem next_shortens {files : FileSystem} {scan after : HeaderScan} {item : Item}
    (h : scan.next files = (some item, after)) : after.rest.length < scan.rest.length := by
  fun_induction next files scan with
  | case1 scan hrest => cases h
  | case2 scan text rest hrest after' hm ih =>
    have := ih h
    simp only [after', hrest, List.length_cons] at this ⊢
    omega
  | case3 scan text rest hrest after' hm => cases h
  | case4 scan text rest hrest after' directive hm =>
    rw [← (Prod.mk.inj h).2]
    simp [after', hrest]
  | case5 scan text rest hrest after' fault hm =>
    cases h
    simp [hrest]

theorem next_file {files : FileSystem} {scan after : HeaderScan} {item : Option Item}
    (h : scan.next files = (item, after)) : after.file = scan.file := by
  fun_induction next files scan with
  | case1 scan hrest => cases h; rfl
  | case2 scan text rest hrest after' hm ih => exact ih h
  | case3 scan text rest hrest after' hm => cases h; rfl
  | case4 scan text rest hrest after' directive hm => rw [← (Prod.mk.inj h).2]
  | case5 scan text rest hrest after' fault hm => cases h; rfl

/-- All that a search still finds, and where it ends. -/
def run (files : FileSystem) (scan : HeaderScan) : List Item × HeaderScan :=
  match _h : scan.next files with
  | (none, after) => ([], after)
  | (some item, after) =>
    let later := after.run files
    (item :: later.1, later.2)
termination_by scan.rest.length
decreasing_by exact next_shortens _h

/-- All that a search still finds. -/
def items (files : FileSystem) (scan : HeaderScan) : List Item := (scan.run files).1

end HeaderScan

end ScriptBuild
