import ScriptBuild.Script.Directive
import ScriptBuild.Script.Kind

/-!
# Script modes

A script's mode says how much of a compilation unit its text already is. The first `//#mode` line of
the header decides; without one the mode is `single`. Only source files have a mode.

In mode `single` the body is what a `Main` method does, in mode `simple` it is what a class holds,
and in mode `complex` the text stands for itself. Only complex files can be included, since there is
nothing to put the body of another into.

The mode is read by the first word behind the command. So it needs no delimiters, unlike the
directives that bring something in, and `//#mode "simple"` is an error here: the word has quotes in
it. The first such line decides, whether or not it names a mode; lines behind it do not count, and
neither does it matter whether the search for directives has ended in front of it.

`declaredFrom` gives an error with the line it stands on, which is why it counts. `Mode.of` is asked
of any path, and says of a module that it has no mode and of a missing file as well.
-/
namespace ScriptBuild

inductive Mode
  /-- The body is the content of a `Main` method. -/
  | single
  /-- The body is the content of a class with its own `Main`. -/
  | simple
  /-- The text is a whole unit. -/
  | complex
deriving DecidableEq, Repr, Inhabited

namespace Mode

def name : Mode → String
  | .single => "single"
  | .simple => "simple"
  | .complex => "complex"

def ofName? (name : String) : Option Mode :=
  if name = "single" then some .single
  else if name = "simple" then some .simple
  else if name = "complex" then some .complex
  else none

theorem ofName?_name (mode : Mode) : ofName? mode.name = some mode := by
  cases mode <;> decide

/-- The name of a mode, or `none` where there is no mode. -/
def nameOrNone (mode : Option Mode) : String := (mode.map name).getD "none"

/-- The mode that header lines declare, the first of which has the given number. -/
def declaredFrom (file : Path) (number : Nat) : List String → Except DirectiveError Mode
  | [] => .ok .single
  | line :: rest =>
    match Header.splitCommand line with
    | none => declaredFrom file (number + 1) rest
    | some (command, argument) =>
      if command = Directive.modeCommand then
        match ofName? (Text.firstWord argument) with
        | some mode => .ok mode
        | none => .error ⟨file, number, .badMode line⟩
      else declaredFrom file (number + 1) rest

def declared (files : FileSystem) (path : Path) : Except Failure Mode :=
  match Source.header files path with
  | .error failure => .error failure
  | .ok header =>
    match declaredFrom path 1 header with
    | .ok mode => .ok mode
    | .error error => .error (.directive error)

/-- The mode of any path: `none` unless it is a source file. -/
def of (probe : Probe) (marker : String) (files : FileSystem) (path : Path) :
    Except Failure (Option Mode) :=
  match ScriptKind.of probe marker files path with
  | .ok .source => (declared files path).map some
  | _ => .ok none

end Mode

end ScriptBuild
