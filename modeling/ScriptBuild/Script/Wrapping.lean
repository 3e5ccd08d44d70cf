import ScriptBuild.Script.ClassName
import ScriptBuild.Script.Mode

/-!
# Wrapping a script into a compilation unit

A complex script is a unit already. The body of a simple one is put into a class, that of a single
one into the `Main` method of a class. The wrapper's opening is a line of its own before the first
body line and its closing braces a line of their own at the end, so header lines keep their numbers
and body lines move by one.

The header stays in front of the wrapper, because it holds the `using` lines, which a class may not
contain, and comments. A text that is all header has an empty body, and a wrapper around an empty
line. Only a wrapped text takes a name from the supply. Names and frames are kept apart: a frame is
the two lines with the name already in them, and what is done with a frame is the same in both
modes.

Nothing is put on the lines of the text itself, so each of them is a line of the unit, in the same
order. Lines are put together with newlines, whatever ended them in the text, and a carriage return
in front of a newline is gone.
-/
namespace ScriptBuild.Wrapping

/-- The line that opens the wrapper of a class, and the one that closes it. -/
def simpleFrame (name : String) : String × String :=
  ("public static class " ++ name ++ "\x7b", "\x7d")

/-- The line that opens the wrapper of a method, and the one that closes it. -/
def singleFrame (name : String) : String × String :=
  ("public static class " ++ name ++ "\x7bpublic static int Main(string[] args)\x7b", "\x7d\x7d")

/-- The body lines of a text: at least one, which is empty if the text is all header. -/
def body (text : String) : List String :=
  match (Text.lines text).drop (Header.scan text).length with
  | [] => [""]
  | lines => lines

/-- The text with its body in a frame. -/
def around (frame : String × String) (text : String) : String :=
  Text.joinLines ((Text.lines text).take (Header.scan text).length ++ [frame.1] ++ body text ++
    [frame.2])

/-- The compilation unit of a script text, and the supply of names after it. -/
def normalize (supply : ClassName.Supply) (mode : Mode) (text : String) :
    String × ClassName.Supply :=
  match mode with
  | .complex => (text, supply)
  | .simple => (around (simpleFrame supply.fresh.1) text, supply.fresh.2)
  | .single => (around (singleFrame supply.fresh.1) text, supply.fresh.2)

end ScriptBuild.Wrapping
