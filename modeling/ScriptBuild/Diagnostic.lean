import ScriptBuild.Path

/-!
# Compiler diagnostics

One message of the external compiler, and the texts that show lists of them.

A diagnostic has a place, a code, a wording and one of two severities. A message about no place in
particular has the empty path for its file, and line and column 0, which no place has: both count
from 1. The file is a path made from what the compiler has written, so it is compared and shown like
any other path, and need not lead anywhere.

One error is enough to make a whole compilation fail, whatever else was reported and however the
compiler's own program ended. Warnings never do. What is shown of a failed compilation is the number
of its errors and one line for each, in the order in which they were reported; the wording of a
message is shown as it is, with nothing escaped.
-/
namespace ScriptBuild

inductive Severity
  | error
  | warning
deriving DecidableEq, Repr, Inhabited

/-- One message of the compiler. A message without a position has line and column 0. -/
structure Diagnostic where
  file : Path
  line : Nat
  column : Nat
  code : String
  message : String
  severity : Severity
deriving DecidableEq, Repr, Inhabited

namespace Diagnostic

/-- An error makes the whole compilation fail. -/
def isFatal (diagnostic : Diagnostic) : Bool := diagnostic.severity == .error

def render (diagnostic : Diagnostic) : String :=
  diagnostic.file.text ++ " [" ++ toString diagnostic.line ++ ":" ++ toString diagnostic.column ++
    "] " ++ diagnostic.code ++ ": " ++ diagnostic.message

/-- The summary of a failed compilation, one diagnostic a line. -/
def failureText (diagnostics : List Diagnostic) : String :=
  "compilation failed with " ++ toString diagnostics.length ++ " error(s)" ++
    String.join (diagnostics.map fun d => "\n" ++ d.render)

end Diagnostic

end ScriptBuild
