import ScriptBuild.Diagnostic
import ScriptBuild.FileSystem

/-!
# Failures

Everything that can go wrong between a script's path and its result code. A failure names its cause;
the wording is in one function per type. A directive that fails because of another failure carries
it, so failures form chains that lead from the outermost file to what went wrong.

A failure that concerns a file carries the path that the operation used for it, which is not always
the one that was asked for: a script is spelled out before it is read, so failures behind that point
carry the canonical path. The fault of a directive is kept apart from its place, so that the same
fault can be shown in one line with the place in front, or below the line of the file that it stands
on.

The chain of a failure is read off from the outside: the first directive is the script's, and each
one after it stands in the file that the one before includes. At its end is either a fault of the
last directive itself, and then there is no further cause, or a failure of another kind that made
the last include fail. `causes` goes on below that, to what the operating system has said.

**Results.**
* `chain_causedBy`, `chain_directive`, `chain_of_not_directive`: how a chain is read off a failure.
* `chain_root_not_directive`: what is at the end of a chain is not itself a directive's failure.
-/
namespace ScriptBuild

inductive DirectiveFault
  | versionUnsupported
  | unquoted
  | badMode (line : String)
  | notComplex (target : Path)
  | notScriptBinary (target : Path)
  | includeFailed
  | other (text : String)
deriving DecidableEq, Repr, Inhabited

def DirectiveFault.message : DirectiveFault → String
  | .versionUnsupported =>
    "//#version is not supported by this engine version. " ++
      "The engine is outdated if the documentation states that this directive is available"
  | .unquoted => "invalid include or reference line. Missing quotes?"
  | .badMode line => "invalid mode line: " ++ line
  | .notComplex target =>
    "files used in //#include must use complex mode. Use '//#mode complex' in " ++ target.text ++
      " to fix this"
  | .notScriptBinary target =>
    "error processing //#include statement: the referenced file '" ++ target.text ++
      "' is not a valid script binary"
  | .includeFailed => "error processing //#include statement"
  | .other text => text

/-- A faulty directive: the file, the number of the header line counted from 1, and the fault. -/
structure DirectiveError where
  file : Path
  line : Nat
  fault : DirectiveFault
deriving DecidableEq, Repr, Inhabited

def DirectiveError.message (error : DirectiveError) : String :=
  error.file.text ++ "(" ++ toString error.line ++ "): " ++ error.fault.message

inductive ToolError
  | launch (program : String) (cause : IoError)
  | load (path : Path) (reason : String)
  | protocol (tool message : String)
deriving DecidableEq, Repr, Inhabited

def ToolError.message : ToolError → String
  | .launch program cause => "failed to launch '" ++ program ++ "': " ++ cause.message
  | .load path reason => "failed to load module '" ++ path.text ++ "': " ++ reason
  | .protocol tool message => tool ++ ": " ++ message

/-- Every failure of resolving, compiling or running a script. -/
inductive Failure
  | emptyPath
  | notFound (path : Path)
  | io (path : Path) (cause : IoError)
  /-- A directive that failed on its own. -/
  | directive (error : DirectiveError)
  /-- A directive that failed because something else did. -/
  | causedBy (error : DirectiveError) (cause : Failure)
  | invalidMode (path : Path)
  | compileFailed (diagnostics : List Diagnostic)
  | scriptFault (path : Path) (message : String)
  | badFormat (path : Path)
  | tool (error : ToolError)
deriving DecidableEq, Repr, Inhabited

namespace Failure

/-- The wording of a failure, without its causes. -/
def message : Failure → String
  | .emptyPath => "empty file name"
  | .notFound path => "file '" ++ path.text ++ "' not found"
  | .io path cause => "I/O error on '" ++ path.text ++ "': " ++ cause.message
  | .directive error | .causedBy error _ => error.message
  | .invalidMode path => "invalid script mode for '" ++ path.text ++ "'"
  | .compileFailed diagnostics => Diagnostic.failureText diagnostics
  | .scriptFault path text => "uncaught script exception in " ++ path.text ++ ": " ++ text
  | .badFormat path => "no suitable entry point signature found in '" ++ path.text ++ "'"
  | .tool error => error.message

/-- The wordings of the causes, from the nearest on. -/
def causes : Failure → List String
  | .io _ cause => [cause.message]
  | .causedBy _ cause => cause.message :: cause.causes
  | .tool (.launch _ cause) => [cause.message]
  | _ => []

/-- The faulty directives from the outermost file inwards, and what made the last of them fail. -/
def chain : Failure → List DirectiveError × Option Failure
  | .directive error => ([error], none)
  | .causedBy error cause => (error :: cause.chain.1, cause.chain.2)
  | failure => ([], some failure)

def isDirective : Failure → Bool
  | .directive _ | .causedBy _ _ => true
  | _ => false

/-- The directive at the end of a chain. -/
def innermost? (failure : Failure) : Option DirectiveError := failure.chain.1.getLast?

def isScriptFault : Failure → Bool
  | .scriptFault _ _ => true
  | _ => false

/-- The fatal diagnostics, if the failure is a failed compilation. -/
def diagnostics? : Failure → Option (List Diagnostic)
  | .compileFailed diagnostics => some diagnostics
  | _ => none

@[simp] theorem chain_directive (error : DirectiveError) :
    (directive error).chain = ([error], none) := rfl

@[simp] theorem chain_causedBy (error : DirectiveError) (cause : Failure) :
    (causedBy error cause).chain = (error :: cause.chain.1, cause.chain.2) := rfl

theorem chain_of_not_directive {failure : Failure} (h : failure.isDirective = false) :
    failure.chain = ([], some failure) := by
  cases failure with
  | directive error => cases h
  | causedBy error cause => cases h
  | _ => rfl

theorem chain_root_not_directive {failure root : Failure} (h : failure.chain.2 = some root) :
    root.isDirective = false := by
  induction failure with
  | causedBy error cause ih => exact ih h
  | directive error => simp at h
  | _ =>
    simp only [chain, Option.some.injEq] at h
    subst h
    rfl

end Failure

end ScriptBuild
