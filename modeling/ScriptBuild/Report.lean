import ScriptBuild.Failure
import ScriptBuild.Report.Block

/-!
# Reports

What the console shows of a failure. A faulty directive is shown in its file, with every include
that led to it, outermost first; of what made the last of them fail, the wording is added below.

A report is for reading only: no decision is based on it. It looks at the files once more to show
the lines that are blamed, and takes each file as it is by then. A file that is gone or is not UTF-8
throughout has no lines to show, and then the directive's wording with its place stands in one line
in place of a block. The rest of the chain is shown all the same.

The remark about the cause belongs to the last directive of the chain and stands in its block. All
other failures have a report of one or a few lines: the wording behind `error:`, the list of
diagnostics for a failed compilation, and the exception for a script that raised one.

What is written here is the plain text. The display can be asked to colour it, which puts escape
sequences between the characters that are here and changes none of them; that is not modelled, and
neither is how wide the display is: a long line stays one line.
-/
namespace ScriptBuild.Report

/-- What makes a directive fail, in words. -/
def noteText (root : Failure) : String := "caused by: " ++ root.message

/-- One faulty directive: a marked line, or one line of text if the file cannot be shown. -/
def ofDirective (files : FileSystem) (error : DirectiveError) (note : Option String) : String :=
  match files.readText error.file with
  | .error _ => "error: " ++ error.message ++ "\n"
  | .ok text =>
    Block.render
      { name := error.file.text
        text := text.toList
        span := Span.ofLine text.toList error.line
        message := error.fault.message
        note := note }

/-- Faulty directives from the outermost on; the remark belongs to the last. -/
def ofChain (files : FileSystem) (note : Option String) : List DirectiveError → String
  | [] => ""
  | [error] => ofDirective files error note
  | error :: rest => ofDirective files error none ++ ofChain files note rest

def ofDirectives (files : FileSystem) (failure : Failure) : String :=
  ofChain files (failure.chain.2.map noteText) failure.chain.1

/-- The report of diagnostics of one kind: how many there are, and one line for each. -/
def ofDiagnostics (kind : String) (diagnostics : List Diagnostic) : String :=
  "Got " ++ toString diagnostics.length ++ " " ++ kind ++ "(s)\n" ++
    String.join (diagnostics.map (·.render ++ "\n"))

def ofErrors (diagnostics : List Diagnostic) : String := ofDiagnostics "error" diagnostics

/-- The report of a successful compilation: nothing, unless there are warnings. -/
def ofWarnings (diagnostics : List Diagnostic) : String :=
  if diagnostics.isEmpty then "" else ofDiagnostics "warning" diagnostics

def ofFailure (files : FileSystem) (failure : Failure) : String :=
  match failure with
  | .directive _ | .causedBy _ _ => ofDirectives files failure
  | .compileFailed diagnostics => ofErrors diagnostics
  | .scriptFault path message =>
    "Uncaught script exception in " ++ path.text ++ "\n" ++ message ++ "\n"
  | _ => "error: " ++ failure.message ++ "\n"

end ScriptBuild.Report
