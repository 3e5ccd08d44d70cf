import ScriptBuild.Diagnostic.Listing
import ScriptBuild.Toolchain

/-!
# The compiler as a program

A compilation is one run of a compiler program. What it writes to its two streams is one listing,
the second stream behind the first without anything in between, and the diagnostics are read off
that. A program that fails without reporting an error gets one made up for it, so that failing never
looks like success.

The request's paths are passed on as they are shown. A path that is not UTF-8 is therefore not the
path the compiler is given; the unit of the script and the output have such paths only if the script
or its directory has one. References are texts from the start.

The compiler reports by file, line and column, and a diagnostic keeps what it reports: the file of
one is the path its text spells, whether it exists or not.

**Results.**
* `exists_fatal_of_failure`: after a failure some diagnostic is fatal.
-/
namespace ScriptBuild.ProgramCompiler

open Text.Utf8 (Bytes)

/-- The arguments of a compilation, besides those always given first. -/
def ownArgs (request : CompileRequest) : List String :=
  ["-target:library", "-out:" ++ request.output.text,
      if request.optimize then "-optimize+" else "-debug"] ++
    request.references.map ("-r:" ++ ·) ++ request.sources.map Path.text

def arguments (program : Program) (request : CompileRequest) : List Bytes :=
  program.firstArgs ++ (ownArgs request).map Text.Utf8.encode

/-- All that a program wrote, as one text. -/
def listing (output : ProgramOutput) : String :=
  Text.Utf8.decodeLossy output.console.out ++ Text.Utf8.decodeLossy output.console.err

/-- The error made up for a program that failed without reporting one. -/
def unexplained (name : String) (output : ProgramOutput) : Diagnostic where
  file := .ofText name
  line := 0
  column := 0
  code := "SCS0001"
  message := "compiler exited with " ++ output.status.message ++ ": " ++ Text.trim (listing output)
  severity := .error

def diagnose (name : String) (output : ProgramOutput) : List Diagnostic :=
  let reported := Listing.read (listing output)
  if output.status.isSuccess || reported.any Diagnostic.isFatal then reported
  else reported ++ [unexplained name output]

def compiler (launcher : Launcher) (program : Program) : Compiler where
  compile request files :=
    match launcher.run program.name (arguments program request) files with
    | (.error cause, files) => (.error (.launch program.name cause), files)
    | (.ok output, files) => (.ok (diagnose program.name output), files)

theorem exists_fatal_of_failure {output : ProgramOutput} (h : output.status.isSuccess = false)
    (name : String) : (diagnose name output).any Diagnostic.isFatal = true := by
  unfold diagnose
  simp only [h, Bool.false_or]
  split
  · assumption
  · simp [Diagnostic.isFatal, unexplained]

end ScriptBuild.ProgramCompiler
