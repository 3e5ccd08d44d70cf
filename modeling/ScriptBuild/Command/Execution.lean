import ScriptBuild.Command.Line
import ScriptBuild.Config
import ScriptBuild.Report
import ScriptBuild.Toolchain.ModuleHost
import ScriptBuild.Toolchain.ProgramCompiler

/-!
# Executing a command line

A command line that can be read is executed by an engine whose compiler and module host are the
programs of the configuration. What comes of it is an exit status, the console's two streams, and
the files.

**Exit statuses.** A failure of any kind is reported on the second stream and has exit status 1. A
run that ends has the low octet of the script's result code, which is all that a status can hold, so
a script may well end with a status that says success. A line that cannot be read has status 2, and
one that asks for help or for the version has status 0.

**Surroundings.** Besides the line, an execution depends on what starts programs, on the environment
variables, on the directory of the command's own program, on where temporary files are made and on
what is drawn for their names. The programs are arbitrary but for one thing: whatever is started to
describe a module leaves the files alone, as a loader has to.

**Streams.** What the script printed comes first, and the command's own words behind it. The report
of a directive's failure looks at the files once more, as they are in the end.
-/
namespace ScriptBuild.Command

/-- What a command is executed in. -/
structure Surroundings where
  launcher : Launcher
  quiet : ModuleHost.Quiet launcher
  environment : Config.Environment
  /-- The directory of the command's own program. -/
  programDirectory : Path
  /-- Where temporary files are made. -/
  temporary : Place
  /-- What is drawn for the names of result files. -/
  lots : List Lot

structure Ending where
  exit : UInt8
  console : Console
  session : Session

def engine (surroundings : Surroundings) (config : Config) : Engine where
  settings := config.engine
  compiler := ProgramCompiler.compiler surroundings.launcher config.compiler
  loader := ModuleHost.loader surroundings.launcher surroundings.quiet config.host
    surroundings.temporary surroundings.lots
  temporary := surroundings.temporary

/-- A number in at least four columns. -/
def column (number : Nat) : String :=
  let shown := toString number
  String.ofList (List.replicate (4 - shown.length) ' ') ++ shown

/-- Numbered lines, one for each dependency. -/
def dependencyLines (first : Nat) : List Dependency → String
  | [] => ""
  | dependency :: rest =>
    column first ++ " | " ++ dependency.render ++ "\n" ++ dependencyLines (first + 1) rest

def overview (script : Path) (mode : Option Mode) (found : Resolution) : String :=
  let rule := String.ofList (List.replicate 60 '=') ++ "\n"
  "Script: " ++ script.text ++ "\nMode:   " ++ Mode.nameOrNone mode ++ "\n" ++ rule ++
    dependencyLines 1 found.deps ++ rule ++
    "Total dependencies: " ++ toString found.size ++ "\n"

def shown (out err : String) : Console := ⟨Text.Utf8.encode out, Text.Utf8.encode err⟩

/-- Performs an action: its exit status and what it shows, unless it fails. -/
def perform (engine : Engine) (action : Action) (session : Session) :
    Except Failure (UInt8 × Console) × Session :=
  match action with
  | .run script args =>
    let (result, session) := engine.run script args session
    (result.map fun code => (code.toUInt32.toUInt8, {}), session)
  | .compile script output =>
    let output := output.getD (script.withExtension "dll")
    let (result, session) := engine.compile script output session
    (result.map fun warnings =>
      (0, shown ("Module written to: " ++ output.text ++ "\n") (Report.ofWarnings warnings)), session)
  | .deps script =>
    match engine.mode session.files script with
    | .error failure => (.error failure, session)
    | .ok mode =>
      match engine.resolve session.files script with
      | .error failure => (.error failure, session)
      | .ok found => (.ok (0, shown (overview script mode found) ""), session)

def exitStatus : Except Failure (UInt8 × Console) → UInt8
  | .ok (status, _) => status
  | .error _ => 1

def finalConsole (files : FileSystem) : Except Failure (UInt8 × Console) → Console
  | .ok (_, console) => console
  | .error failure => shown "" (Report.ofFailure files failure)

def execute (surroundings : Surroundings) (line : Line) (session : Session) : Ending :=
  match Config.load session.files surroundings.environment surroundings.programDirectory
      line.config with
  | .error error => ⟨1, shown "" ("error: " ++ error.message ++ "\n"), session⟩
  | .ok config =>
    let config := if line.debug then
        { config with engine := { config.engine with optimize := false } }
      else config
    let (result, session) := perform (engine surroundings config) line.action session
    ⟨exitStatus result, session.printed ++ finalConsole session.files result, session⟩

def usage : String :=
  "Compile and run single-file C# scripts\n\n" ++
    "Usage: scs [OPTIONS] <COMMAND>\n\n" ++
    "Commands:\n" ++
    "  run      Run a script or a precompiled script module\n" ++
    "  compile  Compile a script to a module without running it\n" ++
    "  deps     Show the mode and resolved dependencies of a script (debug)\n" ++
    "  help     Print this message or the help of the given subcommand(s)\n\n" ++
    "Options:\n" ++
    "      --config <CONFIG>  Configuration file (defaults to $SCS_CONFIG or scs.toml beside scs)\n" ++
    "      --debug            Build without optimizations and with debug information\n" ++
    "  -v, --verbose          Enable verbose output\n" ++
    "  -h, --help             Print help\n" ++
    "  -V, --version          Print version\n"

/-- What is printed when there is nothing to do. -/
def stopped (stop : Stop) (session : Session) : Ending :=
  match stop with
  | .help => ⟨0, shown usage "", session⟩
  | .version => ⟨0, shown "scs 0.1.0\n" "", session⟩
  | .misuse => ⟨2, shown "" usage, session⟩

def runLine (surroundings : Surroundings) (args : List String) (session : Session) : Ending :=
  match Line.read args with
  | .error stop => stopped stop session
  | .ok line => execute surroundings line session

end ScriptBuild.Command
