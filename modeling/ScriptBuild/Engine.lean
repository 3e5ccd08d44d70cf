import ScriptBuild.FileSystem.Temporary
import ScriptBuild.Resolution.Walk
import ScriptBuild.Script.Wrapping

/-!
# Compiling and running scripts

The engine ties resolution and wrapping to a compiler and a module loader. To compile, it writes the
script's unit beside the script, calls the compiler and removes the unit again, whatever happened.
To run source text it compiles to a temporary module, which lives until the run ends; a module is
run as it is.

**Order.** A script is spelled out canonically before anything else is asked of it. Compiling then
resolves, takes the mode and reads the text, and only then is a name drawn and a file written; so a
script whose header is at fault leaves no trace. The compiler is called at most once, after the unit
is in place, and a method is started at most once, after the module has been opened and an entry
point found. Each step that fails ends the operation, and the file it made is still taken away.

**Sessions.** A `Session` is what operations pass on to each other: the files, the supply of class
names, the lots drawn for temporary files, the calls made to the compiler and to modules, and what
those modules printed. Operations that only look do not change it. Everything an operation does
outside the engine is recorded in `calls`, with the files as they were when the compiler was called.

**Assumptions.** No one else writes to the files during an operation. The unit's path is the
script's with an ending added, and a file that stands there is written over and removed: the engine
takes the name for its own. The compiler, the methods that are started and what they write are
arbitrary, and a loader only looks.

**Left out.** The crash of the engine itself between writing a file and removing it, and the
permissions with which files are made.

**Paths.** What the compiler is given is told apart by paths, not by files: the script is left out
of its sources wherever a source goes by the same names, and two paths that lead to one file by
different names are two sources. Temporary modules are named by lots (`FileSystem.createTemporary`),
so nothing said of a run depends on which free name is drawn.

**Results.**
* `start_eq`: loading leaves the files as they are, so a module is started in those it was found in.
  * `calls_of_start`: starting a module makes at most one call, of a method.
-/
namespace ScriptBuild

structure Settings where
  /-- Where bracketed includes are looked for. -/
  reference : Path := ⟨"Ref"⟩
  /-- The type that marks a module as a script binary. -/
  marker : String := "ScriptMain"
  /-- References of every compilation, in front of the resolved ones. -/
  defaults : List String := ["System.dll", "System.Core.dll"]
  optimize : Bool := true
deriving DecidableEq, Repr, Inhabited

/-- A call that left the engine. -/
inductive Call
  /-- The compiler was called while the files were these. -/
  | compile (request : CompileRequest) (files : FileSystem)
  /-- A method of a loaded module was started. -/
  | invoke (module : Path) (typeName method : String) (args : Option (List String))
deriving Repr, Inhabited

/-- What one operation leaves to the next. -/
structure Session where
  files : FileSystem
  names : ClassName.Supply
  /-- What will be drawn for the names of temporary files. -/
  lots : List Lot
  calls : List Call := []
  printed : Console := {}
deriving Repr, Inhabited

/-- Makes an empty file for a temporary module: its path and the files then, and the lots left. -/
def Session.temporary (session : Session) (directory : Place) :
    Except IoError (Path × FileSystem) × List Lot :=
  session.files.createTemporary directory "scs-" ".dll" session.lots

structure Engine where
  settings : Settings
  compiler : Compiler
  loader : Loader
  /-- Where temporary modules are made. -/
  temporary : Place

namespace Engine

/-- The file a script's unit is written to while it is compiled. -/
def unitPath (script : Path) : Path := script.append ".norm"

def kind (engine : Engine) (files : FileSystem) (path : Path) : Except Failure ScriptKind :=
  ScriptKind.of engine.loader.probe engine.settings.marker files path

/-- The mode of any path: `none` unless it is a source file. -/
def mode (engine : Engine) (files : FileSystem) (path : Path) : Except Failure (Option Mode) :=
  Mode.of engine.loader.probe engine.settings.marker files path

def resolver (engine : Engine) : Resolver where
  probe := engine.loader.probe
  reference := engine.settings.reference
  marker := engine.settings.marker

def resolve (engine : Engine) (files : FileSystem) (script : Path) : Except Failure Resolution :=
  engine.resolver.resolve files script

/-- The compilation unit of a script. Only a wrapped text uses up a name. -/
def normalize (engine : Engine) (script : Path) (session : Session) :
    Except Failure String × Session :=
  match engine.mode session.files script with
  | .error failure => (.error failure, session)
  | .ok mode =>
    match Source.read session.files script with
    | .error failure => (.error failure, session)
    | .ok text =>
      match mode with
      | none => (.error (.invalidMode script), session)
      | some mode =>
        let wrapped := Wrapping.normalize session.names mode text
        (.ok wrapped.1, { session with names := wrapped.2 })

/-- The default references, and behind them the resolved ones that are not among those. -/
def references (settings : Settings) (found : Resolution) : List String :=
  found.references.foldl (fun named name => if name ∈ named then named else named ++ [name])
    settings.defaults

/-- What the compiler is asked for. The script's unit stands for the script itself, which an
include cycle may have found as well: what goes by the script's names is not listed again. -/
def request (engine : Engine) (script : Path) (found : Resolution) (output : Path) :
    CompileRequest where
  sources := unitPath script :: found.sources.filter fun source => !source.same script
  references := references engine.settings found
  output := output
  optimize := engine.settings.optimize

/-- The verdict on a compiler's answer: the diagnostics, unless one is fatal. -/
def verdict : Except ToolError (List Diagnostic) → Except Failure (List Diagnostic)
  | .error error => .error (.tool error)
  | .ok diagnostics =>
    match diagnostics.filter Diagnostic.isFatal with
    | [] => .ok diagnostics
    | fatal => .error (.compileFailed fatal)

/-- Compiles the unit of a script, which exists only while the compiler runs. -/
def build (engine : Engine) (script : Path) (found : Resolution) (unit : String) (output : Path)
    (session : Session) : Except Failure (List Diagnostic) × Session :=
  let path := unitPath script
  match session.files.write path (Text.Utf8.encode unit) with
  | .error cause =>
    (.error (.io path cause), { session with files := session.files.remove path })
  | .ok files =>
    let request := engine.request script found output
    let answer := engine.compiler.compile request files
    (verdict answer.1,
      { session with
        files := answer.2.remove path
        calls := session.calls ++ [.compile request files] })

/-- Compiles a script with its dependencies to a module, and gives the warnings. -/
def compile (engine : Engine) (script output : Path) (session : Session) :
    Except Failure (List Diagnostic) × Session :=
  match Source.canonical session.files script with
  | .error failure => (.error failure, session)
  | .ok script =>
    match engine.resolve session.files script with
    | .error failure => (.error failure, session)
    | .ok found =>
      match engine.normalize script session with
      | (.error failure, session) => (.error failure, session)
      | (.ok unit, session) => engine.build script found unit output session

/-- The result code that a method's end stands for. -/
def resultCode (script : Path) (entry : EntryPoint) :
    Except ToolError Invocation → Except Failure Int32
  | .error error => .error (.tool error)
  | .ok (.returned value) => .ok (if entry.returnsInt then value.getD 0 else 0)
  | .ok (.faulted message) => .error (.scriptFault script message)

def start (engine : Engine) (script module : Path) (args : List String) (session : Session) :
    Except Failure Int32 × Session :=
  let (loaded, files) := engine.loader.load module session.files
  let session := { session with files := files }
  match loaded with
  | .error error => (.error (.tool error), session)
  | .ok opened =>
    match opened.exportedTypes with
    | .error error => (.error (.tool error), session)
    | .ok types =>
      match EntryPoint.find? types with
      | none => (.error (.badFormat script), session)
      | some entry =>
        let passed := if entry.takesArgs then some args else none
        let result := opened.invoke entry.typeName entry.method passed session.files
        (resultCode script entry result.outcome,
          { session with
            files := result.files
            calls := session.calls ++ [.invoke module entry.typeName entry.method passed]
            printed := session.printed ++ result.printed })

def runSource (engine : Engine) (script : Path) (args : List String) (session : Session) :
    Except Failure Int32 × Session :=
  match session.temporary engine.temporary with
  | (.error cause, lots) =>
    (.error (.io engine.temporary.path cause), { session with lots := lots })
  | (.ok (module, files), lots) =>
    let ended : Except Failure Int32 × Session :=
      match engine.compile script module { session with files := files, lots := lots } with
      | (.error failure, session) => (.error failure, session)
      | (.ok _, session) => engine.start script module args session
    (ended.1, { ended.2 with files := ended.2.files.remove module })

/-- Runs a script or a module, and gives its result code. -/
def run (engine : Engine) (script : Path) (args : List String) (session : Session) :
    Except Failure Int32 × Session :=
  match Source.canonical session.files script with
  | .error failure => (.error failure, session)
  | .ok script =>
    match engine.kind session.files script with
    | .error failure => (.error failure, session)
    | .ok .source => engine.runSource script args session
    | .ok _ => engine.start script script args session

/-- To load a module leaves the files as they are, so its entry point is started in those that it
was looked up in. -/
theorem start_eq (engine : Engine) (script module : Path) (args : List String)
    (session : Session) :
    engine.start script module args session =
      match engine.loader.look module session.files with
      | .error error => (.error (.tool error), session)
      | .ok opened =>
        match opened.exportedTypes with
        | .error error => (.error (.tool error), session)
        | .ok types =>
          match EntryPoint.find? types with
          | none => (.error (.badFormat script), session)
          | some entry =>
            let passed := if entry.takesArgs then some args else none
            let result := opened.invoke entry.typeName entry.method passed session.files
            (resultCode script entry result.outcome,
              { session with
                files := result.files
                calls := session.calls ++ [.invoke module entry.typeName entry.method passed]
                printed := session.printed ++ result.printed }) := by
  have hleaves := engine.loader.leaves module session.files
  simp only [start, Loader.look, hleaves]

theorem calls_of_start (engine : Engine) (script module : Path) (args : List String)
    (session : Session) :
    (engine.start script module args session).2.calls = session.calls ∨
      ∃ typeName method passed, (engine.start script module args session).2.calls =
        session.calls ++ [.invoke module typeName method passed] := by
  rw [start_eq]
  split
  · exact .inl rfl
  · split
    · exact .inl rfl
    · split
      · exact .inl rfl
      · exact .inr ⟨_, _, _, rfl⟩

end Engine

end ScriptBuild
