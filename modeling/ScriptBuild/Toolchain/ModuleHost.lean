import ScriptBuild.FileSystem.Temporary
import ScriptBuild.Module.Description
import ScriptBuild.Module.Outcome

/-!
# The module host as a program

Modules are opened by a host program. Asked to describe a module, it prints the module's types and
fails if the file is none. Asked to invoke a method, it leaves the result in a file made for that
purpose, which is gone when the call is over, however it ends.

The paths of the module and of the result file are passed on as octets. What the host writes to its
streams is shown when it invokes; when it describes, the first stream is the description and the
second the reason for a failure. The module's name for a type is compared as it stands.

A host is a program and may do anything to the files. To serve as a loader it has to leave them
alone while it describes, whatever the module: `Quiet` says so, and is asked for where the loader is
made. While it invokes it is not bound by that. Which names are drawn for result files is given from
outside, and every call draws afresh.

The reason given for a description that cannot be read stands for the reader's own words, which are
not modelled.
-/
namespace ScriptBuild.ModuleHost

open Text.Utf8 (Bytes)

def describeArgs (program : Program) (module : Path) : List Bytes :=
  let asked : List Bytes := ["describe", module.octets]
  program.firstArgs ++ asked

def invokeArgs (program : Program) (module : Path) (typeName method : String) (result : Path)
    (args : Option (List String)) : List Bytes :=
  let asked : List Bytes := ["invoke", module.octets, typeName, method, "--result", result.octets]
  let passed : List Bytes := match args with
    | some args => Text.Utf8.encode "--" :: args.map Text.Utf8.encode
    | none => ["--no-args"]
  program.firstArgs ++ asked ++ passed

/-- The text of a result file; one that is not UTF-8 counts as empty. -/
def resultText (files : FileSystem) (result : Path) : String :=
  match files.readText result with
  | .ok text => text
  | .error _ => ""

def invoke (launcher : Launcher) (program : Program) (temporary : Place) (lots : List Lot)
    (module : Path) (typeName method : String) (args : Option (List String))
    (files : FileSystem) : InvokeResult :=
  match (files.createTemporary temporary "scs-result-" ".json" lots).1 with
  | .error cause =>
    { outcome := .error (.protocol program.name ("cannot create result file: " ++ cause.message))
      files := files
      printed := {} }
  | .ok (result, files) =>
    match launcher.run program.name (invokeArgs program module typeName method result args)
        files with
    | (.error cause, files) =>
      { outcome := .error (.launch program.name cause), files := files.remove result
        printed := {} }
    | (.ok output, files) =>
      { outcome := (Module.settle (resultText files result) output.status).mapError
          (.protocol program.name)
        files := files.remove result
        printed := output.console }

/-- What the end of a description comes to. -/
def opened (launcher : Launcher) (program : Program) (temporary : Place) (lots : List Lot)
    (module : Path) : Except IoError ProgramOutput → Except ToolError LoadedModule
  | .error cause => .error (.launch program.name cause)
  | .ok output =>
    if output.status.isSuccess then
      match Module.describe? output.console.out with
      | none => .error (.protocol program.name "invalid module description: not a type listing")
      | some types => .ok
        { hasType := fun name => types.any (·.name == name)
          exportedTypes := .ok types
          invoke := invoke launcher program temporary lots module }
    else .error (.load module (Text.trim (Text.Utf8.decodeLossy output.console.err)))

/-- Opens a module by what the host tells about it, and gives the files the host leaves. -/
def load (launcher : Launcher) (program : Program) (temporary : Place) (lots : List Lot)
    (module : Path) (files : FileSystem) : Except ToolError LoadedModule × FileSystem :=
  let (answer, files) := launcher.run program.name (describeArgs program module) files
  (opened launcher program temporary lots module answer, files)

/-- Whoever describes a module leaves the files as they are. -/
def Quiet (launcher : Launcher) : Prop :=
  ∀ program module files,
    (launcher.run program.name (describeArgs program module) files).2 = files

def loader (launcher : Launcher) (quiet : Quiet launcher) (program : Program) (temporary : Place)
    (lots : List Lot) : Loader where
  load := load launcher program temporary lots
  leaves path files := quiet program path files

end ScriptBuild.ModuleHost
