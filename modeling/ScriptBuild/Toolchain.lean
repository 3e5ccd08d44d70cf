import ScriptBuild.Failure
import ScriptBuild.Module
import ScriptBuild.Program

/-!
# Compiler and module loader

The engine neither compiles nor loads code. A `Compiler` turns a request into a module file and
diagnostics; a `Loader` opens a module file, tells its types and starts its methods. Both are
interfaces: the programs behind them are `ProgramCompiler` and `ModuleHost`, and what is proved of
the engine holds of any other.

The file system goes through every call, because what is behind one may change it. A compiler may
write anything, and so may a method. A loader gives the files back as well, but it has to give them
back as they were: opening a file to see what it is must not change what there is to see, or no two
looks at a file would be comparable. That is a condition on loaders and part of the type, so
whoever makes one has to show it.

A loader is asked anew each time. It need not tell the same of a path when the files have changed,
nor the same of two paths that lead to one file.
-/
namespace ScriptBuild

/-- One run of the compiler. -/
structure CompileRequest where
  /-- The files to compile, the normalized entry script first. -/
  sources : List Path
  /-- Names and module paths to refer to. -/
  references : List String
  /-- Where the module has to be written. -/
  output : Path
  optimize : Bool
deriving DecidableEq, Repr, Inhabited

/-- A compiler gives back every diagnostic, fatal ones included; an error means it did not run. -/
structure Compiler where
  compile : CompileRequest → FileSystem → Except ToolError (List Diagnostic) × FileSystem

inductive Invocation
  /-- It returned, with a value if that was an integer. -/
  | returned (value : Option Int32)
  /-- It raised an exception, or took its host down. -/
  | faulted (message : String)
deriving DecidableEq, Repr, Inhabited

/-- What starting a method did: how it ended, the files afterwards, and what it printed. -/
structure InvokeResult where
  outcome : Except ToolError Invocation
  files : FileSystem
  printed : Console

structure LoadedModule where
  /-- Whether it defines a type of exactly this name. -/
  hasType : String → Bool
  exportedTypes : Except ToolError (List TypeInfo)
  /-- Starts a static method. No argument list is given to a method without parameters. -/
  invoke : String → String → Option (List String) → FileSystem → InvokeResult

/-- A loader opens module files and leaves everything as it is. -/
structure Loader where
  load : Path → FileSystem → Except ToolError LoadedModule × FileSystem
  leaves (path : Path) (files : FileSystem) : (load path files).2 = files

/-- What a loader tells of a path. The files it gives back are the same, by `Loader.leaves`. -/
def Loader.look (loader : Loader) (path : Path) (files : FileSystem) :
    Except ToolError LoadedModule :=
  (loader.load path files).1

end ScriptBuild
