import ScriptBuild.Script.Header
import ScriptBuild.Toolchain

/-!
# Kinds of script

A file that opens as a module with the marker type is a script binary, a module without it is
invalid, and a file that does not open as a module is source text. The file's name has no say in
this: a script may be called anything.

Why a file does not open makes no difference either. A text, a damaged module and a module host that
cannot be started all look alike here, and each is taken for source text; what is wrong then shows
when the text is compiled. A path that leads to no regular file is an error before any of this is
asked.

The probe is a function of the path and the files, asked anew each time. So one file may be of two
kinds at two times, as when a temporary module has been made meanwhile, and of two kinds by two
paths; nothing here assumes otherwise. What a probe gives of a module is which types it defines, by
their exact names, and only one name is asked for.
-/
namespace ScriptBuild

inductive ScriptKind
  | source
  | binary
  | invalid
deriving DecidableEq, Repr, Inhabited

/-- Tries to open a file as a module: `none` if it is none, else which types it defines. -/
abbrev Probe := FileSystem → Path → Option (String → Bool)

def Loader.probe (loader : Loader) : Probe := fun files path =>
  match loader.look path files with
  | .ok opened => some opened.hasType
  | .error _ => none

def ScriptKind.of (probe : Probe) (marker : String) (files : FileSystem) (path : Path) :
    Except Failure ScriptKind :=
  match Source.checkFile files path with
  | .error failure => .error failure
  | .ok () =>
    match probe files path with
    | none => .ok .source
    | some hasType => .ok (if hasType marker then .binary else .invalid)

end ScriptBuild
