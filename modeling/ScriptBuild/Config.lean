import ScriptBuild.Engine
import ScriptBuild.Toml.Document

/-!
# Configuration

A configuration has three sections: `engine`, `compiler` and `host`. Whatever a file does not say
keeps its default, what it says beyond that is ignored, and a value of the wrong kind makes the file
invalid. A section may also be written as an array, its fields in their order, or as a date or time,
which stands for a section that says nothing.

The file is the one asked for on the command line, else the one the environment names, else one
beside the program if there is one; otherwise there is no file and the defaults are seen from beside
the program. A relative reference directory is seen from the file's directory. Environment variables
override single settings last of all, and their paths are seen from nowhere in particular.

Variables are octets. The one that names the file is taken as it is, because it is a path; the
others are texts, and one that is not UTF-8 counts as absent. The words in which a faulty document
is refused stand for the reader's own, which are not modelled.

What is read is checked as a whole: a configuration is made from the table of a document or refused,
and nothing is taken from a document that is refused. The order in which settings win is the file
over the defaults and the environment over the file, so `override` comes last in `load`, and only
what the command line says of the build itself is put in front of that later.
-/
namespace ScriptBuild

structure Config where
  engine : Settings := {}
  compiler : Program := ⟨"mcs", []⟩
  host : Program := ⟨"scs-host", []⟩
deriving DecidableEq, Repr, Inhabited

inductive ConfigError
  | unreadable (path : Path) (cause : IoError)
  | invalid (path : Path)
deriving DecidableEq, Repr, Inhabited

def ConfigError.message : ConfigError → String
  | .unreadable path cause => "failed to read config '" ++ path.text ++ "': " ++ cause.message
  | .invalid path =>
    "invalid config '" ++ path.text ++ "': TOML parse error: not a configuration\n"

namespace Config

open Toml (Item Entries)
open Text.Utf8 (Bytes)

/-- Named fields of a section; an array gives them by position, a moment gives none. -/
def field? (names : List String) (section_ : Item) : Option (String → Option Item) :=
  match section_ with
  | .table _ entries => some fun name => entries.lookup name
  | .array items => some fun name => (names.zip items).lookup name
  | .rows back =>
    some fun name => (names.zip (back.reverse.map (Item.table .header))).lookup name
  | .moment => some fun _ => none
  | _ => none

def text? : Item → Option String
  | .text value => some value
  | _ => none

def path? (item : Item) : Option Path := (text? item).map .ofText

def bool? : Item → Option Bool
  | .bool value => some value
  | _ => none

def texts? : Item → Option (List String)
  | .array items => items.mapM text?
  | _ => none

/-- A value that may be left out. One that is there has to be of the right kind. -/
def given (read : Item → Option α) (absent : α) : Option Item → Option α
  | none => some absent
  | some item => read item

def settings? (section_ : Item) : Option Settings := do
  let field ← field? ["reference_dir", "marker_type", "default_references", "optimize"] section_
  let defaults : Settings := {}
  return {
    reference := ← given path? defaults.reference (field "reference_dir")
    marker := ← given text? defaults.marker (field "marker_type")
    defaults := ← given texts? defaults.defaults (field "default_references")
    optimize := ← given bool? defaults.optimize (field "optimize") }

def program? (default : Program) (section_ : Item) : Option Program := do
  let field ← field? ["program", "args"] section_
  return {
    name := ← given text? default.name (field "program")
    args := ← given texts? default.args (field "args") }

def ofEntries? (entries : Entries) : Option Config := do
  let defaults : Config := {}
  return {
    engine := ← given settings? defaults.engine (entries.lookup "engine")
    compiler := ← given (program? defaults.compiler) defaults.compiler (entries.lookup "compiler")
    host := ← given (program? defaults.host) defaults.host (entries.lookup "host") }

/-- Sees a relative reference directory from a base. -/
def rebase (base : Path) (config : Config) : Config :=
  { config with engine := { config.engine with reference := base.join config.engine.reference } }

/-- The configuration that a text gives, its paths seen from a base. -/
def ofText? (text : String) (base : Path) : Option Config :=
  ((Toml.Document.read? text).bind ofEntries?).map (rebase base)

abbrev Environment := List (String × Bytes)

/-- The value of a variable that is a text. -/
def Environment.text? (environment : Environment) (name : String) : Option String :=
  (environment.lookup name).bind Text.Utf8.decode?

/-- Puts what the environment says in place of the settings. -/
def override (environment : Environment) (config : Config) : Config :=
  { engine := { config.engine with
      reference := ((environment.text? "SCS_REFERENCE_DIR").map .ofText).getD
        config.engine.reference }
    compiler := { config.compiler with
      name := (environment.text? "SCS_COMPILER").getD config.compiler.name }
    host := { config.host with name := (environment.text? "SCS_HOST").getD config.host.name } }

def fileName : String := "scs.toml"

/-- The file to read: the one asked for, else the one the environment names, else one beside the
program, if there is one. -/
def file? (files : FileSystem) (environment : Environment) (programDirectory : Path)
    (asked : Option Path) : Option Path :=
  match asked, environment.lookup "SCS_CONFIG" with
  | some path, _ => some path
  | none, some octets => some ⟨octets⟩
  | none, none =>
    let beside := programDirectory.join ⟨fileName⟩
    if files.isFile beside then some beside else none

def read (files : FileSystem) (path : Path) : Except ConfigError Config :=
  match files.readText path with
  | .error cause => .error (.unreadable path cause)
  | .ok text =>
    match ofText? text path.directory with
    | some config => .ok config
    | none => .error (.invalid path)

/-- Finds and reads the configuration of a run. -/
def load (files : FileSystem) (environment : Environment) (programDirectory : Path)
    (asked : Option Path) : Except ConfigError Config :=
  let found :=
    match file? files environment programDirectory asked with
    | some path => read files path
    | none => .ok (rebase programDirectory {})
  found.map (override environment)

end Config

end ScriptBuild
