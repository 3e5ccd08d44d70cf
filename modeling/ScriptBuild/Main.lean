import ScriptBuild.Command.Execution

/-!
# The command

Takes a picture of the files below the working directory, executes the command line on it, and
prints what comes of that. No other program can be started from here, so a compiler or a host is
reported as missing.

The picture is taken once, before the command starts, and what the command leaves in it is not
written back: what can be seen of an execution here is its exit status and its two streams. Links
are kept as links to where they lead in the end, so a chain of links has become one link, and a link
that leads nowhere is kept with an empty target, which leads nowhere either.

The names of generated classes are drawn here and handed on with the session, as are the lots for
temporary files; everything behind them is computed. A launcher that refuses to start anything
leaves the files alone, so it may serve as a module host.
-/
namespace ScriptBuild

/-- A launcher that starts nothing. -/
def Launcher.refusing : Launcher where
  start _ _ files := (.error .missing, files)

theorem Launcher.quiet_refusing : ModuleHost.Quiet Launcher.refusing := by
  intro program module files
  unfold Launcher.run
  split <;> rfl

/-- The nodes below a directory, whose place is given. A link is kept as a link to where it
leads. -/
partial def survey (place : Place) : IO (List (Place × Node)) := do
  let text := place.path.text
  let names ← (do
      let directory ← IO.FS.realPath text
      return (← directory.readDir).toList.map fun found => found.fileName) <|> pure []
  let found ← names.mapM fun name => do
    let spot := place ++ [Text.Utf8.encode name]
    let real ← (do return (← IO.FS.realPath spot.path.text).toString) <|> pure ""
    if real ≠ spot.path.text then return [(spot, .link ⟨real⟩)]
    let content ← (do return some (← IO.FS.readBinFile spot.path.text)) <|> pure none
    match content with
    | some octets => return [(spot, .file octets.toList)]
    | none => return (spot, .directory) :: (← survey spot)
  return found.flatten

/-- The places on the way to a place, which are directories. -/
def wayTo (place : Place) : List (Place × Node) :=
  (List.range place.length).map fun count => (place.take (count + 1), .directory)

def environment : IO Config.Environment := do
  let names := ["SCS_CONFIG", "SCS_COMPILER", "SCS_HOST", "SCS_REFERENCE_DIR"]
  return (← names.mapM fun name => do
    return (← IO.getEnv name).map fun value => (name, Text.Utf8.encode value)).filterMap id

/-- A lot for each six octets. -/
def lotOf (octets : List UInt8) : Option Lot :=
  let letters := octets.map fun octet => Text.Letters.letter (octet.toNat % 52)
  if h : letters.length = 6 ∧ letters.all Char.isAlphanum = true then some ⟨letters, h.1, h.2⟩
  else none

def draw : IO (Option Lot) := return lotOf (← IO.getRandomBytes 6).toList

end ScriptBuild

open ScriptBuild

def main (args : List String) : IO UInt32 := do
  let here := (← IO.currentDir).toString
  let place := (ScriptBuild.Path.ofText here).parts.filter (· ≠ [])
  let temporary : Place := ["tmp"]
  let files : FileSystem :=
    { nodes := (temporary, .directory) :: wayTo place ++ (← survey place), cwd := place }
  let surroundings : Command.Surroundings :=
    { launcher := .refusing
      quiet := Launcher.quiet_refusing
      environment := ← environment
      programDirectory := .ofText (← IO.appDir).toString
      temporary := temporary
      lots := (← draw).toList }
  let seed := (← IO.getRandomBytes 10).toList
  let session : Session := { files := files, names := .drawn seed 0, lots := (← draw).toList }
  let ending := Command.runLine surroundings args session
  let output ← IO.getStdout
  output.write (ByteArray.mk ending.console.out.toArray)
  let errors ← IO.getStderr
  errors.write (ByteArray.mk ending.console.err.toArray)
  return ending.exit.toUInt32
