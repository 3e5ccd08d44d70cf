import ScriptBuild.Dependency
import ScriptBuild.Script.Mode
import ScriptBuild.Text.Count

/-!
# Resolving a script's dependencies

The walk goes depth first through the headers. An included source file is recorded and walked to
its end before the file that includes it goes on, and only on its first inclusion: what tells is
whether its key is new. So a file whose key a library, a binary or another file has already taken
is neither recorded nor walked. The stack holds the files being walked, the innermost first; each
remembers the header line that included it, so that an error can be blamed on every include that
led to it.

Before a source file is recorded its mode is read, and it has to be complex; a binary is recorded
without being opened further, and a module without the marker type is refused. The entry script is
walked first and recorded by nothing but an include that leads back to it.

Nothing is written meanwhile, so one file system serves the whole walk. What a file is comes from a
`Probe`, which is asked again at every include.

The walk ends because every file it opens is recorded under a new key, the text of a path short
enough to be opened, and there are only so many of those. `room` counts what is left of them; it
goes down when a file is opened, and between two openings header lines are used up.

**Results.**
* `room_lt_of_apply`, `room_le_of_apply`: opening a file uses up room, and nothing gives it back.
-/
namespace ScriptBuild

/-- What a walk needs besides the files. -/
structure Resolver where
  probe : Probe
  /-- Where bracketed includes are looked for. -/
  reference : Path
  /-- The type that marks a module as a script binary. -/
  marker : String

structure Frame where
  scan : HeaderScan
  /-- The header line of the file outside that included this one. -/
  origin : Nat
deriving DecidableEq, Repr, Inhabited

namespace Frame

def file (frame : Frame) : Path := frame.scan.file

end Frame

namespace Resolution

/-- The keys that are texts of paths that can be opened. -/
def shortKeys (found : Resolution) : List String :=
  found.keys.filter (·.length < FileSystem.pathLimit)

/-- A bound on how many files can still be opened. -/
def room (found : Resolution) : Nat :=
  Text.shortCount FileSystem.pathLimit - found.shortKeys.length

theorem length_shortKeys_le (found : Resolution) :
    found.shortKeys.length ≤ Text.shortCount FileSystem.pathLimit := by
  refine Text.length_le_shortCount (List.Pairwise.filter _ found.distinct) fun text h => ?_
  simpa using (List.mem_filter.mp h).2

theorem room_le_of_insert? {found after : Resolution} {dependency : Dependency}
    (h : found.insert? dependency = some after) : after.room ≤ found.room := by
  have : found.shortKeys.length ≤ after.shortKeys.length := by
    simp [shortKeys, keys_of_insert? h]
  unfold room
  omega

theorem room_le_insert (found : Resolution) (dependency : Dependency) :
    (found.insert dependency).room ≤ found.room := by
  unfold insert
  cases h : found.insert? dependency with
  | none => exact Nat.le_refl _
  | some after => exact room_le_of_insert? h

theorem room_lt_of_insert? {found after : Resolution} {dependency : Dependency}
    (h : found.insert? dependency = some after)
    (short : dependency.key.length < FileSystem.pathLimit) : after.room < found.room := by
  have hlen : after.shortKeys.length = found.shortKeys.length + 1 := by
    simp [shortKeys, keys_of_insert? h, List.filter_append, short]
  have := length_shortKeys_le after
  unfold room
  omega

end Resolution

namespace Resolver

def openFile (resolver : Resolver) (files : FileSystem) (file : Path) (origin : Nat) :
    Except Failure Frame :=
  match Source.header files file with
  | .error failure => .error failure
  | .ok header => .ok ⟨HeaderScan.start file header resolver.reference, origin⟩

/-- Blames a failure on the include at a line of a file. -/
def blame (file : Path) (line : Nat) (cause : Failure) : Failure :=
  .causedBy ⟨file, line, .includeFailed⟩ cause

/-- What following one directive gives: all that is found then, and the file to walk next. -/
structure Applied where
  found : Resolution
  opened : Option Frame

/-- Includes a source file: it has to be complex, and is walked only if it is new. -/
def includeSource (resolver : Resolver) (files : FileSystem) (found : Resolution) (file : Path)
    (line : Nat) (target : Path) : Except Failure Applied :=
  match Mode.declared files target with
  | .error cause => .error (blame file line cause)
  | .ok mode =>
    if mode ≠ .complex then .error (.directive ⟨file, line, .notComplex target⟩)
    else match found.insert? (.file target) with
      | none => .ok ⟨found, none⟩
      | some found =>
        match resolver.openFile files target line with
        | .error cause => .error (blame file line cause)
        | .ok frame => .ok ⟨found, some frame⟩

/-- Follows the directive at a line of a file. -/
def apply (resolver : Resolver) (files : FileSystem) (found : Resolution) (file : Path)
    (line : Nat) : Directive → Except Failure Applied
  | .mode _ => .ok ⟨found, none⟩
  | .reference name => .ok ⟨found.insert (.library name), none⟩
  | .includes target =>
    match ScriptKind.of resolver.probe resolver.marker files target with
    | .error cause => .error (blame file line cause)
    | .ok .binary => .ok ⟨found.insert (.binary target), none⟩
    | .ok .source => resolver.includeSource files found file line target
    | .ok .invalid => .error (.directive ⟨file, line, .notScriptBinary target⟩)

/-- Blames a failure in the innermost file on every include that led to it. -/
def unwind : List Frame → Failure → Failure
  | inner :: outer :: rest, failure =>
    unwind (outer :: rest) (blame outer.file inner.origin failure)
  | _, failure => failure

theorem checkFile_short {files : FileSystem} {path : Path}
    (h : Source.checkFile files path = .ok ()) :
    path.octets.length < FileSystem.pathLimit := by
  unfold Source.checkFile at h
  split at h
  · cases h
  · split at h
    · rename_i hfile
      unfold FileSystem.isFile FileSystem.find? at hfile
      cases hr : files.resolve path with
      | ok place => exact FileSystem.length_octets_of_resolve hr
      | error e => simp [hr] at hfile
    · cases h

theorem short_of_kind {probe : Probe} {marker : String} {files : FileSystem} {path : Path}
    {kind : ScriptKind} (h : ScriptKind.of probe marker files path = .ok kind) :
    path.text.length < FileSystem.pathLimit := by
  unfold ScriptKind.of at h
  split at h
  · cases h
  · rename_i hcheck
    exact Nat.lt_of_le_of_lt path.length_text_le (checkFile_short hcheck)

theorem room_of_includeSource {resolver : Resolver} {files : FileSystem} {found : Resolution}
    {file target : Path} {line : Nat} {applied : Applied}
    (h : resolver.includeSource files found file line target = .ok applied)
    (short : target.text.length < FileSystem.pathLimit) :
    applied.found.room ≤ found.room ∧
      (applied.opened.isSome → applied.found.room < found.room) := by
  unfold includeSource at h
  split at h
  · cases h
  · split at h
    · cases h
    · split at h
      · cases h
        simp
      · rename_i after hins
        have hlt := Resolution.room_lt_of_insert? hins short
        split at h
        · cases h
        · cases h
          exact ⟨Nat.le_of_lt hlt, fun _ => hlt⟩

theorem room_of_apply {resolver : Resolver} {files : FileSystem} {found : Resolution}
    {file : Path} {line : Nat} {directive : Directive} {applied : Applied}
    (h : resolver.apply files found file line directive = .ok applied) :
    applied.found.room ≤ found.room ∧
      (applied.opened.isSome → applied.found.room < found.room) := by
  cases directive with
  | mode name =>
    cases h
    simp
  | reference name =>
    cases h
    simp [Resolution.room_le_insert]
  | includes target =>
    simp only [apply] at h
    split at h
    · cases h
    · cases h
      simp [Resolution.room_le_insert]
    · rename_i hkind
      exact room_of_includeSource h (short_of_kind hkind)
    · cases h

theorem room_le_of_apply {resolver : Resolver} {files : FileSystem} {found : Resolution}
    {file : Path} {line : Nat} {directive : Directive} {applied : Applied}
    (h : resolver.apply files found file line directive = .ok applied) :
    applied.found.room ≤ found.room :=
  (room_of_apply h).1

theorem room_lt_of_apply {resolver : Resolver} {files : FileSystem} {found : Resolution}
    {file : Path} {line : Nat} {directive : Directive} {applied : Applied} {frame : Frame}
    (h : resolver.apply files found file line directive = .ok applied)
    (opened : applied.opened = some frame) : applied.found.room < found.room :=
  (room_of_apply h).2 (by simp [opened])

/-- The header lines still to read, and one for each file on the stack. -/
def workLeft : List Frame → Nat
  | [] => 0
  | frame :: outer => frame.scan.rest.length + 1 + workLeft outer

/-- Walks the files on the stack to their ends. -/
def walk (resolver : Resolver) (files : FileSystem) (found : Resolution) :
    List Frame → Except Failure Resolution
  | [] => .ok found
  | frame :: outer =>
    match _hnext : frame.scan.next files with
    | (none, _) => resolver.walk files found outer
    | (some (.error error), after) =>
      .error (unwind ({ frame with scan := after } :: outer) (.directive error))
    | (some (.ok (line, directive)), after) =>
      match _happly : resolver.apply files found frame.file line directive with
      | .error failure => .error (unwind ({ frame with scan := after } :: outer) failure)
      | .ok applied =>
        match _hopened : applied.opened with
        | none => resolver.walk files applied.found ({ frame with scan := after } :: outer)
        | some inner =>
          resolver.walk files applied.found (inner :: { frame with scan := after } :: outer)
termination_by stack => (found.room, workLeft stack)
decreasing_by
  · exact Prod.Lex.right _ (by simp [workLeft])
  · have hle := room_le_of_apply _happly
    have hshort := HeaderScan.next_shortens _hnext
    rcases Nat.lt_or_eq_of_le hle with hlt | heq
    · exact Prod.Lex.left _ _ hlt
    · rw [heq]
      exact Prod.Lex.right _ (by simp only [workLeft]; omega)
  · exact Prod.Lex.left _ _ (room_lt_of_apply _happly _hopened)

/-- All dependencies of a script. The script itself is not one of them, unless it is included. -/
def resolve (resolver : Resolver) (files : FileSystem) (script : Path) :
    Except Failure Resolution :=
  match Source.canonical files script with
  | .error failure => .error failure
  | .ok root =>
    match resolver.openFile files root 0 with
    | .error failure => .error failure
    | .ok frame => resolver.walk files .empty [frame]

end Resolver

end ScriptBuild
