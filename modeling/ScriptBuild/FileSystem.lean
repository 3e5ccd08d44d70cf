import ScriptBuild.Path

/-!
# File systems

A file system is a finite tree of regular files, directories and symbolic links, together with the
working directory. A *place* is a spot in the tree, written as the names on the way down from the
root; names are octets, as the system keeps them. Finding the place a path denotes follows links
and goes up at `..` from where it really is, so a place is the canonical form of every path that
leads to it.

One walk serves three purposes, which differ in what they refuse. To use what a path denotes,
everything on the way has to exist. To write a file, the last name may be new. To spell a path out,
one place after the other is looked up by its canonical path, so there it is those that have to be
short and free of zeros, not the path itself. The limits are those a Unix kernel keeps: 40 links in
one look-up, 255 octets in a name, 4095 octets in a path.

Reading, writing, creating and removing are defined by the walk. Left out are permissions, times,
owners, hard links and special files, and nothing else writes to the tree meanwhile: what an
operation leaves is what the next one finds, unless a program is started in between.

**Results.**
* `node?_set_self`, `node?_set_of_ne`, `node?_erase_of_ne`: a change at one place is seen there and
  nowhere else.
* `length_octets_of_resolve`: only short paths denote anything.
-/
namespace ScriptBuild

open Text.Utf8 (Bytes)

/-- The names on the way down from the root. -/
abbrev Place := List Bytes

/-- The canonical path of a place. -/
def Place.path (place : Place) : Path := ⟨Path.slash :: [Path.slash].intercalate place⟩

/-- What can stand at a place. -/
inductive Node
  | file (content : Bytes)
  | directory
  | link (target : Path)
deriving DecidableEq, Repr, Inhabited

/-- Why the file system refused a request. -/
inductive IoError
  | missing
  | notADirectory
  | isADirectory
  | tooManyLinks
  | nameTooLong
  | nameTaken
  | zeroInName
  | zeroInArgument
  | notUtf8
  | other (text : String)
deriving DecidableEq, Repr, Inhabited

def IoError.message : IoError → String
  | .missing => "No such file or directory (os error 2)"
  | .notADirectory => "Not a directory (os error 20)"
  | .isADirectory => "Is a directory (os error 21)"
  | .tooManyLinks => "Too many levels of symbolic links (os error 40)"
  | .nameTooLong => "File name too long (os error 36)"
  | .nameTaken => "File exists (os error 17)"
  | .zeroInName => "file name contained an unexpected NUL byte"
  | .zeroInArgument => "nul byte found in provided data"
  | .notUtf8 => "stream did not contain valid UTF-8"
  | .other text => text

/-- A tree of nodes and the working directory. The root is always a directory. -/
structure FileSystem where
  nodes : List (Place × Node)
  cwd : Place
deriving Repr, Inhabited

namespace FileSystem

def node? (files : FileSystem) (place : Place) : Option Node :=
  if place = [] then some .directory else files.nodes.lookup place

def set (files : FileSystem) (place : Place) (node : Node) : FileSystem :=
  { files with nodes := (place, node) :: files.nodes.filter (·.1 != place) }

def erase (files : FileSystem) (place : Place) : FileSystem :=
  { files with nodes := files.nodes.filter (·.1 != place) }

/-- The most links one look-up follows. -/
def linkLimit : Nat := 40

def nameLimit : Nat := 255

/-- One more than the most octets in a path. -/
def pathLimit : Nat := 4096

/-- What a look-up is for. -/
inductive Purpose
  /-- Using what exists. -/
  | use
  /-- Writing a file, which need not exist yet. -/
  | write
  /-- Spelling out the canonical path of what exists. -/
  | spell
deriving DecidableEq, Repr, Inhabited

/-- Why the name that stands before `rest` in a path is refused in the directory `here` without
being looked up: a file to be written has no slash behind its name, and a place can be spelled out
only if its path is short and holds no zero. -/
def refusal? (purpose : Purpose) (here : Place) (name : Bytes) (rest : List Bytes) :
    Option IoError :=
  match purpose with
  | .use => none
  | .write => if rest ≠ [] ∧ rest.all (· == []) then some .isADirectory else none
  | .spell =>
    if name.contains 0 then some .zeroInName
    else if pathLimit ≤ (Place.path (here ++ [name])).octets.length then some .nameTooLong
    else none

/-- Walks down from `here` along the parts of a path, following at most `links` links. -/
def walk (files : FileSystem) (purpose : Purpose) (links : Nat) (here : Place) :
    List Bytes → Except IoError Place
  | [] => .ok here
  | part :: rest =>
    match files.node? here with
    | none => .error .missing
    | some (.file _) => .error .notADirectory
    | some (.link _) => .error .notADirectory
    | some .directory =>
      if part = [] ∨ part = [Path.dot] then files.walk purpose links here rest
      else if part = [Path.dot, Path.dot] then files.walk purpose links here.dropLast rest
      else match refusal? purpose here part rest with
        | some error => .error error
        | none =>
          match files.node? (here ++ [part]) with
          | none =>
            if nameLimit < part.length then .error .nameTooLong
            else if purpose = .write ∧ rest = [] then .ok (here ++ [part])
            else .error .missing
          | some (.link target) =>
            match links with
            | 0 => .error .tooManyLinks
            | links + 1 =>
              files.walk purpose links (if target.isAbsolute then [] else here)
                (target.parts ++ rest)
          | some _ => files.walk purpose links (here ++ [part]) rest
termination_by parts => (links, parts.length)

/-- Finds the place of a path, seen from the working directory. To spell a path out, the working
directory is spelled out first. -/
def locate (files : FileSystem) (purpose : Purpose) (path : Path) : Except IoError Place :=
  if path.octets.isEmpty then .error .missing
  else if path.octets.contains 0 then .error .zeroInName
  else if purpose = .spell then
    files.walk .spell linkLimit [] (files.cwd.path.join path).parts
  else if pathLimit ≤ path.octets.length then .error .nameTooLong
  else files.walk purpose linkLimit (if path.isAbsolute then [] else files.cwd) path.parts

/-- The place an existing path denotes. -/
def resolve (files : FileSystem) (path : Path) : Except IoError Place := files.locate .use path

def find? (files : FileSystem) (path : Path) : Option Node :=
  match files.resolve path with
  | .ok place => files.node? place
  | .error _ => none

def isFile (files : FileSystem) (path : Path) : Bool :=
  match files.find? path with
  | some (.file _) => true
  | _ => false

/-- The canonical path of an existing path. -/
def canonical (files : FileSystem) (path : Path) : Except IoError Path :=
  (files.locate .spell path).map Place.path

/-- The canonical path where there is one, else the path made absolute as it is written. -/
def fullPath (files : FileSystem) (path : Path) : Path :=
  match files.canonical path with
  | .ok full => full
  | .error _ => Path.absolute files.cwd.path path

def read (files : FileSystem) (path : Path) : Except IoError Bytes :=
  match files.resolve path with
  | .error e => .error e
  | .ok place =>
    match files.node? place with
    | some (.file content) => .ok content
    | some .directory => .error .isADirectory
    | _ => .error .missing

/-- The text of a file that is UTF-8 throughout. -/
def readText (files : FileSystem) (path : Path) : Except IoError String :=
  match files.read path with
  | .error e => .error e
  | .ok content =>
    match Text.Utf8.decode? content with
    | some text => .ok text
    | none => .error .notUtf8

/-- Writes a regular file, following a link at the end of the path. -/
def write (files : FileSystem) (path : Path) (content : Bytes) : Except IoError FileSystem :=
  match files.locate .write path with
  | .error e => .error e
  | .ok place =>
    match files.node? place with
    | some .directory => .error .isADirectory
    | _ => .ok (files.set place (.file content))

/-- The place of an entry in a directory: a link at the end of the path is not followed. -/
def entry (files : FileSystem) (path : Path) : Except IoError Place :=
  match path.parts.getLast? with
  | none => .error .missing
  | some name =>
    if path.octets.contains 0 then .error .zeroInName
    else if pathLimit ≤ path.octets.length then .error .nameTooLong
    else if name = [] ∨ name = [Path.dot] ∨ name = [Path.dot, Path.dot] then .error .isADirectory
    else
      match files.walk .use linkLimit (if path.isAbsolute then [] else files.cwd)
          path.parts.dropLast with
      | .ok here =>
        if files.node? here = some .directory then .ok (here ++ [name]) else .error .notADirectory
      | .error e => .error e

/-- Removes a file or a link. Nothing changes when there is none, or a directory. -/
def remove (files : FileSystem) (path : Path) : FileSystem :=
  match files.entry path with
  | .error _ => files
  | .ok place =>
    match files.node? place with
    | some (.file _) | some (.link _) => files.erase place
    | _ => files

@[simp] theorem node?_root (files : FileSystem) : files.node? [] = some .directory := rfl

theorem lookup_filter_ne {α β : Type} [BEq α] [LawfulBEq α] {a b : α} (h : a ≠ b)
    (l : List (α × β)) : (l.filter (·.1 != b)).lookup a = l.lookup a := by
  induction l with
  | nil => rfl
  | cons x l ih =>
    obtain ⟨k, v⟩ := x
    by_cases hk : k = b
    · subst hk
      have hak : (a == k) = false := by simpa using h
      simp [List.lookup_cons, hak, ih]
    · have hkb : (k != b) = true := by simpa using hk
      simp only [List.filter_cons, hkb, if_true, List.lookup_cons, ih]

theorem lookup_filter_self {α β : Type} [BEq α] [LawfulBEq α] (b : α) (l : List (α × β)) :
    (l.filter (·.1 != b)).lookup b = none := by
  induction l with
  | nil => rfl
  | cons x l ih =>
    obtain ⟨k, v⟩ := x
    by_cases hk : k = b
    · subst hk
      simp [ih]
    · have hkb : (k != b) = true := by simpa using hk
      have hbk : (b == k) = false := by simpa using Ne.symm hk
      simp [hkb, List.lookup_cons, hbk, ih]

theorem node?_set_self {files : FileSystem} {place : Place} (h : place ≠ []) (node : Node) :
    (files.set place node).node? place = some node := by
  simp [node?, set, h]

theorem node?_set_of_ne {files : FileSystem} {place other : Place} (h : other ≠ place)
    (node : Node) : (files.set place node).node? other = files.node? other := by
  have hb : (other == place) = false := by simpa using h
  unfold node? set
  split
  · rfl
  · simp [List.lookup_cons, hb, lookup_filter_ne h]

theorem node?_erase_of_ne {files : FileSystem} {place other : Place} (h : other ≠ place) :
    (files.erase place).node? other = files.node? other := by
  unfold node? erase
  split
  · rfl
  · simp [lookup_filter_ne h]

theorem node?_erase_self {files : FileSystem} {place : Place} (h : place ≠ []) :
    (files.erase place).node? place = none := by
  simp [node?, erase, h, lookup_filter_self]

theorem length_octets_of_resolve {files : FileSystem} {path : Path} {place : Place}
    (h : files.resolve path = .ok place) : path.octets.length < pathLimit := by
  unfold resolve locate at h
  split at h
  · cases h
  · split at h
    · cases h
    · rw [if_neg (by decide)] at h
      split at h
      · cases h
      · rename_i hshort
        exact Nat.lt_of_not_le hshort

end FileSystem

end ScriptBuild
