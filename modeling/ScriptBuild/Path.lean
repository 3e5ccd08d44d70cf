import ScriptBuild.Text.Cut
import ScriptBuild.Text.Utf8

/-!
# Paths

A path is kept as the octets it was given in. The system asks nothing more of a name than to have
neither a slash nor a zero in it, so a path need not be the encoding of any text. Where a text is
wanted, as in a message or in the key of a dependency, `text` puts a replacement character for what
is ill-formed. Two different paths can therefore show the same text, and what goes by texts cannot
tell them apart.

Three notions of equality meet here. Paths are equal as data when their octets are. They are the
`same` when they start alike and have the same names, so that idle parts and repeated slashes make
no difference. And they show the same `text` when their octets decode alike. Equal octets imply the
other two, and neither of those implies anything: `/a/.` and `/a` are the same and are shown
differently, and two names that are no text can be shown alike.

The meaning of a path is read off its parts between slashes: an empty part or `.` stays where it is,
`..` goes up, any other part is a name. Everything here works on the octets alone; what exists is
the business of `FileSystem`.

**Results.**
* `join_absolute`: an absolute path replaces its base.
-/
namespace ScriptBuild

open Text.Utf8 (Bytes)

/-- A text stands for its octets. -/
instance : Coe String Bytes := ⟨Text.Utf8.encode⟩

/-- A path as written. -/
structure Path where
  octets : Bytes
deriving DecidableEq, Repr, Inhabited, Hashable

namespace Path

/-- What separates the parts of a path. -/
@[match_pattern] abbrev slash : UInt8 := 0x2F

/-- What the idle part and the way up are made of, and what opens an extension. -/
@[match_pattern] abbrev dot : UInt8 := 0x2E

def ofText (text : String) : Path := ⟨text⟩

/-- What is shown of a path. -/
def text (path : Path) : String := Text.Utf8.decodeLossy path.octets

def isAbsolute (path : Path) : Bool := path.octets.head? == some slash

/-- The parts between slashes, empty ones included. -/
def parts (path : Path) : List Bytes := Text.cutAll slash path.octets

/-- The parts that are not idle. -/
def names (path : Path) : List Bytes :=
  path.parts.filter fun part => part != [] && part != [dot]

/-- Octets with `inner` behind them, separated by one slash unless they end in one already. -/
def push (base inner : Bytes) : Bytes :=
  if base.isEmpty || base.getLast? == some slash then base ++ inner else base ++ slash :: inner

/-- A path as seen from `base`. -/
def join (base inner : Path) : Path :=
  if inner.isAbsolute then inner else ⟨push base.octets inner.octets⟩

/-- The start of a path that no name can take away: the slash of an absolute path, or the dot of
a path that starts at `.`. -/
def lead : Bytes → Bytes
  | slash :: _ => [slash]
  | [dot] => [dot]
  | dot :: slash :: _ => [dot]
  | _ => []

/-- Whether two paths start alike and go by the same names. -/
def same (path other : Path) : Bool :=
  lead path.octets == lead other.octets && path.names == other.names

/-- Drops parts that stay where they are from the end of a path given backwards. -/
def dropIdle : Bytes → Bytes
  | slash :: rest => dropIdle rest
  | dot :: slash :: rest => dropIdle rest
  | [dot] => []
  | rest => rest

/-- The last part that is not idle and what stands in front of it, both backwards and without the
lead; `none` if there is no such part. -/
def lastPart (path : Path) : Option (Bytes × Bytes) :=
  match dropIdle (path.octets.drop (lead path.octets).length).reverse with
  | [] => none
  | back => some (back.takeWhile (· != slash), back.dropWhile (· != slash))

/-- The path without its last part, as a beginning of the same octets. -/
def parent? (path : Path) : Option Path :=
  let head := lead path.octets
  match path.lastPart with
  | some (_, front) => some ⟨head ++ (dropIdle front).reverse⟩
  | none => if head == [dot] then some ⟨[]⟩ else none

/-- The directory that holds the path, empty where the path shows none. -/
def directory (path : Path) : Path := path.parent?.getD ⟨[]⟩

/-- A file name, backwards, without its last extension. A leading dot opens no extension. -/
def stemBack (name : Bytes) : Bytes :=
  match name.dropWhile (· != dot) with
  | dot :: stem => if stem.isEmpty then name else stem
  | _ => name

/-- The path with its last extension replaced, or one added if it has none. The old extension goes
first, and what then reads `..` is the way up and no name: it takes no extension, so `..x` becomes
`..`. -/
def withExtension (path : Path) (extension : Bytes) : Path :=
  match path.lastPart with
  | some (name, front) =>
    let stem := stemBack name
    let kept := lead path.octets ++ front.reverse ++ stem.reverse ++ [dot]
    if name == [dot, dot] then path
    else if stem == [dot] then ⟨kept⟩
    else ⟨kept ++ extension⟩
  | none => path

def append (path : Path) (suffix : Bytes) : Path := ⟨path.octets ++ suffix⟩

/-- The path made absolute as it is written: idle parts go, `..` and a final slash stay, and exactly
two leading slashes stay two. The empty path stays empty. -/
def absolute (cwd path : Path) : Path :=
  if path.octets.isEmpty then path
  else
    let start :=
      if path.isAbsolute then
        if path.octets.takeWhile (· == slash) == [slash, slash] then [slash, slash] else [slash]
      else cwd.octets
    let full := path.names.foldl push start
    ⟨if path.octets.getLast? == some slash then push full [] else full⟩

@[simp] theorem slash_ne_dot : slash ≠ dot := by decide

@[simp] theorem zero_ne_slash : (0 : UInt8) ≠ slash := by decide

theorem length_text_le (path : Path) : path.text.length ≤ path.octets.length :=
  Text.Utf8.length_decodeLossy_le _

theorem join_absolute {inner : Path} (h : inner.isAbsolute = true) (base : Path) :
    base.join inner = inner := by
  simp [join, h]

end Path

end ScriptBuild
