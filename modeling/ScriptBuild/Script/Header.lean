import ScriptBuild.Failure
import ScriptBuild.Text.Lines

/-!
# Script headers

The header of a script is its leading run of blank lines, `//` comments and `using` declarations.
Directives count only there; the first other line opens the body.

What a line is looked at for is its trimmed form, and trimmed lines are what a header consists of. A
line is not asked for its first word: `using` has to be followed by a space, and `//` by nothing in
particular, so a directive is a comment to everything that does not know it. The number of a header
line is its number in the file, because no line in front of it is left out.

`Source` has what is asked of a source file: that it is there, its canonical path, its text and its
header. Its octets need not be UTF-8. Ill-formed ones are read as replacement characters, so that a
faulty octet in a comment does no harm, and one byte order mark in front is dropped. The empty path
is told from one that leads nowhere, and a directory counts as missing.

**Results.**
* `scan_length_le`: the header is part of the text's lines, so its length is the index of the first
  body line.
-/
namespace ScriptBuild

open Text.Utf8 (Bytes)

namespace Header

/-- Whether a trimmed line may stand in a header. -/
def admits (line : List Char) : Bool :=
  line.isEmpty || "//".toList.isPrefixOf line || "using ".toList.isPrefixOf line

def isHeaderLine (line : String) : Bool := admits line.toList

/-- The trimmed header lines of a text given as characters. -/
def scanChars (cs : List Char) : List (List Char) :=
  ((Text.lineList cs).map Text.trimChars).takeWhile admits

def scan (text : String) : List String := (scanChars text.toList).map String.ofList

theorem scan_length_le (text : String) : (scan text).length ≤ (Text.lines text).length := by
  have h := (List.takeWhile_sublist admits
    (l := (Text.lineList text.toList).map Text.trimChars)).length_le
  simpa [scan, scanChars, Text.lines] using h

end Header

namespace Source

/-- Drops one byte order mark at the start. -/
def dropMark : List Char → List Char
  | '\uFEFF' :: rest => rest
  | cs => cs

/-- The text of a source file's octets. Ill-formed octets are replaced, not refused. -/
def decode (content : Bytes) : String :=
  String.ofList (dropMark (Text.Utf8.lossyChars content))

/-- Refuses the empty path and any path that does not lead to a regular file. -/
def checkFile (files : FileSystem) (path : Path) : Except Failure Unit :=
  if path.octets.isEmpty then .error .emptyPath
  else if files.isFile path then .ok ()
  else .error (.notFound path)

/-- The canonical path of an existing file. -/
def canonical (files : FileSystem) (path : Path) : Except Failure Path :=
  match checkFile files path with
  | .error failure => .error failure
  | .ok () =>
    match files.canonical path with
    | .ok full => .ok full
    | .error cause => .error (.io path cause)

def read (files : FileSystem) (path : Path) : Except Failure String :=
  match checkFile files path with
  | .error failure => .error failure
  | .ok () =>
    match files.read path with
    | .ok content => .ok (decode content)
    | .error cause => .error (.io path cause)

def header (files : FileSystem) (path : Path) : Except Failure (List String) :=
  (read files path).map Header.scan

end Source

end ScriptBuild
