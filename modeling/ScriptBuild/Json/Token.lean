import ScriptBuild.Json.Numeral
import ScriptBuild.Text.Utf8

/-!
# JSON tokens

Octets are cut into tokens. Ill-formed UTF-8 inside a string, and an escaped surrogate without its
partner, do not stop the cutting: such a string is a token that stands for no text, and whoever
needs its text refuses it.

The input is what `Text.Utf8` makes of octets, characters with marks between them where octets are
ill formed. Outside of strings a mark is an error. Inside of one it makes the string a token without
a text, as an escaped surrogate does that has no partner: two escapes in a row can stand for one
character, so the pieces of a string are put together only when it has ended.

Everything else is cut by its first character. A letter opens a run of small letters and a character
of a number a run of such characters; a run that is no token refuses the whole text. Blanks separate
tokens and are dropped. The cutting goes on behind a string, so that it ends is no matter of
structure: each token uses up at least one character, and reading a string leaves less than it was
given.

**Results.**
* `length_rest_of_readString`: reading a string leaves less to read.
-/
namespace ScriptBuild.Json

open Text.Utf8 (Bytes Marked)

/-- A string's text; `none` if it stands for no text. -/
abbrev Word := Option String

inductive Token
  | openArray
  | closeArray
  | openObject
  | closeObject
  | comma
  | colon
  | null
  | bool (value : Bool)
  | number (numeral : Numeral)
  | string (word : Word)
deriving DecidableEq, Repr, Inhabited

namespace Token

/-- A part of a string. -/
inductive Piece
  | char (c : Char)
  /-- A 16-bit unit, given by its number. -/
  | unit (value : Nat)
  /-- Octets that are not UTF-8. -/
  | broken
deriving DecidableEq, Repr, Inhabited

/-- The character of a pair of surrogates. -/
def paired (high low : Nat) : Char :=
  Char.ofNat (0x10000 + (high - 0xD800) * 0x400 + (low - 0xDC00))

/-- The text that pieces stand for. A high surrogate has to come before a low one. -/
def textOf : List Piece → Option (List Char)
  | [] => some []
  | .char c :: rest => (textOf rest).map (c :: ·)
  | .broken :: _ => none
  | .unit high :: .unit low :: rest =>
    if 0xD800 ≤ high ∧ high < 0xDC00 then
      if 0xDC00 ≤ low ∧ low < 0xE000 then (textOf rest).map (paired high low :: ·) else none
    else if 0xDC00 ≤ high ∧ high < 0xE000 then none
    else (textOf (.unit low :: rest)).map (Char.ofNat high :: ·)
  | .unit value :: rest =>
    if 0xD800 ≤ value ∧ value < 0xE000 then none
    else (textOf rest).map (Char.ofNat value :: ·)

def hexValue? (c : Char) : Option Nat :=
  if '0' ≤ c ∧ c ≤ '9' then some (c.toNat - 48)
  else if 'a' ≤ c ∧ c ≤ 'f' then some (c.toNat - 87)
  else if 'A' ≤ c ∧ c ≤ 'F' then some (c.toNat - 55)
  else none

def unitValue? (a b c d : Option Char) : Option Nat := do
  let digits ← [← a, ← b, ← c, ← d].mapM hexValue?
  return digits.foldl (fun value digit => 16 * value + digit) 0

def escaped? : Char → Option Char
  | '"' => some '"'
  | '\\' => some '\\'
  | '/' => some '/'
  | 'b' => some '\x08'
  | 'f' => some '\x0C'
  | 'n' => some '\n'
  | 'r' => some '\r'
  | 't' => some '\t'
  | _ => none

/-- Reads a string behind its opening quote. The pieces read so far are given backwards. -/
def readString (back : List Piece) : Marked → Option (List Piece × Marked)
  | [] => none
  | none :: rest => readString (.broken :: back) rest
  | some c :: rest =>
    if c = '"' then some (back.reverse, rest)
    else if c = '\\' then
      match rest with
      | some 'u' :: x :: y :: z :: w :: rest =>
        match unitValue? x y z w with
        | some value => readString (.unit value :: back) rest
        | none => none
      | some letter :: rest =>
        match escaped? letter with
        | some c => readString (.char c :: back) rest
        | none => none
      | _ => none
    else if c.toNat < 0x20 then none
    else readString (.char c :: back) rest

theorem length_rest_of_readString {back pieces : List Piece} {cs rest : Marked}
    (h : readString back cs = some (pieces, rest)) : rest.length < cs.length := by
  fun_induction readString back cs with
  | case1 => cases h
  | case2 back rest' ih => exact Nat.lt_succ_of_lt (ih h)
  | case3 back rest' => cases h; simp
  | case4 back x y z w rest' value hv _ ih =>
    have := ih h
    simp only [List.length_cons]
    omega
  | case5 => cases h
  | case6 back letter rest' _ c hc _ ih =>
    have := ih h
    simp only [List.length_cons]
    omega
  | case7 => cases h
  | case8 => cases h
  | case9 => cases h
  | case10 back c rest' _ _ _ ih => exact Nat.lt_succ_of_lt (ih h)

def isSpace (c : Char) : Bool := c == ' ' || c == '\n' || c == '\t' || c == '\r'

/-- A token of one character. -/
def mark? : Char → Option Token
  | '[' => some .openArray
  | ']' => some .closeArray
  | '\x7b' => some .openObject
  | '\x7d' => some .closeObject
  | ',' => some .comma
  | ':' => some .colon
  | _ => none

/-- A token spelled in letters. -/
def named? (name : List Char) : Option Token :=
  if name = "null".toList then some .null
  else if name = "true".toList then some (.bool true)
  else if name = "false".toList then some (.bool false)
  else none

def isNumeric (c : Char) : Bool :=
  c.isDigit || c == '-' || c == '+' || c == '.' || c == 'e' || c == 'E'

/-- A character of a class. -/
def isIn (class_ : Char → Bool) (c : Option Char) : Bool := c.any class_

/-- A token that is a run of letters, or of characters of a number. -/
def run? (numeric : Bool) (run : List Char) : Option Token :=
  if numeric then (Numeral.read? run).map .number else named? run

/-- Cuts the rest of a text into tokens. Those found so far are given backwards. -/
def scan (back : List Token) : Marked → Option (List Token)
  | [] => some back.reverse
  | none :: _ => none
  | some c :: rest =>
    if isSpace c then scan back rest
    else if c = '"' then
      match _h : readString [] rest with
      | some (pieces, rest) => scan (.string ((textOf pieces).map String.ofList) :: back) rest
      | none => none
    else match mark? c with
      | some token => scan (token :: back) rest
      | none =>
        let class_ := if isNumeric c then isNumeric else Char.isLower
        match run? (isNumeric c) (c :: (rest.takeWhile (isIn class_)).filterMap id) with
        | some token => scan (token :: back) (rest.dropWhile (isIn class_))
        | none => none
termination_by cs => cs.length
decreasing_by
  · simp
  · have := length_rest_of_readString _h
    simp only [List.length_cons]
    omega
  · simp
  · exact Nat.lt_succ_of_le (List.dropWhile_sublist _).length_le

def ofBytes (bytes : Bytes) : Option (List Token) := scan [] (Text.Utf8.decodeFrom none bytes)

end Token

end ScriptBuild.Json
