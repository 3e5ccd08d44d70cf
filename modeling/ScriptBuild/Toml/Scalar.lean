import ScriptBuild.Decimal

/-!
# TOML numbers, dates and times

Which runs of characters are integers, floats, dates or times. Nothing here asks for their values:
the reader only has to tell them from mistakes, and out of range is a mistake.

A value that is no string is a run of the characters that may stand in one (`isScalarChar`), taken
whole, and then asked what it is. So a sign, a dot or a colon in a wrong place makes the run nothing
at all, rather than ending it early. Single underscores may stand between digits, nowhere else.

Integers have 64 bits. A decimal one has a sign if it likes and no leading zeros; the other bases
have no sign. Floats are checked for overflow by their digits and exponent (`Decimal.overflows`),
since a finite text must not mean an infinite value, and `inf` and `nan` are written out. A negative
float is accepted however large.

A date has a day of its month in its year. A time has seconds up to 60, any fraction of them, and a
zone only behind a date; date and time may be joined by a letter, or by a space where the run is put
together.
-/
namespace ScriptBuild.Toml.Scalar

def digitValue (c : Char) : Nat := c.toNat - 48

def isHexDigit (c : Char) : Bool := c.isDigit || ('a' ≤ c && c ≤ 'f') || ('A' ≤ c && c ≤ 'F')

/-- The rest of a group of digits, where single underscores may stand between two digits. -/
def groupRest (isDigit : Char → Bool) : List Char → List Char × List Char
  | '_' :: c :: rest =>
    if isDigit c then
      let (digits, rest) := groupRest isDigit rest
      (c :: digits, rest)
    else ([], '_' :: c :: rest)
  | c :: rest =>
    if isDigit c then
      let (digits, rest) := groupRest isDigit rest
      (c :: digits, rest)
    else ([], c :: rest)
  | [] => ([], [])

/-- A group of digits at the start, without its underscores, and the rest. -/
def group? (isDigit : Char → Bool) : List Char → Option (List Char × List Char)
  | c :: rest =>
    if isDigit c then
      let (digits, rest) := groupRest isDigit rest
      some (c :: digits, rest)
    else none
  | [] => none

/-- Takes a sign, if there is one: whether it is a minus, and the rest. -/
def sign : List Char → Bool × List Char
  | '-' :: rest => (true, rest)
  | '+' :: rest => (false, rest)
  | cs => (false, cs)

/-- A decimal integer without a sign, and the rest. A leading zero is all of it. -/
def whole? : List Char → Option (List Nat × List Char)
  | '0' :: rest => some ([0], rest)
  | cs => (group? Char.isDigit cs).map fun (digits, rest) => (digits.map digitValue, rest)

def inRange (negative : Bool) (value : Nat) : Bool :=
  if negative then value ≤ 1 <<< 63 else value < 1 <<< 63

/-- An exponent behind its letter, to the end. -/
def exponent? (cs : List Char) : Option Int :=
  let (negative, cs) := sign cs
  match group? Char.isDigit cs with
  | some (digits, []) =>
    let value := Decimal.value (digits.map digitValue)
    some (if negative then -value else value)
  | _ => none

/-- An exponent with its letter, or the end. -/
def power? : List Char → Option Int
  | [] => some 0
  | c :: rest => if c = 'e' ∨ c = 'E' then exponent? rest else none

/-- Whether a run is a decimal integer or a float. Only a negative float may overflow. -/
def isDecimal (cs : List Char) : Bool :=
  let (negative, cs) := sign cs
  match whole? cs with
  | none => cs = "inf".toList || cs = "nan".toList
  | some (digits, []) => inRange negative (Decimal.value digits)
  | some (digits, '.' :: rest) =>
    match group? Char.isDigit rest with
    | some (fraction, rest) =>
      match power? rest with
      | some power =>
        negative || !Decimal.overflows (digits ++ fraction.map digitValue) (power - fraction.length)
      | none => false
    | none => false
  | some (digits, rest) =>
    match power? rest with
    | some power => negative || !Decimal.overflows digits power
    | none => false

def hexValue (c : Char) : Nat :=
  if c.isDigit then c.toNat - 48 else if 'a' ≤ c then c.toNat - 87 else c.toNat - 55

/-- Whether all of a text is an integer of a base. -/
def isBased (base : Nat) (isDigit : Char → Bool) (cs : List Char) : Bool :=
  match group? isDigit cs with
  | some (digits, []) =>
    inRange false (digits.foldl (fun value c => base * value + hexValue c) 0)
  | _ => false

/-- A given number of digits at the start that spell a number in bounds, and the rest. -/
def field? (count low high : Nat) (cs : List Char) : Option (Nat × List Char) :=
  let digits := cs.take count
  let value := Decimal.value (digits.map digitValue)
  if digits.length = count ∧ digits.all Char.isDigit ∧ low ≤ value ∧ value ≤ high then
    some (value, cs.drop count)
  else none

/-- The rest behind a given character. -/
def after? (c : Char) : List Char → Option (List Char)
  | [] => none
  | d :: rest => if d = c then some rest else none

def daysIn (year month : Nat) : Nat :=
  if month = 2 then
    if year % 4 = 0 ∧ (year % 100 ≠ 0 ∨ year % 400 = 0) then 29 else 28
  else if month = 4 ∨ month = 6 ∨ month = 9 ∨ month = 11 then 30
  else 31

def date? (cs : List Char) : Option (List Char) := do
  let (year, cs) ← field? 4 0 9999 cs
  let cs ← after? '-' cs
  let (month, cs) ← field? 2 1 12 cs
  let cs ← after? '-' cs
  let (_, cs) ← field? 2 1 (daysIn year month) cs
  return cs

def clock? (cs : List Char) : Option (List Char) := do
  let (_, cs) ← field? 2 0 23 cs
  let cs ← after? ':' cs
  let (_, cs) ← field? 2 0 59 cs
  return cs

/-- Takes a time, with any fraction of a second. -/
def time? (cs : List Char) : Option (List Char) := do
  let cs ← clock? cs
  let cs ← after? ':' cs
  let (_, cs) ← field? 2 0 60 cs
  match cs with
  | '.' :: c :: rest => if c.isDigit then some (rest.dropWhile Char.isDigit) else none
  | cs => some cs

/-- Takes the distance from universal time, if it is given. -/
def zone? : List Char → Option (List Char)
  | [] => some []
  | c :: rest =>
    if c = 'Z' ∨ c = 'z' then some rest
    else if c = '+' ∨ c = '-' then clock? rest
    else none

/-- Whether a run is a time that may stand behind a date. -/
def isZonedTime (cs : List Char) : Bool := (time? cs).bind zone? == some []

def isDate (cs : List Char) : Bool := date? cs == some []

/-- Whether a run is a date and a time in one, a date alone or a time alone. -/
def isMoment (cs : List Char) : Bool :=
  match date? cs with
  | some [] => true
  | some (c :: rest) => (c == 'T' || c == 't') && isZonedTime rest
  | none => time? cs == some []

/-- A character of a number, date or time. -/
def isScalarChar (c : Char) : Bool :=
  c.isAlphanum || c == '_' || c == '+' || c == '-' || c == '.' || c == ':'

/-- Whether a run is a number. -/
def isNumber (cs : List Char) : Bool :=
  match cs with
  | '0' :: 'x' :: rest => isBased 16 isHexDigit rest
  | '0' :: 'o' :: rest => isBased 8 (fun c => '0' ≤ c && c ≤ '7') rest
  | '0' :: 'b' :: rest => isBased 2 (fun c => c == '0' || c == '1') rest
  | cs => isDecimal cs

end ScriptBuild.Toml.Scalar
