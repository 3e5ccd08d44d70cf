import ScriptBuild.Decimal

/-!
# JSON numbers

A number is kept as it is written: sign, digits, fraction and exponent. What can be asked of it is
the integer it stands for, if it is written as one, and whether it fits a double.

The grammar is the strict one: no plus in front, no leading zero, a digit on each side of the point,
and at least one digit in an exponent. `read?` asks for all of a text to be one number, because
where a number ends is known by then.

An integer is a number without a point and without an exponent, so `1.0` and `1e0` are none, and the
negative zero is none either, because it is a floating-point number to its readers. Whether a number
fits a double is asked of every number in a text, needed or not. It is computed in the way of a
reader that keeps a significand of 64 bits, drops the digits that no longer fit, and multiplies by a
rounded power of ten; so a number close to the limit may be refused or taken differently from one
that is rounded exactly, and the model follows that reader.
-/
namespace ScriptBuild.Json

open Decimal (value roundToDouble doubleLimit)

/-- A number as written. The fraction is empty if there is no point. -/
structure Numeral where
  negative : Bool
  whole : List Nat
  fraction : List Nat
  exponent : Option Int
deriving DecidableEq, Repr, Inhabited

namespace Numeral

/-- The digits at the start, and the rest. -/
def digits (cs : List Char) : List Nat × List Char :=
  ((cs.takeWhile Char.isDigit).map fun c => c.toNat - 48, cs.dropWhile Char.isDigit)

/-- Reads the whole part: without a leading zero, unless that is all of it. -/
def readWhole (cs : List Char) : Option (List Nat × List Char) :=
  match digits cs with
  | ([], _) => none
  | (0 :: _ :: _, _) => none
  | found => some found

def readFraction : List Char → Option (List Nat × List Char)
  | '.' :: cs =>
    match digits cs with
    | ([], _) => none
    | found => some found
  | cs => some ([], cs)

def readSign : List Char → Bool × List Char
  | '-' :: cs => (true, cs)
  | '+' :: cs => (false, cs)
  | cs => (false, cs)

/-- Reads an exponent, to the end of the text. -/
def readExponent : List Char → Option (Option Int)
  | [] => some none
  | c :: cs =>
    if c = 'e' ∨ c = 'E' then
      let (negative, cs) := readSign cs
      match digits cs with
      | ([], _) => none
      | (found, []) => some (some (if negative then -value found else value found))
      | _ => none
    else none

/-- Reads a number that is all of a text. -/
def read? (cs : List Char) : Option Numeral := do
  let (negative, cs) := match cs with
    | '-' :: cs => (true, cs)
    | cs => (false, cs)
  let (whole, cs) ← readWhole cs
  let (fraction, cs) ← readFraction cs
  let exponent ← readExponent cs
  return ⟨negative, whole, fraction, exponent⟩

/-- The integer a number stands for, if it has neither point nor exponent. A negative zero is not
an integer. -/
def integer? (numeral : Numeral) : Option Int :=
  if numeral.fraction ≠ [] ∨ numeral.exponent ≠ none then none
  else if numeral.negative then
    if value numeral.whole = 0 then none else some (-value numeral.whole)
  else some (value numeral.whole)

/-- A significand of at most 64 bits, a power of ten, and whether digits are being left out. -/
structure Scaled where
  significand : Nat
  exponent : Int
  full : Bool

/-- Adds a digit that stands `step` places from the one before it. A digit that no longer fits the
significand is left out, with all behind it; before the point, that still counts as a place. -/
def Scaled.push (fractional : Bool) (scaled : Scaled) (digit : Nat) : Scaled :=
  let left := if fractional then scaled.exponent else scaled.exponent + 1
  if scaled.full then { scaled with exponent := left }
  else
    let longer := 10 * scaled.significand + digit
    if 1 <<< 64 ≤ longer then { scaled with exponent := left, full := true }
    else ⟨longer, if fractional then scaled.exponent - 1 else scaled.exponent, false⟩

def scaled (numeral : Numeral) : Scaled :=
  let whole := numeral.whole.foldl (Scaled.push false) ⟨0, 0, false⟩
  let all := numeral.fraction.foldl (Scaled.push true) { whole with full := false }
  { all with exponent := all.exponent + numeral.exponent.getD 0 }

/-- Whether a number is in the range of a double, when it is computed as significand times power
of ten, each rounded. -/
def fitsDouble (numeral : Numeral) : Bool :=
  let scaled := numeral.scaled
  if scaled.significand = 0 then true
  else match scaled.exponent with
    | .negSucc _ => true
    | .ofNat power =>
      power ≤ 308 && roundToDouble scaled.significand * roundToDouble (Nat.pow 10 power) < doubleLimit

end Numeral

end ScriptBuild.Json
