/-!
# Decimal numbers and the range of doubles

Digits with a power of ten, and whether such a number is too large for a double. All of it is exact
arithmetic on natural numbers.

A reader of numbers need not know the double a number rounds to, only whether there is one. So the
value is kept as a natural number with a power of ten and compared with the least number that rounds
beyond all doubles. That number lies half a unit above the greatest double, and ties go to even, so
it is itself beyond.

Powers of ten past `powerLimit` are settled without being computed: any number with a digit but zero
is too large with one of them, and no comparison is made of numbers with that many digits. A number
of which all digits are zero is in range whatever its power.

`roundToDouble` is for a reader that multiplies a rounded significand with a rounded power. It is
correct for numbers with more bits than a significand has, where rounding can change something; for
smaller ones it is the identity.
-/
namespace ScriptBuild.Decimal

/-- The number that digits spell. -/
def value (digits : List Nat) : Nat := digits.foldl (fun value digit => 10 * value + digit) 0

/-- A number rounded to the 53 bits of a double's significand, ties to even. -/
def roundToDouble (n : Nat) : Nat :=
  if n < 1 <<< 53 then n
  else
    let unit := 1 <<< (n.log2 - 52)
    let quotient := n / unit
    let up := unit < 2 * (n % unit) ∨ (unit = 2 * (n % unit) ∧ quotient % 2 = 1)
    (if up then quotient + 1 else quotient) * unit

/-- The least number that rounds beyond all doubles. -/
def doubleLimit : Nat := 1 <<< 1024 - 1 <<< 970

def powerLimit : Nat := 400

/-- Whether digits times a power of ten round beyond all doubles. -/
def overflows (digits : List Nat) (exponent : Int) : Bool :=
  if value digits = 0 then false
  else match exponent with
    | .ofNat power => powerLimit ≤ power || doubleLimit ≤ value digits * Nat.pow 10 power
    | .negSucc power =>
      power < digits.length && doubleLimit * Nat.pow 10 (power + 1) ≤ value digits

end ScriptBuild.Decimal
