/-!
# Numbers spelled in letters

Positional notation in base 52 with a fixed number of ASCII letters, capitals first. A number too
large for them loses its leading digits.

Spelling is done from the lowest digit up, and the letters are turned round at the end. So the
letters of a number depend on nothing but its remainder by 52 to the power of their count, and two
numbers that differ by a multiple of that are spelled alike. No letter stands for the absence of a
digit: a small number is filled up in front with the letter of zero.

Capitals stand in front of small letters as digits, as they do among code points, so spelled numbers
of one length are in the order of the numbers.

**Results.**
* `length_spell`: a spelled number has the number of letters asked for.
-/
namespace ScriptBuild.Text.Letters

/-- The letter of a digit below 52: capitals first. -/
def letter (digit : Nat) : Char :=
  if digit < 26 then Char.ofNat (65 + digit) else Char.ofNat (71 + digit)

/-- The lowest `count` digits of a number as letters, least significant first. -/
def backwards : Nat → Nat → List Char
  | 0, _ => []
  | count + 1, value => letter (value % 52) :: backwards count (value / 52)

/-- The lowest `count` digits of a number, most significant first. -/
def spell (count value : Nat) : String := String.ofList (backwards count value).reverse

theorem length_backwards (count value : Nat) : (backwards count value).length = count := by
  induction count generalizing value with
  | zero => rfl
  | succ count ih => simp [backwards, ih]

theorem length_spell (count value : Nat) : (spell count value).length = count := by
  simp [spell, length_backwards]

end ScriptBuild.Text.Letters
