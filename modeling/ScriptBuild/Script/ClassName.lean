import ScriptBuild.Text.Letters

/-!
# Names for generated classes

A generated class is named by ten ASCII letters. A counting supply spells a 64-bit counter; a
drawing supply takes ten random octets a name.

A counting supply gives the names of consecutive numbers and starts again after 64 bits. Ten letters
of 52 count further than that, so no two numbers in a cycle of the letters share a name, while
numbers past the cycle have lost their leading digits (`Text.Letters`). A name holds nothing but
letters, so it needs no escaping wherever it is put.

A drawing supply reduces each octet to a letter, so letters are not equally likely; nothing depends
on that. When its octets run out it goes on by counting, so that a supply never fails to give a
name. Drawing and counting are the same to whoever takes a name: a name and the supply that is left.

**Results.**
* `length_spell`: a spelled counter has ten letters.
-/
namespace ScriptBuild.ClassName

def length : Nat := 10

/-- A counter spelled in ten letters. -/
def spell (value : UInt64) : String := Text.Letters.spell length value.toNat

/-- Where names come from. -/
inductive Supply
  /-- A counter. -/
  | counting (next : UInt64)
  /-- Random octets, and a number to spell when they run out. -/
  | drawn (pool : List UInt8) (reserve : UInt64)
deriving DecidableEq, Repr, Inhabited

def Supply.fresh : Supply → String × Supply
  | .counting next => (spell next, .counting (next + 1))
  | .drawn pool reserve =>
    if pool.length < length then (spell reserve, .drawn [] (reserve + 1))
    else
      (String.ofList ((pool.take length).map fun octet => Text.Letters.letter (octet.toNat % 52)),
        .drawn (pool.drop length) reserve)

/-- Several fresh names, and the supply after them. -/
def Supply.take (supply : Supply) : Nat → List String × Supply
  | 0 => ([], supply)
  | count + 1 =>
    let (first, supply) := supply.fresh
    let (rest, supply) := supply.take count
    (first :: rest, supply)

theorem length_spell (value : UInt64) : (spell value).length = length :=
  Text.Letters.length_spell _ _

end ScriptBuild.ClassName
