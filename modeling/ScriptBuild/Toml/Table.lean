/-!
# TOML tables

Tables grow while a document is read: keys are set, headers open tables and rows of tables, and
dotted keys reach into tables. How a table came to be decides what may still be done to it; no key
is set twice, and no table is opened twice.

A header may open a table that was only passed through on the way to another one, once, and may pass
through any table but an inline one. A dotted key may not pass through a table that a header opened.
Its value goes into a table that dotted keys made, or, if the key has no dots, into the one it
starts from. An inline table is closed when it is written. So each table belongs to one way of
writing it, and that is its `Origin`.

The rows of a repeated header are kept the last first, because keys and headers that follow go into
the last row. Entries stand in the order in which their keys were first met; changing one leaves the
others where they are. Every change can fail, and then there is no document.
-/
namespace ScriptBuild.Toml

/-- How a table came to be. -/
inductive Origin
  /-- Opened by a header of its own, or the document itself. -/
  | header
  /-- On the way to a table opened by a header. -/
  | implied
  /-- On the way of a dotted key. -/
  | dotted
  /-- Written inline. -/
  | inline
deriving DecidableEq, Repr, Inhabited

/-- A value. What a number, a date or a time says is not kept. -/
inductive Item
  | text (value : String)
  | bool (value : Bool)
  | number
  /-- A date, a time or both. -/
  | moment
  | array (items : List Item)
  | table (origin : Origin) (entries : List (String × Item))
  /-- Tables opened by repeated headers, the last one first. -/
  | rows (back : List (List (String × Item)))
deriving Repr, Inhabited

abbrev Entries := List (String × Item)

namespace Entries

/-- Puts another value under a key that is present. -/
def replace (entries : Entries) (key : String) (item : Item) : Entries :=
  entries.map fun entry => if entry.1 = key then (key, item) else entry

/-- Sets a key that is not present. -/
def set? (entries : Entries) (key : String) (item : Item) : Option Entries :=
  if (entries.lookup key).isSome then none else some (entries ++ [(key, item)])

/-- Changes the table at the end of a path. Tables that are missing on the way are made; `dotted`
tells whether the path is that of a dotted key, which may not enter a table opened by a header. -/
def update (dotted : Bool) (change : Origin → Entries → Option Entries) (origin : Origin) :
    List String → Entries → Option Entries
  | [], entries => change origin entries
  | key :: path, entries =>
    match entries.lookup key with
    | none => do
      let made := if dotted then Origin.dotted else Origin.implied
      let inner ← update dotted change made path []
      return entries ++ [(key, .table made inner)]
    | some (.table origin inner) =>
      if origin = .inline ∨ (dotted ∧ origin = .header) then none
      else do
        let inner ← update dotted change origin path inner
        return entries.replace key (.table origin inner)
    | some (.rows (row :: earlier)) => do
      let row ← update dotted change .header path row
      return entries.replace key (.rows (row :: earlier))
    | some _ => none

/-- Sets the last of a list of dotted keys. The table it stands in is either the one the others
start from, or one that only dotted keys made. -/
def setDotted (path : List String) (key : String) (item : Item) (entries : Entries) :
    Option Entries :=
  let change (origin : Origin) (entries : Entries) : Option Entries :=
    if (origin == .dotted) == path.isEmpty then none else entries.set? key item
  update true change .header path entries

def openTable (key : String) (entries : Entries) : Option Entries :=
  match entries.lookup key with
  | none => some (entries ++ [(key, .table .header [])])
  | some (.table .implied inner) => some (entries.replace key (.table .header inner))
  | some _ => none

/-- Opens one more row of a list of tables by its header. -/
def openRow (key : String) (entries : Entries) : Option Entries :=
  match entries.lookup key with
  | none => some (entries ++ [(key, .rows [[]])])
  | some (.rows earlier) => some (entries.replace key (.rows ([] :: earlier)))
  | some _ => none

end Entries

end ScriptBuild.Toml
