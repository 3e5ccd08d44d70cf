/-!
# Cutting at a separator

A list is cut at every occurrence of a separator, as a path is at its slashes and a text at its line
feeds, or once, as a command is at its first space. Cutting at every occurrence keeps the empty
parts, so nothing is lost but the separators.

Both kinds of cutting are on lists, of characters or of octets, with a separator that is one
element. A separator in front of the first part or behind the last opens an empty part there, and
two separators side by side have an empty part between them; a list without a separator is one part.
So the number of parts is the number of separators and one more.

Cutting at every occurrence is a fold from the right, so that a fact about one more element in front
is one step of an induction; `consPart` is that step. Cutting once is asked for the part in front
and the rest, and gives nothing where there is no separator.

**Results.**
* `cutAll_ne_nil`: cutting gives at least one part.
* `consPart_ne_nil`: nor does another element in front leave no part.
-/
namespace ScriptBuild.Text

variable {α : Type} [DecidableEq α]

/-- Puts an element in front of the first part, or opens a new part at a separator. -/
def consPart (sep c : α) (parts : List (List α)) : List (List α) :=
  if c = sep then [] :: parts
  else match parts with
    | [] => [[c]]
    | part :: rest => (c :: part) :: rest

/-- The parts between the separators, of which there is always at least one. -/
def cutAll (sep : α) (cs : List α) : List (List α) := cs.foldr (consPart sep) [[]]

/-- What stands before and after the first separator, if there is one. -/
def cutOnce (sep : Char) (cs : List Char) : Option (List Char × List Char) :=
  match cs.dropWhile (· != sep) with
  | [] => none
  | _ :: rest => some (cs.takeWhile (· != sep), rest)

theorem consPart_ne_nil (sep c : α) (parts : List (List α)) : consPart sep c parts ≠ [] := by
  unfold consPart
  split
  · simp
  · cases parts <;> simp

theorem cutAll_ne_nil (sep : α) (cs : List α) : cutAll sep cs ≠ [] := by
  cases cs with
  | nil => simp [cutAll]
  | cons c cs => exact consPart_ne_nil sep c _

end ScriptBuild.Text
