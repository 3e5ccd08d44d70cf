import ScriptBuild.Text.Blank

/-!
# Lines

A text is cut after each newline into pieces; a line is a piece without its newline and without one
carriage return before that. A last piece without a newline keeps its carriage return, and a text
that ends in a newline has no empty line after it.

A newline is the line feed alone. Other characters that a display might break a line at are
characters like any other (`Report.Row` has the rows of a display), and a carriage return that is
not in front of a newline stays in its line.

Two views are kept apart. Pieces keep their terminators, so nothing is lost in them and offsets can
be counted along them; lines are what a reader of lines gets. There are as many of the one as of the
other, and line by line they belong together. The cutting is a fold from the right, like cutting at
a separator, so that what holds of it is proved by one step in front.

**Results.**
* `flatten_pieces`: no character is lost in cutting.
* `newline_notMem_of_mem_lineList`: no line holds a newline.
-/
namespace ScriptBuild.Text

/-- Puts a character in front of the first piece, or on a piece of its own if it ends one. -/
def consPiece (c : Char) (pieces : List (List Char)) : List (List Char) :=
  if c = '\n' then [c] :: pieces
  else match pieces with
    | [] => [[c]]
    | piece :: rest => (c :: piece) :: rest

/-- A text cut after each newline. -/
def pieces (cs : List Char) : List (List Char) := cs.foldr consPiece []

/-- A piece without its newline and the carriage return before it. -/
def dropTerminator (piece : List Char) : List Char :=
  match piece.reverse with
  | '\n' :: '\r' :: rest => rest.reverse
  | '\n' :: rest => rest.reverse
  | _ => piece

/-- The lines of a list of characters. -/
def lineList (cs : List Char) : List (List Char) := (pieces cs).map dropTerminator

def lines (text : String) : List String := (lineList text.toList).map String.ofList

/-- Lines put together again, with a newline between each two. -/
def joinLines (lines : List String) : String := "\n".intercalate lines

@[simp] theorem pieces_nil : pieces [] = [] := rfl

@[simp] theorem pieces_cons (c : Char) (cs : List Char) :
    pieces (c :: cs) = consPiece c (pieces cs) := rfl

theorem flatten_consPiece (c : Char) (ps : List (List Char)) :
    (consPiece c ps).flatten = c :: ps.flatten := by
  unfold consPiece
  split
  · simp
  · cases ps <;> simp

theorem flatten_pieces (cs : List Char) : (pieces cs).flatten = cs := by
  induction cs with
  | nil => rfl
  | cons c cs ih => simp [flatten_consPiece, ih]

/-- A piece is never empty, and only its last character can be a newline. -/
theorem newline_notMem_dropLast_of_mem_pieces {cs piece : List Char} (h : piece ∈ pieces cs) :
    piece ≠ [] ∧ '\n' ∉ piece.dropLast := by
  induction cs generalizing piece with
  | nil => simp at h
  | cons c cs ih =>
    rw [pieces_cons] at h
    unfold consPiece at h
    split at h
    · rcases List.mem_cons.mp h with rfl | h
      · simp
      · exact ih h
    · rename_i hc
      split at h
      · simp only [List.mem_singleton] at h
        subst h
        simp
      · rename_i p ps hp
        rcases List.mem_cons.mp h with rfl | h
        · obtain ⟨hne, hnl⟩ := ih (hp ▸ List.mem_cons_self)
          cases p with
          | nil => exact absurd rfl hne
          | cons d p => exact ⟨by simp, by simpa [Ne.symm hc] using hnl⟩
        · exact ih (hp ▸ List.mem_cons_of_mem _ h)

theorem newline_notMem_of_mem_lineList {cs line : List Char} (h : line ∈ lineList cs) :
    '\n' ∉ line := by
  obtain ⟨piece, hp, rfl⟩ := List.mem_map.mp h
  obtain ⟨hne, hnl⟩ := newline_notMem_dropLast_of_mem_pieces hp
  have hdrop : piece.dropLast = piece.reverse.tail.reverse := by simp
  rw [hdrop] at hnl
  unfold dropTerminator
  split
  · simp_all
  · simp_all
  · rename_i hno
    intro hmem
    cases hr : piece.reverse with
    | nil => simp_all
    | cons c r =>
      have hmem' : '\n' ∈ piece.reverse := List.mem_reverse.mpr hmem
      rw [hr] at hmem' hnl
      rcases List.mem_cons.mp hmem' with rfl | hin
      · exact hno r hr
      · simp_all

end ScriptBuild.Text
