import ScriptBuild.Text.Cut
import ScriptBuild.Text.Lines

/-!
# Texts in parts

Cutting at a separator gives what stands between separators, in order. Lines are what is cut at
newlines, but that nothing behind the last newline is no line.

There are always as many parts as separators and one more, so a text without any is one part and the
empty text is one empty part. Lines are counted otherwise: the empty text has none, and a newline at
the end starts no line. `withNewlines` puts the endings back, and drops an empty part at the end,
which is all the difference there is.

Where a list of parts meets another, one part grows and all others stay. That is why changes within
a line are seen in that line only.

**Results.**
* `cutAll_append`: where two texts meet, the last part of one and the first of the other are one.
* `cutAll_eq_splitOn`, `notMem_of_mem_cutAll`, `mem_of_mem_cutAll`: what the parts are made of.
* `pieces_eq_withNewlines`: lines are cut after newlines as parts are cut at them.
* `getElem?_lineList_congr`: a line depends on its own part and on how many there are.
-/
namespace ScriptBuild.Text

section Cut

variable {α : Type} [DecidableEq α]

/-- Where two texts meet, the last part of the one and the first of the other are one part. -/
theorem cutAll_append (sep : α) (cs later : List α) :
    cutAll sep (cs ++ later) =
      (cutAll sep cs).dropLast ++
        ((cutAll sep cs).getLastD [] ++ (cutAll sep later).headD []) :: (cutAll sep later).tail := by
  induction cs with
  | nil =>
    have hnil : cutAll sep [] = [[]] := rfl
    cases hlater : cutAll sep later with
    | nil => exact absurd hlater (cutAll_ne_nil sep later)
    | cons first back => simp [hnil, hlater]
  | cons c cs ih =>
    have hcons : ∀ text, cutAll sep (c :: text) = consPart sep c (cutAll sep text) := fun _ => rfl
    rw [List.cons_append, hcons, hcons, ih]
    cases hparts : cutAll sep cs with
    | nil => exact absurd hparts (cutAll_ne_nil sep cs)
    | cons part rest =>
      -- The first part takes up the character. If it is alone, it is the last one, too.
      by_cases hc : c = sep
      · simp [consPart, hc]
      · cases rest <;> simp [consPart, hc]

theorem cutAll_eq_splitOn (sep : α) (cs : List α) : cutAll sep cs = cs.splitOn sep := by
  induction cs with
  | nil => rfl
  | cons c cs ih =>
    have hcons : cutAll sep (c :: cs) = consPart sep c (cutAll sep cs) := rfl
    rw [hcons, ih, List.splitOn_cons_eq_if_modifyHead]
    by_cases hc : c = sep
    · simp [consPart, hc]
    · cases hsplit : cs.splitOn sep with
      | nil => exact absurd hsplit (List.splitOn_ne_nil sep cs)
      | cons part rest => simp [consPart, hc]

theorem notMem_of_mem_cutAll {sep : α} {cs part : List α} (h : part ∈ cutAll sep cs) :
    sep ∉ part := by
  induction cs generalizing part with
  | nil =>
    obtain rfl : part = [] := by simpa [cutAll] using h
    simp
  | cons c cs ih =>
    have hcons : cutAll sep (c :: cs) = consPart sep c (cutAll sep cs) := rfl
    rw [hcons] at h
    unfold consPart at h
    split at h
    · rcases List.mem_cons.mp h with rfl | h
      · simp
      · exact ih h
    · rename_i hc
      split at h
      · obtain rfl : part = [c] := by simpa using h
        simpa using Ne.symm hc
      · rename_i first rest hparts
        rcases List.mem_cons.mp h with rfl | h
        · have := ih (hparts ▸ List.mem_cons_self : first ∈ cutAll sep cs)
          simp [Ne.symm hc, this]
        · exact ih (hparts ▸ List.mem_cons_of_mem _ h)

/-- Cutting loses nothing but separators, and adds nothing. -/
theorem flatten_cutAll_sublist (sep : α) (cs : List α) :
    (cutAll sep cs).flatten.Sublist cs := by
  induction cs with
  | nil => exact List.Sublist.slnil
  | cons c cs ih =>
    have hcons : cutAll sep (c :: cs) = consPart sep c (cutAll sep cs) := rfl
    rw [hcons]
    unfold consPart
    split
    · exact ih.cons c
    · cases hparts : cutAll sep cs with
      | nil => simp
      | cons first rest => simpa [hparts] using ih

theorem mem_of_mem_cutAll {sep c : α} {cs part : List α} (h : part ∈ cutAll sep cs)
    (hc : c ∈ part) : c ∈ cs :=
  (flatten_cutAll_sublist sep cs).subset (List.mem_flatten_of_mem h hc)

omit [DecidableEq α] in
theorem mem_of_mem_intercalate {sep c : α} {parts : List (List α)}
    (h : c ∈ [sep].intercalate parts) : c = sep ∨ ∃ part ∈ parts, c ∈ part := by
  induction parts with
  | nil => simp at h
  | cons part parts ih =>
    cases parts with
    | nil => exact .inr ⟨part, by simp, by simpa using h⟩
    | cons other parts =>
      rw [List.intercalate_cons_cons, List.append_assoc] at h
      rcases List.mem_append.mp h with h | h
      · exact .inr ⟨part, List.mem_cons_self, h⟩
      · rcases List.mem_append.mp h with h | h
        · exact .inl (by simpa using h)
        · rcases ih h with hsep | ⟨found, hfound, hc⟩
          · exact .inl hsep
          · exact .inr ⟨found, List.mem_cons_of_mem _ hfound, hc⟩

end Cut

/-! ## Pieces and parts -/

/-- Parts with their newlines. The last one has none, and is left out if it is empty. -/
def withNewlines : List (List Char) → List (List Char)
  | [] => []
  | [last] => if last = [] then [] else [last]
  | part :: next :: rest => (part ++ ['\n']) :: withNewlines (next :: rest)

/-- Lines are cut after newlines as parts are cut at them. -/
theorem pieces_eq_withNewlines (cs : List Char) :
    pieces cs = withNewlines (cutAll '\n' cs) := by
  induction cs with
  | nil => rfl
  | cons c cs ih =>
    have hcons : cutAll '\n' (c :: cs) = consPart '\n' c (cutAll '\n' cs) := rfl
    rw [pieces_cons, ih, hcons]
    cases hparts : cutAll '\n' cs with
    | nil => exact absurd hparts (cutAll_ne_nil '\n' cs)
    | cons part rest =>
      by_cases hc : c = '\n'
      · simp [consPiece, consPart, hc, withNewlines]
      · cases rest with
        | nil =>
          cases part with
          | nil => simp [consPiece, consPart, hc, withNewlines]
          | cons d part => simp [consPiece, consPart, hc, withNewlines]
        | cons next rest => simp [consPiece, consPart, hc, withNewlines]

theorem getElem?_withNewlines (parts : List (List Char)) (row : Nat) :
    (withNewlines parts)[row]? = parts[row]?.bind fun part =>
      if row + 1 < parts.length then some (part ++ ['\n'])
      else if part = [] then none else some part := by
  induction parts generalizing row with
  | nil => simp [withNewlines]
  | cons part rest ih =>
    cases rest with
    | nil => by_cases hpart : part = [] <;> cases row <;> simp [withNewlines, hpart]
    | cons next rest =>
      cases row with
      | zero => simp [withNewlines]
      | succ row => simpa [withNewlines] using ih row

/-- Two texts of as many lines have the same line wherever the same stands between newlines. -/
theorem getElem?_lineList_congr {cs cs' : List Char} {row : Nat}
    (length : (cs'.splitOn '\n').length = (cs.splitOn '\n').length)
    (same : (cs'.splitOn '\n')[row]? = (cs.splitOn '\n')[row]?) :
    (lineList cs')[row]? = (lineList cs)[row]? := by
  simp only [lineList, List.getElem?_map, pieces_eq_withNewlines, getElem?_withNewlines,
    cutAll_eq_splitOn, length, same]

end ScriptBuild.Text
