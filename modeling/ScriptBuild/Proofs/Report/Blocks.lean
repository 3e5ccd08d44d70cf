import Mathlib
import ScriptBuild.Report

/-!
# The blocks of a report

A report is a row of blocks, one for each faulty directive of the chain. A block names its file and
a row and a column of it, and it can be read in one way only.

Whether a directive gets a block at all depends on its file being readable as text; otherwise it
gets a line. Either way it is one text for each directive, so a report is joined from as many texts
as the chain has, and what is true of each directive with its text is true all along (`Forall₂`).

The remark goes to the last one only. That a block can be read in one way is a fact about its header
line: the numbers in it are spelled in digits and followed by characters that are none, so they can
be told apart whatever the file is called.

**Results.**
* `ofDirectives_eq_join`: a report is its blocks.
* `forall₂_blocksOf`: the blocks are the directives', in the order of the chain.
* `getLast?_blocksOf`: the remark is the last one's.
* `points_render`, `Points.eq`: where a block says that it is, and that it says nothing else.
-/
namespace ScriptBuild.Report

variable {files : FileSystem} {note : Option String} {errors : List DirectiveError}

/-- What is shown of each faulty directive, from the outermost on. -/
def blocksOf (files : FileSystem) (note : Option String) : List DirectiveError → List String
  | [] => []
  | [error] => [ofDirective files error note]
  | error :: rest => ofDirective files error none :: blocksOf files note rest

def blocks (files : FileSystem) (failure : Failure) : List String :=
  blocksOf files (failure.chain.2.map noteText) failure.chain.1

theorem ofChain_eq_join : ofChain files note errors = String.join (blocksOf files note errors) := by
  fun_induction ofChain files note errors with
  | case1 => rfl
  | case2 error => simp [blocksOf]
  | case3 error rest hrest ih => simp [blocksOf, ih]

theorem ofDirectives_eq_join (files : FileSystem) (failure : Failure) :
    ofDirectives files failure = String.join (blocks files failure) :=
  ofChain_eq_join

/-- What holds of every directive and what is shown of it holds all along the report. -/
theorem forall₂_blocksOf {P : DirectiveError → String → Prop}
    (h : ∀ error ∈ errors, ∀ note, P error (ofDirective files error note)) :
    List.Forall₂ P errors (blocksOf files note errors) := by
  fun_induction blocksOf files note errors with
  | case1 => exact .nil
  | case2 error => exact .cons (h error List.mem_cons_self _) .nil
  | case3 error rest hrest ih =>
    exact .cons (h error List.mem_cons_self _) (ih fun other hother =>
      h other (List.mem_cons_of_mem _ hother))

theorem getLast?_blocksOf :
    (blocksOf files note errors).getLast? =
      errors.getLast?.map fun last => ofDirective files last note := by
  fun_induction blocksOf files note errors with
  | case1 => rfl
  | case2 error => rfl
  | case3 error rest hrest ih =>
    cases rest with
    | nil => exact (hrest rfl).elim
    | cons next rest => simp [List.getLast?_cons, ih]

/-- What the block of a directive shows if the file has this text. -/
def highlightOf (error : DirectiveError) (text : String) (note : Option String) : Highlight where
  name := error.file.text
  text := text.toList
  span := Span.ofLine text.toList error.line
  message := error.fault.message
  note := note

theorem ofDirective_of_readText {error : DirectiveError} {text : String}
    (read : files.readText error.file = .ok text) :
    ofDirective files error note = Block.render (highlightOf error text note) := by
  simp only [ofDirective, read, highlightOf]

/-! ## Where a block points -/

/-- The block says that it is about this row and this column of the file of this name. -/
def Points (block name : String) (row column : Nat) : Prop :=
  ∃ margin later, block = "[D0001] Error: Directive error\n" ++
    (Block.blanks margin ++ "╭─[ " ++ name ++ ":" ++ toString row ++ ":" ++ toString column ++
      " ]\n") ++ later

theorem eq_of_append_cons {sep : Char} {front front' back back' : List Char} (h : sep ∉ front)
    (h' : sep ∉ front') (same : front ++ sep :: back = front' ++ sep :: back') :
    front = front' ∧ back = back' := by
  have hcut : ∀ {text : List Char} (rest : List Char), sep ∉ text →
      (text ++ sep :: rest).takeWhile (· ≠ sep) = text := by
    intro text rest hsep
    have hopen : ∀ c ∈ text, decide (c ≠ sep) = true := fun c hc =>
      decide_eq_true (ne_of_mem_of_not_mem hc hsep)
    rw [List.takeWhile_append_of_pos hopen]
    simp
  obtain rfl : front = front' := by rw [← hcut back h, same, hcut back' h']
  exact ⟨rfl, by simpa using same⟩

theorem notMem_toDigits {n : Nat} {c : Char} (h : c.isDigit = false) :
    c ∉ Nat.toDigits 10 n := fun hmem => by
  simp [Nat.isDigit_of_mem_toDigits (by decide) (by decide) hmem] at h

theorem toDigits_inj {m n : Nat} (h : Nat.toDigits 10 m = Nat.toDigits 10 n) : m = n := by
  refine Nat.repr_inj.mp (String.toList_inj.mp ?_)
  rwa [Nat.toList_repr, Nat.toList_repr]

theorem Points.eq {block name : String} {row column row' column' : Nat}
    (h : Points block name row column) (h' : Points block name row' column') :
    row = row' ∧ column = column' := by
  obtain ⟨margin, later, rfl⟩ := h
  obtain ⟨margin', later', hblock⟩ := h'
  have hblank : ∀ count, '╭' ∉ List.replicate count ' ' := fun count hmem =>
    absurd (List.eq_of_mem_replicate hmem) (by decide)
  have hopening : "╭─[ ".toList = ['╭', '─', '[', ' '] := rfl
  have hcolon : ":".toList = [':'] := rfl
  have hclosing : " ]\n".toList = [' ', ']', '\n'] := rfl
  have hchars := congrArg String.toList hblock
  simp only [String.toList_append, Block.blanks, String.toList_ofList, toString,
    Nat.toList_repr, List.append_assoc, List.append_cancel_left_eq, hopening, hcolon, hclosing,
    List.cons_append, List.nil_append] at hchars
  obtain ⟨-, hplace⟩ := eq_of_append_cons (hblank _) (hblank _) hchars
  simp only [List.cons.injEq, true_and, List.append_cancel_left_eq] at hplace
  obtain ⟨hrow, hrest⟩ := eq_of_append_cons (notMem_toDigits rfl) (notMem_toDigits rfl) hplace
  obtain ⟨hcolumn, -⟩ := eq_of_append_cons (notMem_toDigits rfl) (notMem_toDigits rfl) hrest
  exact ⟨toDigits_inj hrow, toDigits_inj hcolumn⟩

theorem points_render (highlight : Highlight) {row : Row}
    (h : Row.at? (Row.ofText highlight.text) highlight.span.start = some row) :
    Points (Block.render highlight) highlight.name row.number
      (highlight.span.start - row.offset + 1) := by
  obtain ⟨margin, rest, hlines⟩ : ∃ margin rest, Block.lines highlight =
      "[D0001] Error: Directive error" ::
        (Block.blanks margin ++ "╭─[ " ++ highlight.name ++ ":" ++ toString row.number ++ ":" ++
          toString (highlight.span.start - row.offset + 1) ++ " ]") :: rest := by
    simp only [Block.lines, h, Option.getD_some]
    exact ⟨_, _, rfl⟩
  refine ⟨margin, String.join (rest.map (· ++ "\n")), ?_⟩
  rw [Block.render, hlines]
  simp [String.append_assoc]

end ScriptBuild.Report
