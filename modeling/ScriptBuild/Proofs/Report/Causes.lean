import Mathlib
import ScriptBuild.Proofs.Report.Blocks
import ScriptBuild.Proofs.Resolution.Blame
import ScriptBuild.Proofs.Text.Trimming

/-!
# What a report accounts for

Every faulty directive has its block or its line in the report, with its file and its fault. What
made the last of them fail is remarked in the block of that one. If the last one's file cannot be
shown, there is no block to remark it in, and the report says nothing of the cause.

To be accounted for means that the words are in the report, as an unbroken piece of it. For a fault
that is the whole end of a line. For a cause it is asked that its wording be a single line: a
wording of several lines is set into the frame line by line, so it is there in parts.

There is no condition on the failure; the chain may be empty, and then the report is. Two failures
with the same chain and different causes have the same report if the last file cannot be read, which
is the sharpest way to say that the cause is left out. The example at the end has such a file.

**Results.**
* `Row.exists_at?`: every offset lies in a row.
* `message_infix_render`, `note_infix_render`: the message is in the block, and so is a remark of
  one line.
* `shows_ofDirective`: what is shown of a directive names its file and its fault.
* `ofChain_eq_of_unreadable`: where the last file cannot be shown, no remark is.
* `report_accounts`: what a report accounts for, and when it leaves the cause out.
-/
namespace ScriptBuild

namespace Text

theorem pieces_eq_singleton {cs : List Char} (hnewline : '\n' ∉ cs) (hne : cs ≠ []) :
    pieces cs = [cs] := by
  induction cs with
  | nil => exact absurd rfl hne
  | cons c cs ih =>
    obtain ⟨hc, hcs⟩ : '\n' ≠ c ∧ '\n' ∉ cs := by simpa using hnewline
    cases cs with
    | nil => simp [consPiece, Ne.symm hc]
    | cons d cs => rw [pieces_cons, ih hcs (by simp), consPiece, if_neg (Ne.symm hc)]

theorem lines_eq_singleton {text : String} (hnewline : '\n' ∉ text.toList)
    (hne : text.toList ≠ []) : lines text = [text] := by
  rw [lines, lineList, pieces_eq_singleton hnewline hne, List.map_singleton, List.map_singleton,
    dropTerminator_of_newline_notMem hnewline, String.ofList_toList]

end Text

namespace Report

variable {files : FileSystem} {failure : Failure}

/-- Every offset lies in a row, since the first one starts at the first character. -/
theorem Row.exists_at? (text : List Char) (offset : Nat) :
    ∃ row, Row.at? (Row.ofText text) offset = some row := by
  obtain ⟨first, rest, hcut⟩ := List.exists_cons_of_ne_nil (Row.cut_ne_nil text)
  rw [Row.at?, Row.ofText, hcut, Row.numberFrom, List.filter_cons_of_pos (by simp)]
  exact ⟨_, List.getLast?_eq_some_getLast (List.cons_ne_nil _ _)⟩

/-! ## Lines of a block -/

theorem infix_join_of_mem {block : String} {blocks : List String} (h : block ∈ blocks) :
    block.toList <:+: (String.join blocks).toList := by
  rw [String.toList_join, List.flatMap_def]
  exact List.infix_of_mem_flatten (List.mem_map_of_mem h)

theorem infix_render_of_mem {highlight : Highlight} {line : String}
    (h : line ∈ Block.lines highlight) :
    (line ++ "\n").toList <:+: (Block.render highlight).toList :=
  infix_join_of_mem (List.mem_map_of_mem h)

theorem exists_mem_inlineRows (digits : Nat) (row : Row) (highlight : Highlight) :
    ∃ lead, lead ++ " " ++ highlight.message ∈ Block.inlineRows digits row highlight :=
  ⟨_, List.mem_cons_of_mem _ (List.mem_cons_of_mem _ List.mem_cons_self)⟩

theorem exists_mem_bracketRows (digits : Nat) (first last : Row) (highlight : Highlight) :
    ∃ lead, lead ++ " " ++ highlight.message ∈ Block.bracketRows digits first last highlight :=
  ⟨_, List.mem_append_right _
    (List.mem_cons_of_mem _ (List.mem_cons_of_mem _ List.mem_cons_self))⟩

/-- A block has the rows of its label, which end in the message, and then those of its remark. -/
theorem exists_lines (highlight : Highlight) :
    ∃ front labels margin back, Block.lines highlight =
        front ++ labels ++ Block.noteRows margin highlight.note ++ back ∧
      ∃ lead, lead ++ " " ++ highlight.message ∈ labels := by
  refine ⟨_, ite _ (Block.inlineRows _ _ highlight) (Block.bracketRows _ _ _ highlight), _, _,
    rfl, ?_⟩
  split
  · exact exists_mem_inlineRows _ _ highlight
  · exact exists_mem_bracketRows _ _ _ highlight

theorem message_infix_render (highlight : Highlight) :
    (" " ++ highlight.message ++ "\n").toList <:+: (Block.render highlight).toList := by
  obtain ⟨front, labels, margin, back, hlines, lead, hlead⟩ := exists_lines highlight
  have hmem : lead ++ " " ++ highlight.message ∈ Block.lines highlight := by simp [hlines, hlead]
  refine List.IsInfix.trans ?_ (infix_render_of_mem hmem)
  exact ⟨lead.toList, [], by simp [String.append_assoc]⟩

theorem note_infix_render {highlight : Highlight} {note : String} (h : highlight.note = some note)
    (hnewline : '\n' ∉ note.toList) (hne : note.toList ≠ []) :
    note.toList <:+: (Block.render highlight).toList := by
  obtain ⟨front, labels, margin, back, hlines, -⟩ := exists_lines highlight
  have hmem : margin ++ "Note: " ++ note ∈ Block.lines highlight := by
    simp [hlines, h, Block.noteRows, Text.lines_eq_singleton hnewline hne]
  refine List.IsInfix.trans ?_ (infix_render_of_mem hmem)
  exact ⟨(margin ++ "Note: ").toList, "\n".toList, by simp⟩

/-! ## What a report accounts for -/

/-- What is shown of an error: a block that points into its file and ends a line with its fault, or
one line with all of it if the file cannot be read as text. -/
inductive Shows (files : FileSystem) (error : DirectiveError) (block : String) : Prop
  | marked (text : String) (read : files.readText error.file = .ok text)
      (place : ∃ row column, Points block error.file.text row column)
      (fault : (" " ++ error.fault.message ++ "\n").toList <:+: block.toList)
  | unmarked (refusal : IoError) (read : files.readText error.file = .error refusal)
      (line : block = "error: " ++ error.message ++ "\n")

theorem shows_ofDirective (files : FileSystem) (error : DirectiveError) (note : Option String) :
    Shows files error (ofDirective files error note) := by
  cases read : files.readText error.file with
  | error refusal => exact .unmarked refusal read (by simp [ofDirective, read])
  | ok text =>
    obtain ⟨row, hrow⟩ := Row.exists_at? text.toList (Span.ofLine text.toList error.line).start
    rw [ofDirective_of_readText read]
    exact .marked text read ⟨_, _, points_render (highlightOf error text note) hrow⟩
      (message_infix_render (highlightOf error text note))

/-- Where the last file cannot be shown, no remark is. -/
theorem ofChain_eq_of_unreadable {errors : List DirectiveError} {last : DirectiveError}
    {refusal : IoError} {note : Option String} (hlast : errors.getLast? = some last)
    (read : files.readText last.file = .error refusal) (other : Option String) :
    ofChain files note errors = ofChain files other errors := by
  fun_induction ofChain files note errors with
  | case1 => rfl
  | case2 error =>
    obtain rfl : error = last := by simpa using hlast
    simp [ofChain, ofDirective, read]
  | case3 error rest hrest ih =>
    cases rest with
    | nil => exact (hrest rfl).elim
    | cons next rest =>
      rw [ih (by simpa [List.getLast?_cons] using hlast)]
      rfl

/-- What the report of a failure accounts for. -/
structure Accounts (files : FileSystem) (failure : Failure) : Prop where
  whole : ofDirectives files failure = String.join (blocks files failure)
  /-- Every error is shown, from the outermost on. -/
  errors : List.Forall₂ (Shows files) failure.chain.1 (blocks files failure)
  /-- What made the last directive fail is told if that one's file is shown. -/
  cause : ∀ last text root, failure.innermost? = some last →
    files.readText last.file = .ok text → failure.chain.2 = some root →
    '\n' ∉ root.message.toList →
    ("caused by: " ++ root.message).toList <:+: (ofDirectives files failure).toList
  /-- If it is not, the report is the same whatever the cause is. -/
  unexplained : ∀ last refusal, failure.innermost? = some last →
    files.readText last.file = .error refusal → ∀ other : Failure,
    other.chain.1 = failure.chain.1 → ofDirectives files other = ofDirectives files failure

theorem report_accounts (files : FileSystem) (failure : Failure) : Accounts files failure where
  whole := ofDirectives_eq_join files failure
  errors := forall₂_blocksOf fun error _ note => shows_ofDirective files error note
  cause last text root hlast read hroot hline := by
    have hmem : ofDirective files last (some (noteText root)) ∈ blocks files failure := by
      refine List.mem_of_getLast? ?_
      rw [blocks, getLast?_blocksOf, ← Failure.innermost?, hlast, hroot]
      rfl
    have hnewline : '\n' ∉ (noteText root).toList := by
      simp [noteText, hline]
    rw [ofDirectives_eq_join]
    refine List.IsInfix.trans ?_ (infix_join_of_mem hmem)
    rw [ofDirective_of_readText read]
    exact note_infix_render rfl hnewline (by simp)
  unexplained last refusal hlast read other hother := by
    rw [ofDirectives, ofDirectives, hother]
    exact ofChain_eq_of_unreadable hlast read _

/-! ## A cause left out -/

/-- An octet that is not UTF-8 in a comment, and then an include of a missing file. -/
def garbledBytes : Text.Utf8.Bytes :=
  Text.Utf8.encode "// " ++ 0xFF :: Text.Utf8.encode "\n//#include \"/gone\"\n"

def garbled : FileSystem := Resolver.besideUnit garbledBytes

def goneFailure : Failure := Resolver.blame ⟨"/main"⟩ 2 (.notFound ⟨"/gone"⟩)

theorem resolve_garbled :
    Resolver.sourceOnly.resolve garbled ⟨"/main"⟩ = .error goneFailure := by
  have hheader : Source.header garbled ⟨"/main"⟩ = .ok ["// \uFFFD", "//#include \"/gone\""] := by
    rw [garbled, Source.header_of_resolve Resolver.resolve_main rfl]
    cbv
  have hcomment : ∀ directory, Header.meaning garbled directory ⟨"/"⟩ "// \uFFFD" = .ok .skip := by
    intro directory
    cbv
  have hnext : (HeaderScan.start ⟨"/main"⟩ ["// \uFFFD", "//#include \"/gone\""] ⟨"/"⟩).next
      garbled = (some (.ok (2, .includes ⟨"/gone"⟩)), ⟨⟨"/main"⟩, ⟨"/"⟩, [], 2⟩) := by
    rw [HeaderScan.next_of_skip rfl (hcomment _),
      HeaderScan.next_of_found rfl (Resolver.meaning_gone _)]
    rfl
  exact Resolver.resolve_of_resolves
    (.followed Resolver.canonical_main hheader (.unknown hnext Resolver.kind_gone))

theorem readText_garbled : garbled.readText ⟨"/main"⟩ = .error .notUtf8 := by
  have hplace : garbled.resolve ⟨"/main"⟩ = .ok ["main"] := Resolver.resolve_main
  have hnode : garbled.node? ["main"] = some (.file garbledBytes) := rfl
  have hdecode : Text.Utf8.decode? garbledBytes = none := by
    cbv
  simp only [FileSystem.readText, FileSystem.read, hplace, hnode, hdecode]

/-- The include fails because of the missing file, and the report does not say so. -/
theorem report_silent :
    Resolver.sourceOnly.resolve garbled ⟨"/main"⟩ = .error goneFailure ∧
    goneFailure.chain.2 = some (.notFound ⟨"/gone"⟩) ∧
    ofDirectives garbled goneFailure =
      "error: /main(2): error processing //#include statement\n" ∧
    ¬("caused by: " ++ (Failure.notFound ⟨"/gone"⟩).message).toList <:+:
      (ofDirectives garbled goneFailure).toList := by
  have hreport : ofDirectives garbled goneFailure =
      "error: /main(2): error processing //#include statement\n" := by
    change ofChain garbled _ [⟨⟨"/main"⟩, 2, .includeFailed⟩] = _
    simp only [ofChain, ofDirective, readText_garbled]
    decide
  refine ⟨resolve_garbled, rfl, hreport, fun h => ?_⟩
  rw [hreport] at h
  exact absurd (h.subset (show 'b' ∈ _ by simp)) (by decide)

end Report

end ScriptBuild
