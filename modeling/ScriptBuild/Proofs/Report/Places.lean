import Mathlib
import ScriptBuild.Proofs.Report.Blocks
import ScriptBuild.Proofs.Report.Rows
import ScriptBuild.Proofs.Resolution.Blame
import ScriptBuild.Proofs.Text.Decoding

/-!
# Where a report points

A directive's error names a line of its file as headers count lines. What is shown of it stands at
the row of the display that this line starts in. The two have the same number unless an earlier line
of the file holds a character that ends a row, but no line.

Headers trim lines and a byte order mark is not part of them, while the display shows the text of
the file as it is. Neither changes the number of a line. Where a line starts is what the display is
asked for, so the column is always the first.

That every error names a line of its file comes from the chain of blame; without it the report would
show the end of the text. Files that cannot be read as text show no place, and nothing is said of
them here.

**Results.**
* `Source.le_length_of_hasLine`: a header line is a line of the file's text.
* `Resolver.hasLine_of_mem_chain`: every error of a failed resolution names a line of its file.
* `report_located`: at which row and column the report shows each of them.
-/
namespace ScriptBuild

namespace Text

theorem length_pieces_le_cons (c : Char) (cs : List Char) :
    (pieces cs).length ≤ (pieces (c :: cs)).length := by
  rw [pieces_cons]
  unfold consPiece
  split
  · simp
  · split <;> simp_all

end Text

variable {files : FileSystem} {path : Path} {cause : Failure}

/-! ## The lines that errors name -/

namespace Source

theorem length_pieces_dropMark_le (cs : List Char) :
    (Text.pieces (dropMark cs)).length ≤ (Text.pieces cs).length := by
  unfold dropMark
  split
  · exact Text.length_pieces_le_cons _ _
  · exact Nat.le_refl _

theorem le_length_of_hasLine {line : Nat} {text : String} (h : HasLine files path line)
    (read : files.readText path = .ok text) : line ≤ (Text.lineList text.toList).length := by
  obtain ⟨lines, hheader, -, hhigh⟩ := h
  obtain ⟨place, content, located, node⟩ := FileSystem.isFile_iff.mp (isFile_of_header hheader)
  obtain rfl : Header.scan (decode content) = lines :=
    Except.ok.inj ((header_of_resolve located node).symm.trans hheader)
  have htext : Text.Utf8.decode? content = some text := by
    simp only [FileSystem.readText, FileSystem.read, located, node] at read
    split at read
    · cases read
      assumption
    · cases read
  calc
    line ≤ (Text.lines (decode content)).length := hhigh.trans (Header.scan_length_le _)
    _ = (Text.pieces (dropMark text.toList)).length := by
      simp [Text.lines, Text.lineList, decode, Text.Utf8.lossyChars_of_decode? htext]
    _ ≤ (Text.pieces text.toList).length := length_pieces_dropMark_le _
    _ = (Text.lineList text.toList).length := by rw [Text.lineList, List.length_map]

theorem isDirective_of_canonical (h : canonical files path = .error cause) :
    cause.isDirective = false := by
  unfold canonical at h
  split at h
  · cases h
    exact (bare_of_checkFile (by assumption)).other
  · split at h
    · cases h
    · cases h
      rfl

end Source

namespace Resolver

variable {resolver : Resolver} {script : Path} {failure : Failure}

/-- Every error in the chain of a failed resolution names a line of its file. -/
theorem hasLine_of_mem_chain (failed : resolver.resolve files script = .error failure)
    {error : DirectiveError} (h : error ∈ failure.chain.1) :
    Source.HasLine files error.file error.line := by
  have hbare : failure.isDirective = true := by
    by_contra hplain
    rw [Failure.chain_of_not_directive (by simpa using hplain)] at h
    cases h
  obtain ⟨entered, result, rules⟩ := exists_resolves resolver files script
  obtain rfl : result = .error failure := (resolve_of_resolves rules).symm.trans failed
  cases rules with
  | missing located => simp [Source.isDirective_of_canonical located] at hbare
  | unreadable located header => simp [(Source.bare_of_header header).other] at hbare
  | followed located read run =>
    exact (blames_of_follows run (.start read) rfl).attributed.lines _ h

end Resolver

namespace Report

/-- What is shown of an error stands at the row that its line starts in: the row of the line's
number, unless an earlier line of the file holds what ends a row, but no line. -/
structure Located (files : FileSystem) (error : DirectiveError) (block text : String) : Prop where
  /-- The error names a line of its file as headers count lines. -/
  line : Source.HasLine files error.file error.line
  /-- The place that is shown, which is one only. -/
  place : ∀ row column, Points block error.file.text row column ↔
    row = error.line + strays text.toList error.line ∧ column = 1
  /-- When it is the place that the error names. -/
  exact : (∃ column, Points block error.file.text error.line column) ↔
    ∀ earlier ∈ (Text.lineList text.toList).take (error.line - 1), ∀ c ∈ earlier,
      isRowEnd c = false

theorem located_ofDirective {error : DirectiveError} {text : String}
    (line : Source.HasLine files error.file error.line)
    (read : files.readText error.file = .ok text) (note : Option String) :
    Located files error (ofDirective files error note) text := by
  have hpoints : Points (ofDirective files error note) error.file.text
      (error.line + strays text.toList error.line) 1 := by
    obtain ⟨chars, hrow⟩ := Row.at?_ofLine line.choose_spec.2.1
      (Source.le_length_of_hasLine line read)
    have hblock := points_render (highlightOf error text note) hrow
    rw [highlightOf, Nat.sub_self, ← highlightOf] at hblock
    rwa [ofDirective_of_readText read]
  have hplace : ∀ row column, Points (ofDirective files error note) error.file.text row column ↔
      row = error.line + strays text.toList error.line ∧ column = 1 := by
    refine fun row column => ⟨fun h => h.eq hpoints, ?_⟩
    rintro ⟨rfl, rfl⟩
    exact hpoints
  refine ⟨line, hplace, ?_⟩
  simp only [hplace, ← strays_eq_zero_iff]
  constructor
  · rintro ⟨column, hrow, -⟩
    omega
  · intro hnone
    exact ⟨1, by omega, rfl⟩

/-- In the report of a failed resolution there is one block for each error of the chain, in order,
and that of a file which can be shown stands where its line starts on the display. -/
theorem report_located {resolver : Resolver} {script : Path} {failure : Failure}
    (failed : resolver.resolve files script = .error failure) :
    ofDirectives files failure = String.join (blocks files failure) ∧
    List.Forall₂ (fun error block => ∀ text, files.readText error.file = .ok text →
      Located files error block text) failure.chain.1 (blocks files failure) :=
  ⟨ofDirectives_eq_join files failure, forall₂_blocksOf fun _ herror note _ read =>
    located_ofDirective (Resolver.hasLine_of_mem_chain failed herror) read note⟩

open Resolver in
theorem report_located_includesItself :
    sourceOnly.resolve includesItself ⟨"/main"⟩ = .error blamedTwice ∧
    ofDirectives includesItself blamedTwice = String.join (blocks includesItself blamedTwice) ∧
    List.Forall₂ (fun error block => ∀ text, includesItself.readText error.file = .ok text →
      Located includesItself error block text)
      [⟨⟨"/main"⟩, 2, .includeFailed⟩, ⟨⟨"/main"⟩, 3, .includeFailed⟩]
      (blocks includesItself blamedTwice) :=
  ⟨resolve_includesItself, report_located resolve_includesItself⟩

/-! ## A line with a vertical tab -/

/-- A vertical tab in a comment, and then a faulty directive. -/
def tabbedText : String := "// a\x0Bb\n//#version 1\n"

def tabbed : FileSystem := Resolver.besideUnit (Text.Utf8.encode tabbedText)

def secondLine : DirectiveError := ⟨⟨"/main"⟩, 2, .versionUnsupported⟩

theorem header_tabbed :
    Source.header tabbed ⟨"/main"⟩ = .ok ["// a\x0Bb", "//#version 1"] := by
  rw [tabbed, Source.header_of_resolve Resolver.resolve_main rfl]
  cbv

theorem resolve_tabbed :
    Resolver.sourceOnly.resolve tabbed ⟨"/main"⟩ = .error (.directive secondLine) := by
  have hcomment : ∀ directory, Header.meaning tabbed directory ⟨"/"⟩ "// a\x0Bb" = .ok .skip := by
    intro directory
    cbv
  have hversion : ∀ directory, Header.meaning tabbed directory ⟨"/"⟩ "//#version 1" =
      .error .versionUnsupported := by
    intro directory
    cbv
  have hnext : (HeaderScan.start ⟨"/main"⟩ ["// a\x0Bb", "//#version 1"] ⟨"/"⟩).next tabbed =
      (some (.error secondLine), ⟨⟨"/main"⟩, ⟨"/"⟩, [], 2⟩) := by
    rw [HeaderScan.next_of_skip rfl (hcomment _), HeaderScan.next_of_fault rfl (hversion _)]
    rfl
  exact Resolver.resolve_of_resolves
    (.followed Resolver.canonical_main header_tabbed (.faulty hnext))

theorem readText_tabbed : tabbed.readText ⟨"/main"⟩ = .ok tabbedText := by
  have hplace : tabbed.resolve ⟨"/main"⟩ = .ok ["main"] := Resolver.resolve_main
  have hnode : tabbed.node? ["main"] = some (.file (Text.Utf8.encode tabbedText)) := rfl
  have hdecode : Text.Utf8.decode? (Text.Utf8.encode tabbedText) = some tabbedText := by
    cbv
  simp only [FileSystem.readText, FileSystem.read, hplace, hnode, hdecode]

/-- The display ends a row at the tab, so it shows the second line as the third row. -/
theorem report_beside :
    Resolver.sourceOnly.resolve tabbed ⟨"/main"⟩ = .error (.directive secondLine) ∧
    tabbed.readText secondLine.file = .ok tabbedText ∧
    ∃ block, ofDirectives tabbed (.directive secondLine) = block ∧ secondLine.line = 2 ∧
      Points block "/main" 3 1 ∧ ∀ column, ¬Points block "/main" 2 column := by
  have hline : Source.HasLine tabbed ⟨"/main"⟩ 2 := ⟨_, header_tabbed, by decide, by decide⟩
  have hlocated : Located tabbed secondLine (ofDirective tabbed secondLine none) tabbedText :=
    located_ofDirective hline readText_tabbed none
  have hstrays : strays tabbedText.toList secondLine.line = 1 := by decide
  have hplace := hlocated.place
  rw [hstrays] at hplace
  refine ⟨resolve_tabbed, readText_tabbed, _, rfl, rfl, (hplace 3 1).mpr ⟨rfl, rfl⟩, ?_⟩
  intro column h
  exact absurd ((hplace 2 column).mp h).1 (by decide)

end Report

end ScriptBuild
