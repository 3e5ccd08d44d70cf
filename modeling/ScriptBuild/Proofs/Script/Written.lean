import ScriptBuild.Proofs.Script.Findings
import ScriptBuild.Proofs.Text.Trimming

/-!
# Headers as they are written

A header may be written line by line: blank lines, comments, `using` lines, references and includes,
with blanks where blanks may be. Reading it gives back the references and includes, each with the
number of its line.

What may be written is described by structures that carry the proofs: an argument without newlines,
which may hold delimiters of its own, a comment of one word, a `using` line with its space, blanks
that are blanks. Commands may be in either case. Every line has its own ending, a newline with or
without a carriage return, and the last line may have none; behind the header comes a body, which
starts with a line that no header admits, or nothing.

Reading is then by induction on the lines. A line of the header is trimmed to what was written
between its blanks, splits at the first space, and its argument is what stands between its
delimiters.

**Results.**
* `read?_eq_some_iff`: an argument is read off exactly the texts that it is written as.
* `splitCommand_directive`: a written directive falls into its command and its argument.
* `scan_written`: the header of a written script are the lines it was written with.
* `items_written`: what is found in a written script is what was written.
-/
namespace ScriptBuild

/-! ## What is written -/

/-- Blanks on one line. -/
structure Blanks where
  chars : List Char
  blank : ∀ c ∈ chars, Text.isBlank c = true
  oneLine : '\n' ∉ chars

/-- Blanks between a command and its argument. A space is among them. -/
structure Gap extends Blanks where
  space : ' ' ∈ chars

/-- A command with some of its letters in upper case. -/
structure Spelling (command : String) where
  chars : List Char
  lower : chars.map Char.toLower = command.toList

/-- An argument in its delimiters. -/
def Argument.written : Argument → List Char
  | .quoted inner => '"' :: inner.toList ++ ['"']
  | .bracketed inner => '<' :: inner.toList ++ ['>']

/-- What stands on a line of a header, but for the blanks around it. -/
inductive HeaderEntry
  | blank
  /-- A comment without a space. -/
  | comment (text : List Char) (oneWord : ' ' ∉ text) (oneLine : '\n' ∉ text)
  /-- A `using` line. What it names is not blank, and not in delimiters. -/
  | uses (named : List Char) (solid : ∃ c ∈ named, Text.isBlank c = false)
    (bare : ∀ argument : Argument, Text.trimChars named ≠ argument.written) (oneLine : '\n' ∉ named)
  | reference (command : Spelling Directive.referenceCommand) (gap : Gap) (name : Argument)
    (oneLine : '\n' ∉ name.inner.toList)
  | includes (command : Spelling Directive.includeCommand) (gap : Gap) (unit : Argument)
    (oneLine : '\n' ∉ unit.inner.toList)

namespace HeaderEntry

def chars : HeaderEntry → List Char
  | .blank => []
  | .comment text _ _ => '/' :: '/' :: text
  | .uses named _ _ _ => "using ".toList ++ named
  | .reference command gap name _ => command.chars ++ gap.chars ++ name.written
  | .includes command gap unit _ => command.chars ++ gap.chars ++ unit.written

/-- The directive that an entry is, in a file of `directory`. -/
def directive? (files : FileSystem) (directory reference : Path) : HeaderEntry → Option Directive
  | .blank | .comment _ _ _ | .uses _ _ _ _ => none
  | .reference _ _ name _ => some (.reference name.inner)
  | .includes _ _ unit _ =>
    some (.includes (files.fullPath ((unit.base directory reference).join ⟨unit.inner⟩)))

end HeaderEntry

/-- A line of a header: an entry with blanks around it. A carriage return may stand in front of the
newline that ends the line. -/
structure HeaderLine where
  before : Blanks
  entry : HeaderEntry
  after : Blanks
  returns : Bool

namespace HeaderLine

def content (line : HeaderLine) : List Char :=
  line.before.chars ++ line.entry.chars ++ line.after.chars ++ if line.returns then ['\r'] else []

def chars (line : HeaderLine) : List Char := line.content ++ ['\n']

end HeaderLine

def written (lines : List HeaderLine) (body : String) : String :=
  String.ofList (lines.flatMap HeaderLine.chars ++ body.toList)

/-- What stands behind a header: nothing, or a text whose first line is none of a header. -/
def OpensBody (body : String) : Prop :=
  ∀ first ∈ (Text.lines body).head?, Header.isHeaderLine (Text.trim first) = false

/-! ## Arguments and commands -/

namespace Argument

variable {first last : Char} {cs inner : List Char} {raw : String} {argument : Argument}

theorem between_eq_some_iff :
    between first last cs = some inner ↔ cs = first :: inner ++ [last] := by
  cases cs with
  | nil => simp [between]
  | cons c rest =>
    constructor
    · intro h
      rw [between] at h
      split at h
      · rename_i hends
        obtain ⟨rfl, hlast⟩ := hends
        obtain ⟨front, rfl⟩ := List.getLast?_eq_some_iff.mp hlast
        obtain rfl : front = inner := by simpa using h
        rfl
      · cases h
    · intro h
      obtain ⟨rfl, rfl⟩ : c = first ∧ rest = inner ++ [last] := by simpa using h
      simp [between]

/-- An argument is read off exactly the text that it is written as. -/
theorem read?_eq_some_iff : read? raw = some argument ↔ raw.toList = argument.written := by
  unfold read?
  cases hquoted : between '"' '"' raw.toList with
  | some inner =>
    rw [between_eq_some_iff] at hquoted
    cases argument with
    | quoted text => simp [hquoted, written, ← String.toList_inj]
    | bracketed text => simp [hquoted, written]
  | none =>
    have hnot : ∀ inner, raw.toList ≠ '"' :: inner ++ ['"'] := fun inner h => by
      rw [← between_eq_some_iff, hquoted] at h
      cases h
    cases argument with
    | quoted text => simpa [written] using hnot text.toList
    | bracketed text =>
      simp only [Option.map_eq_some_iff, between_eq_some_iff, Argument.bracketed.injEq, written]
      constructor
      · rintro ⟨inner, hinner, rfl⟩
        rw [hinner, String.toList_ofList]
      · intro h
        exact ⟨text.toList, h, String.ofList_toList⟩

theorem newline_notMem_written (h : '\n' ∉ argument.inner.toList) : '\n' ∉ argument.written := by
  cases argument with
  | quoted inner => simpa [written, Argument.inner] using h
  | bracketed inner => simpa [written, Argument.inner] using h

theorem exists_solid_written (argument : Argument) :
    ∃ c ∈ argument.written, Text.isBlank c = false := by
  cases argument with
  | quoted inner => exact ⟨'"', by simp [written], by decide⟩
  | bracketed inner => exact ⟨'<', by simp [written], by decide⟩

theorem trimEnd_written (argument : Argument) :
    Text.trimEnd argument.written = argument.written := by
  have hend : ∀ (front : List Char) (last : Char), Text.isBlank last = false →
      Text.trimEnd (front ++ [last]) = front ++ [last] := fun front last h => by
    rw [Text.trimEnd_append ⟨last, by simp, h⟩, Text.trimEnd_cons h]
    rfl
  cases argument with
  | quoted inner => exact hend ('"' :: inner.toList) '"' (by decide)
  | bracketed inner => exact hend ('<' :: inner.toList) '>' (by decide)

theorem trimChars_written (argument : Argument) :
    Text.trimChars argument.written = argument.written := by
  have hstart : Text.trimChars argument.written = Text.trimEnd argument.written := by
    cases argument with
    | quoted inner => exact congrArg _ (List.dropWhile_cons_of_neg (by decide))
    | bracketed inner => exact congrArg _ (List.dropWhile_cons_of_neg (by decide))
  rw [hstart, trimEnd_written]

end Argument

/-- What the command of a directive is like. -/
structure Directive.IsCommand (command : String) : Prop where
  slashes : ∃ name, command.toList = '/' :: '/' :: name
  plain : (command.toList.all fun c => !Text.isBlank c && decide (c.toNat < 128)) = true

theorem Directive.isCommand_reference : IsCommand referenceCommand := ⟨⟨_, rfl⟩, by decide⟩

theorem Directive.isCommand_include : IsCommand includeCommand := ⟨⟨_, rfl⟩, by decide⟩

namespace Spelling

variable {command : String}

theorem plain (h : Directive.IsCommand command) (spelling : Spelling command) :
    ∀ c ∈ spelling.chars, Text.isBlank c = false ∧ c.toNat < 128 := by
  intro c hc
  have hmem : c.toLower ∈ command.toList := spelling.lower ▸ List.mem_map_of_mem hc
  rcases Text.toLower_eq_or c with hself | ⟨hlow, hhigh, -⟩
  · simpa using List.all_eq_true.mp h.plain c (hself ▸ hmem)
  · have hcapital : Text.Ranges.covers [(65, 90)] c = true := by
      simp [Text.Ranges.covers, hlow, hhigh]
    have hapart : Text.Ranges.apart [(65, 90)] Text.blankRanges = true := by decide
    exact ⟨Text.Ranges.not_covers_of_apart hapart hcapital, by omega⟩

theorem newline_notMem (h : Directive.IsCommand command) (spelling : Spelling command) :
    '\n' ∉ spelling.chars := fun hmem => by
  have hsolid := (spelling.plain h '\n' hmem).1
  simp [Text.isBlank_newline] at hsolid

theorem starts (h : Directive.IsCommand command) (spelling : Spelling command) :
    ∃ name, spelling.chars = '/' :: '/' :: name := by
  obtain ⟨name, hname⟩ := h.slashes
  have hlower := spelling.lower.trans hname
  have hslash : ∀ c : Char, c.toLower = '/' → c = '/' := by
    intro c hc
    rcases Text.toLower_eq_or c with hself | ⟨hlow, -, hnext⟩
    · exact hself.symm.trans hc
    · have : '/'.toNat = 47 := rfl
      rw [hc] at hnext
      omega
  obtain ⟨first, rest, hchars, hfirst, hrest⟩ := List.map_eq_cons_iff.mp hlower
  obtain ⟨second, rest', rfl, hsecond, -⟩ := List.map_eq_cons_iff.mp hrest
  exact ⟨rest', by rw [hchars, hslash first hfirst, hslash second hsecond]⟩

theorem lowerChars_trimChars (h : Directive.IsCommand command) (spelling : Spelling command)
    {gap : List Char} (blank : ∀ c ∈ gap, Text.isBlank c = true) :
    Text.lowerChars (Text.trimChars (spelling.chars ++ gap)) = command.toList := by
  have hplain := spelling.plain h
  rw [Text.trimChars_append_blank _ blank, Text.trimChars_of_solid, Text.lowerChars_ascii,
    spelling.lower]
  · exact fun c hc => (hplain c hc).2
  · exact fun c hc => (hplain c (List.mem_of_mem_head? hc)).1
  · exact fun c hc => (hplain c (List.mem_of_getLast? hc)).1

end Spelling

namespace Header

variable {command : String} {files : FileSystem} {directory reference : Path}

theorem splitCommand_directive (h : Directive.IsCommand command) (spelling : Spelling command)
    (gap : Gap) (argument : Argument) :
    splitCommand (String.ofList (spelling.chars ++ gap.chars ++ argument.written)) =
      some (command, String.ofList argument.written) := by
  obtain ⟨front, back, hgap, hfront⟩ := List.eq_append_cons_of_mem gap.space
  have hblank : ∀ c ∈ front ++ ' ' :: back, Text.isBlank c = true := hgap ▸ gap.blank
  have hspace : ' ' ∉ spelling.chars ++ front := by
    intro hmem
    rcases List.mem_append.mp hmem with hmem | hmem
    · have hsolid := (spelling.plain h ' ' hmem).1
      simp [show Text.isBlank ' ' = true by decide] at hsolid
    · exact hfront hmem
  have hcut : Text.cutOnce ' ' (spelling.chars ++ gap.chars ++ argument.written) =
      some (spelling.chars ++ front, back ++ argument.written) := by
    rw [hgap, ← Text.cutOnce_append hspace]
    simp
  rw [splitCommand, String.toList_ofList, hcut, Option.map_some]
  dsimp only
  rw [spelling.lowerChars_trimChars h fun c hc => hblank c (List.mem_append_left _ hc),
    Text.trimChars_blank_append _ fun c hc => hblank c (by simp [hc]), argument.trimChars_written,
    String.ofList_toList]

theorem meaning_of_reference {line raw : String} {argument : Argument}
    (split : splitCommand line = some (Directive.referenceCommand, raw))
    (read : Argument.read? raw = some argument) :
    meaning files directory reference line = .ok (.found (.reference argument.inner)) := by
  simp [meaning, split, read, Directive.versionCommand, Directive.modeCommand,
    Directive.referenceCommand]

theorem trimChars_directive (h : Directive.IsCommand command) (spelling : Spelling command)
    (gap : Gap) (argument : Argument) :
    Text.trimChars (spelling.chars ++ gap.chars ++ argument.written) =
      spelling.chars ++ gap.chars ++ argument.written := by
  obtain ⟨name, hname⟩ := spelling.starts h
  rw [hname, List.cons_append, List.cons_append, Text.trimChars_cons (by decide),
    Text.trimEnd_append argument.exists_solid_written, argument.trimEnd_written]

theorem newline_notMem_directive (h : Directive.IsCommand command) (spelling : Spelling command)
    (gap : Gap) {argument : Argument} (oneLine : '\n' ∉ argument.inner.toList) :
    '\n' ∉ spelling.chars ++ gap.chars ++ argument.written := by
  simp only [List.mem_append, not_or]
  exact ⟨⟨spelling.newline_notMem h, gap.oneLine⟩, Argument.newline_notMem_written oneLine⟩

theorem admits_slashes (rest : List Char) :
    admits (Text.trimChars ('/' :: '/' :: rest)) = true := by
  have hslash : Text.isBlank '/' = false := by decide
  rw [Text.trimChars_cons hslash, Text.trimEnd_cons hslash]
  rfl

theorem admits_directive (h : Directive.IsCommand command) (spelling : Spelling command)
    (gap : Gap) (argument : Argument) :
    admits (Text.trimChars (spelling.chars ++ gap.chars ++ argument.written)) = true := by
  obtain ⟨rest, hrest⟩ := spelling.starts h
  rw [hrest]
  exact admits_slashes _

/-! ## Lines that are no directives -/

variable {named text : List Char}

theorem trimChars_uses (solid : ∃ c ∈ named, Text.isBlank c = false) :
    Text.trimChars ("using ".toList ++ named) = "using".toList ++ ' ' :: Text.trimEnd named := by
  change Text.trimChars ('u' :: ("sing ".toList ++ named)) = _
  rw [Text.trimChars_cons (by decide), Text.trimEnd_append solid]
  rfl

theorem admits_uses (solid : ∃ c ∈ named, Text.isBlank c = false) :
    admits (Text.trimChars ("using ".toList ++ named)) = true := by
  rw [trimChars_uses solid]
  rfl

/-- What has no space has no argument. -/
theorem meaning_comment (h : ' ' ∉ text) :
    meaning files directory reference (String.ofList (Text.trimChars ('/' :: '/' :: text))) =
      .ok .skip := by
  have hspace : ' ' ∉ Text.trimChars ('/' :: '/' :: text) := fun hmem => by
    have hwritten := (Text.trimChars_sublist _).subset hmem
    simp [h] at hwritten
  have hsplit : splitCommand (String.ofList (Text.trimChars ('/' :: '/' :: text))) = none := by
    rw [splitCommand, String.toList_ofList, Text.cutOnce_eq_none hspace, Option.map_none]
  rw [meaning, hsplit]

/-- What is named without delimiters is no argument. -/
theorem meaning_uses (solid : ∃ c ∈ named, Text.isBlank c = false)
    (bare : ∀ argument : Argument, Text.trimChars named ≠ argument.written) :
    meaning files directory reference (String.ofList (Text.trimChars ("using ".toList ++ named))) =
      .ok .skip := by
  have hsplit : splitCommand (String.ofList ("using".toList ++ ' ' :: Text.trimEnd named)) =
      some ("using", String.ofList (Text.trimChars named)) := by
    rw [splitCommand, String.toList_ofList, Text.cutOnce_append (by decide), Option.map_some]
    dsimp only
    rw [Text.trimChars_trimEnd]
    rfl
  have hread : Argument.read? (String.ofList (Text.trimChars named)) = none := by
    rw [Option.eq_none_iff_forall_ne_some]
    intro argument hread
    rw [Argument.read?_eq_some_iff, String.toList_ofList] at hread
    exact bare argument hread
  rw [trimChars_uses solid, meaning, hsplit]
  simp [hread, Directive.versionCommand, Directive.referenceCommand, Directive.includeCommand]

end Header

namespace HeaderEntry

variable {files : FileSystem} {directory reference : Path}

theorem newline_notMem_chars (entry : HeaderEntry) : '\n' ∉ entry.chars := by
  cases entry with
  | blank => exact List.not_mem_nil
  | comment text oneWord oneLine =>
    change '\n' ∉ '/' :: '/' :: text
    simpa using oneLine
  | uses named solid bare oneLine =>
    change '\n' ∉ "using ".toList ++ named
    rw [List.mem_append, not_or]
    exact ⟨by decide, oneLine⟩
  | reference command gap name oneLine =>
    exact Header.newline_notMem_directive Directive.isCommand_reference command gap oneLine
  | includes command gap unit oneLine =>
    exact Header.newline_notMem_directive Directive.isCommand_include command gap oneLine

theorem admits_trimChars (entry : HeaderEntry) :
    Header.admits (Text.trimChars entry.chars) = true := by
  cases entry with
  | blank => rfl
  | comment text oneWord oneLine => exact Header.admits_slashes text
  | uses named solid bare oneLine => exact Header.admits_uses solid
  | reference command gap name oneLine =>
    exact Header.admits_directive Directive.isCommand_reference command gap name
  | includes command gap unit oneLine =>
    exact Header.admits_directive Directive.isCommand_include command gap unit

/-- An entry means the directive that it is, and nothing if it is none. -/
theorem meaning_trimChars (entry : HeaderEntry) :
    Header.meaning files directory reference (String.ofList (Text.trimChars entry.chars)) =
      .ok (match entry.directive? files directory reference with
        | some directive => .found directive
        | none => .skip) := by
  cases entry with
  | blank => rfl
  | comment text oneWord oneLine => exact Header.meaning_comment oneWord
  | uses named solid bare oneLine => exact Header.meaning_uses solid bare
  | reference command gap name oneLine =>
    have hcommand := Directive.isCommand_reference
    have hread := Argument.read?_eq_some_iff.mpr (String.toList_ofList (l := name.written))
    have hmeaning : Header.meaning files directory reference (String.ofList
        (command.chars ++ gap.chars ++ name.written)) = .ok (.found (.reference name.inner)) :=
      Header.meaning_of_reference (Header.splitCommand_directive hcommand command gap name) hread
    rw [← Header.trimChars_directive hcommand] at hmeaning
    exact hmeaning
  | includes command gap unit oneLine =>
    have hcommand := Directive.isCommand_include
    have hread := Argument.read?_eq_some_iff.mpr (String.toList_ofList (l := unit.written))
    have hmeaning : Header.meaning files directory reference (String.ofList
        (command.chars ++ gap.chars ++ unit.written)) = .ok (.found (.includes
          (files.fullPath ((unit.base directory reference).join ⟨unit.inner⟩)))) :=
      Header.meaning_of_include (Header.splitCommand_directive hcommand command gap unit) hread
    rw [← Header.trimChars_directive hcommand] at hmeaning
    exact hmeaning

end HeaderEntry

/-! ## The header of a written script -/

namespace Header

variable {lines : List HeaderLine} {body : String}

theorem trimChars_content (line : HeaderLine) :
    Text.trimChars line.content = Text.trimChars line.entry.chars := by
  have hreturns : ∀ c ∈ (if line.returns then ['\r'] else []), Text.isBlank c = true := by
    cases line.returns <;> simp [Text.isBlank_return]
  rw [HeaderLine.content, Text.trimChars_append_blank _ hreturns,
    Text.trimChars_append_blank _ line.after.blank, Text.trimChars_blank_append _ line.before.blank]

theorem newline_notMem_content (line : HeaderLine) : '\n' ∉ line.content := by
  have hreturns : '\n' ∉ (if line.returns then ['\r'] else []) := by
    cases line.returns <;> simp
  simp [HeaderLine.content, line.before.oneLine, line.entry.newline_notMem_chars,
    line.after.oneLine, hreturns]

theorem scanChars_line (line : HeaderLine) (rest : List Char) :
    scanChars (line.chars ++ rest) = Text.trimChars line.entry.chars :: scanChars rest := by
  have hpieces : Text.pieces (line.chars ++ rest) = line.chars :: Text.pieces rest := by
    rw [HeaderLine.chars, ← Text.pieces_append_line (newline_notMem_content line)]
    simp
  have htrim : Text.trimChars (Text.dropTerminator line.chars) =
      Text.trimChars line.entry.chars := by
    rw [Text.trimChars_dropTerminator, HeaderLine.chars,
      Text.trimChars_append_blank _ (by simp [Text.isBlank_newline]), trimChars_content]
  rw [scanChars, scanChars, Text.lineList, Text.lineList, hpieces, List.map_cons, List.map_cons,
    htrim, List.takeWhile_cons_of_pos line.entry.admits_trimChars]

theorem scanChars_body (h : OpensBody body) : scanChars body.toList = [] := by
  unfold OpensBody at h
  rw [scanChars]
  cases hlines : Text.lineList body.toList with
  | nil => rfl
  | cons first later =>
    have hfirst : admits (Text.trimChars first) = false := by
      simpa [Text.lines, hlines, isHeaderLine, Text.trim] using h
    rw [List.map_cons, List.takeWhile_cons_of_neg (by simp [hfirst])]

/-- The header of a written script are the lines it was written with. -/
theorem scan_written (lines : List HeaderLine) (h : OpensBody body) :
    scan (written lines body) =
      lines.map fun line => String.ofList (Text.trimChars line.entry.chars) := by
  have hchars : scanChars (lines.flatMap HeaderLine.chars ++ body.toList) =
      lines.map fun line => Text.trimChars line.entry.chars := by
    induction lines with
    | nil => exact scanChars_body h
    | cons line lines ih =>
      rw [List.flatMap_cons, List.append_assoc, scanChars_line, ih, List.map_cons]
  rw [scan, written, String.toList_ofList, hchars, List.map_map]
  rfl

end Header

/-- Whatever the lines of a header, and whatever stands behind it, what is found in the script are
the references and includes that were written, each with the number of its line. A reference is
found as it was written; an include is found as the full path of what was written, seen from the
directory of its file if it was quoted, and from the reference directory if it was not. -/
theorem items_written (files : FileSystem) (file reference : Path) (lines : List HeaderLine)
    (body : String) (opens : OpensBody body) :
    (HeaderScan.start file (Header.scan (written lines body)) reference).items files =
      (lines.zipIdx 1).filterMap fun (line, number) =>
        (line.entry.directive? files file.directory reference).map fun directive =>
          .ok (number, directive) := by
  -- Each line means the directive that its entry is, and none ends the search.
  let read (line : HeaderLine) : Header.Read :=
    .ok (match line.entry.directive? files file.directory reference with
      | some directive => .found directive
      | none => .skip)
  have hreads : (Header.scan (written lines body)).map
      (Header.meaning files file.directory reference) = lines.map read := by
    rw [Header.scan_written lines opens, List.map_map]
    exact List.map_congr_left fun line _ => line.entry.meaning_trimChars
  have hgoes : ∀ line, (read line).isLast = false := by
    intro line
    cases h : line.entry.directive? files file.directory reference <;>
      simp [read, h, Header.Read.isLast]
  have hdirective : ∀ line,
      (read line).directive? = line.entry.directive? files file.directory reference := by
    intro line
    cases h : line.entry.directive? files file.directory reference <;>
      simp [read, h, Header.Read.directive?]
  rw [HeaderScan.items_eq_findings]
  change Header.findings file 0 ((Header.scan (written lines body)).map
    (Header.meaning files file.directory reference)) = _
  rw [hreads, Header.findings_of_not_last (by simpa using fun line _ => hgoes line),
    List.zipIdx_map, List.filterMap_map]
  simp [hdirective]

def Blanks.none : Blanks := ⟨[], by simp, by simp⟩

def Blanks.space : Blanks := ⟨[' '], by simp; decide, by simp⟩

/-- A blank line, a comment, a `using` line, and two directives. -/
def mixedLines : List HeaderLine :=
  [⟨.space, .blank, .none, true⟩,
   ⟨.none, .comment "Tool".toList (by decide) (by decide), .none, false⟩,
   ⟨.none, .uses "System;".toList ⟨'S', by decide, by decide⟩
      (fun argument => by
        have hsolid : Text.trimChars "System;".toList = 'S' :: "ystem;".toList := rfl
        rw [hsolid]
        cases argument <;> simp [Argument.written])
      (by decide), .none, false⟩,
   ⟨.space, .reference ⟨"//#REF".toList, by decide⟩
      ⟨⟨['\t', ' '], by simp; decide, by decide⟩, by decide⟩ (.quoted "a \"b\"") (by decide),
    .space, true⟩,
   ⟨.none, .includes ⟨"//#Include".toList, by decide⟩ ⟨.space, by decide⟩ (.bracketed "Unit.cs")
      (by decide), .none, false⟩]

theorem items_written_mixed :
    OpensBody "return 0;" ∧
    (HeaderScan.start ⟨"/main.cs"⟩ (Header.scan (written mixedLines "return 0;")) ⟨"/Ref"⟩).items
        ⟨[], []⟩ =
      [.ok (4, .reference "a \"b\""), .ok (5, .includes ⟨"/Ref/Unit.cs"⟩)] := by
  have hopens : OpensBody "return 0;" := by
    have hlines : Text.lines "return 0;" = ["return 0;"] := rfl
    intro first hfirst
    obtain rfl : "return 0;" = first := by simpa [hlines] using hfirst
    decide
  -- The included file does not exist, so its path is spelled out by its text.
  have hlocate : (⟨[], []⟩ : FileSystem).locate .spell ⟨"/Ref/Unit.cs"⟩ = .error .missing := by
    let name : Text.Utf8.Bytes := "Ref"
    let rest : List Text.Utf8.Bytes := ["Unit.cs"]
    have hparts : ((⟨[], []⟩ : FileSystem).cwd.path.join ⟨"/Ref/Unit.cs"⟩).parts =
        [] :: name :: rest := rfl
    have hrefusal : FileSystem.refusal? .spell [] name rest = none := rfl
    have hplain : ¬(name = [] ∨ name = [Path.dot]) := by decide
    have hdown : name ≠ [Path.dot, Path.dot] := by decide
    have hshort : ¬FileSystem.nameLimit < name.length := by decide
    have hnone : (⟨[], []⟩ : FileSystem).node? [name] = none := rfl
    have hzero : ¬(Text.Utf8.encode "/Ref/Unit.cs").contains 0 = true := by decide
    rw [FileSystem.locate, if_neg (by decide), if_neg hzero, if_pos rfl, hparts]
    simp [FileSystem.walk, hrefusal, hplain, hdown, hshort, hnone]
  have hpath : (⟨[], []⟩ : FileSystem).fullPath ((⟨"/Ref"⟩ : Path).join ⟨"Unit.cs"⟩) =
      ⟨"/Ref/Unit.cs"⟩ := by
    have hjoin : (⟨"/Ref"⟩ : Path).join ⟨"Unit.cs"⟩ = ⟨"/Ref/Unit.cs"⟩ := rfl
    rw [hjoin, FileSystem.fullPath, FileSystem.canonical, hlocate]
    rfl
  have hfound := items_written ⟨[], []⟩ ⟨"/main.cs"⟩ ⟨"/Ref"⟩ mixedLines "return 0;" hopens
  refine ⟨hopens, ?_⟩
  rw [hfound]
  simp [mixedLines, HeaderEntry.directive?, Argument.base, Argument.inner, hpath]

end ScriptBuild
