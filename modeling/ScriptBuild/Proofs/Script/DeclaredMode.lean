import ScriptBuild.Proofs.FileSystem.Root
import ScriptBuild.Proofs.FileSystem.Walk
import ScriptBuild.Proofs.FileSystem.Writing
import ScriptBuild.Proofs.Script.Findings
import ScriptBuild.Proofs.Script.Reading

/-!
# The mode a file declares

The mode is searched for in a loop of its own, which goes on where the search for directives ends.
The first header line with the mode command decides, by the first word behind it. No line after it
is looked at, and those in front of it count only as lines that are not it.

So three things have to be known: what the header of a file is as a part of its text, which of its
lines set a mode, and what that line says. A line can set the mode and name none, and then it is an
error with the number of that line; a file that sets no mode has the default. `IsFirst` says of a
line that it is the first one that sets the mode, by what stands in front of it.

A line that ends the search for directives, or one that would be faulty there, is passed over here
like any other. And what comes after the deciding line, in the header or behind it, may be exchanged
for anything.

**Results.**
* `scan_decode`: a file's header is the leading run of those of its trimmed lines that a header may
  hold.
* `declaredFrom_of_isFirst`: the first line that sets the mode decides.
* `declaredFrom_exchange`: lines that the search for directives makes nothing of may be exchanged.
* `declared_by_first`: what a file declares.
-/
namespace ScriptBuild

open Text.Utf8 (Bytes)

namespace Source

def trimmedLines (content : Bytes) : List String := (Text.lines (decode content)).map Text.trim

theorem scan_decode (content : Bytes) :
    Header.scan (decode content) = (trimmedLines content).takeWhile Header.isHeaderLine := by
  have htrimmed : trimmedLines content =
      ((Text.lineList (decode content).toList).map Text.trimChars).map String.ofList := by
    simp [trimmedLines, Text.lines, Text.trim, Function.comp_def]
  have hadmits : Header.isHeaderLine ∘ String.ofList = Header.admits := by
    funext line
    simp [Header.isHeaderLine]
  rw [htrimmed, List.takeWhile_map, hadmits]
  rfl

theorem header_of_read {files : FileSystem} {path : Path} {content : Bytes}
    (read : files.read path = .ok content) :
    header files path = .ok (Header.scan (decode content)) := by
  obtain ⟨place, located, node⟩ := FileSystem.read_iff.mp read
  exact header_of_resolve located node

end Source

namespace Mode

variable {files : FileSystem} {file path directory reference : Path} {content : Bytes}
  {number : Nat} {line behind : String} {lines lines' earlier header header' : List String}

/-! ## The line that decides -/

/-- The first header line that sets the mode, with the lines in front of it. -/
structure IsFirst (lines earlier : List String) (line behind : String) : Prop where
  begins : earlier ++ [line] <+: lines
  inHeader : ∀ other ∈ earlier ++ [line], Header.isHeaderLine other = true
  unset : ∀ other ∈ earlier, ∀ text, ¬Sets other text
  sets : Sets line behind

theorem declaredFrom_append (h : ∀ other ∈ earlier, ∀ text, ¬Sets other text)
    (later : List String) :
    declaredFrom file number (earlier ++ later) =
      declaredFrom file (number + earlier.length) later := by
  induction earlier generalizing number with
  | nil => rfl
  | cons other earlier ih =>
    obtain ⟨hother, hearlier⟩ := List.forall_mem_cons.mp h
    rw [List.cons_append, declaredFrom_cons_of_unset hother, ih hearlier, List.length_cons,
      Nat.add_assoc, Nat.add_comm 1]

theorem declaredFrom_of_unset (h : ∀ other ∈ header, ∀ text, ¬Sets other text) :
    declaredFrom file number header = .ok .single := by
  have hall : declaredFrom file number (header ++ []) = _ := declaredFrom_append h []
  rwa [List.append_nil] at hall

/-- A header holds the first line that sets the mode, and what stands in front of it. -/
theorem IsFirst.takeWhile (h : IsFirst lines earlier line behind) :
    ∃ later, lines.takeWhile Header.isHeaderLine = earlier ++ line :: later := by
  obtain ⟨later, rfl⟩ := h.begins
  refine ⟨later.takeWhile Header.isHeaderLine, ?_⟩
  rw [List.takeWhile_append_of_pos h.inHeader, List.append_assoc, List.singleton_append]

theorem IsFirst.of_begins (h : IsFirst lines earlier line behind)
    (begins : earlier ++ [line] <+: lines') : IsFirst lines' earlier line behind :=
  ⟨begins, h.inHeader, h.unset, h.sets⟩

theorem exists_isFirst (hmem : line ∈ lines.takeWhile Header.isHeaderLine)
    (sets : Sets line behind) : ∃ earlier line behind, IsFirst lines earlier line behind := by
  classical
  have hsome : ((lines.takeWhile Header.isHeaderLine).find?
      fun other => ∃ text, Sets other text).isSome = true :=
    List.find?_isSome.mpr ⟨line, hmem, decide_eq_true ⟨behind, sets⟩⟩
  obtain ⟨first, hfirst⟩ := Option.isSome_iff_exists.mp hsome
  obtain ⟨hsets, earlier, later, hheader, hearlier⟩ := List.find?_eq_some_iff_append.mp hfirst
  obtain ⟨text, htext⟩ := of_decide_eq_true hsets
  have hbegins : earlier ++ [first] <+: lines.takeWhile Header.isHeaderLine :=
    ⟨later, by rw [hheader, List.append_assoc, List.singleton_append]⟩
  refine ⟨earlier, first, text, hbegins.trans (List.takeWhile_prefix _), fun other hother => ?_,
    fun other hother => ?_, htext⟩
  · exact List.mem_takeWhile_imp (hbegins.subset hother)
  · simpa using hearlier other hother

theorem declaredFrom_of_isFirst (h : IsFirst lines earlier line behind) :
    declaredFrom file 1 (lines.takeWhile Header.isHeaderLine) =
      value file (earlier.length + 1) line behind := by
  obtain ⟨later, hheader⟩ := h.takeWhile
  rw [hheader, declaredFrom_append h.unset, declaredFrom_cons_of_sets h.sets, Nat.add_comm]

/-! ## Lines that end another search -/

/-- The line is nothing to the search for directives, or the last line that is read in it. -/
def IsPassed (files : FileSystem) (directory reference : Path) (line : String) : Prop :=
  line = "" ∨ Header.Read.isLast (Header.meaning files directory reference line) = true

/-- No line that sets the mode ends the search for directives. -/
theorem not_sets_of_isPassed (h : IsPassed files directory reference line) :
    ∀ text, ¬Sets line text := by
  intro text hsets
  rcases h with rfl | hlast
  · obtain ⟨front, hline, -⟩ := hsets
    simp at hline
  · have hne : Directive.modeCommand ≠ Directive.versionCommand := by decide
    have hneRef : Directive.modeCommand ≠ Directive.referenceCommand := by decide
    have hneInc : Directive.modeCommand ≠ Directive.includeCommand := by decide
    rw [Header.meaning, splitCommand_of_sets hsets] at hlast
    simp only [hne, hneRef, hneInc, if_false, or_self, if_true] at hlast
    split at hlast <;> simp [Header.Read.isLast] at hlast

theorem declaredFrom_exchange
    (h : List.Forall₂ (fun line line' => line = line' ∨
      IsPassed files directory reference line ∧ IsPassed files directory reference line')
      header header') :
    declaredFrom file number header = declaredFrom file number header' := by
  induction h generalizing number with
  | nil => rfl
  | @cons line line' rest rest' hline _ ih =>
    by_cases hsets : ∃ behind, Sets line behind
    · obtain ⟨behind, hsets⟩ := hsets
      rcases hline with rfl | ⟨hpassed, -⟩
      · rw [declaredFrom_cons_of_sets hsets, declaredFrom_cons_of_sets hsets]
      · exact absurd hsets (not_sets_of_isPassed hpassed behind)
    · have hunset : ∀ text, ¬Sets line' text := by
        rcases hline with rfl | ⟨-, hpassed'⟩
        · exact not_exists.mp hsets
        · exact not_sets_of_isPassed hpassed'
      rw [declaredFrom_cons_of_unset (not_exists.mp hsets), declaredFrom_cons_of_unset hunset, ih]

/-! ## What a file declares -/

/-- A file without a line that sets the mode has mode `single`. Otherwise the first such line gives
the mode that the first word behind the space names, or an error on that line; with the same lines
up to there, any file gives the same. Nor does the mode depend on lines that end the search for
directives. -/
theorem declared_by_first (read : files.read path = .ok content) :
    ((∀ earlier line behind, ¬IsFirst (Source.trimmedLines content) earlier line behind) →
      declared files path = .ok .single) ∧
    (∀ earlier line behind, IsFirst (Source.trimmedLines content) earlier line behind →
      (∀ mode : Mode, Text.firstWord behind = mode.name → declared files path = .ok mode) ∧
      (Text.firstWord behind ∉ ["single", "simple", "complex"] →
        ∃ error, declared files path = .error (.directive error) ∧ error.file = path ∧
          error.line = earlier.length + 1 ∧ line.toList <:+: error.fault.message.toList) ∧
      ∀ after content', FileSystem.read after path = .ok content' →
        earlier ++ [line] <+: Source.trimmedLines content' →
        declared after path = declared files path) ∧
    ∀ after content' directory reference, FileSystem.read after path = .ok content' →
      List.Forall₂ (fun line line' => line = line' ∨
          IsPassed files directory reference line ∧ IsPassed files directory reference line')
        (Header.scan (Source.decode content)) (Header.scan (Source.decode content')) →
      declared after path = declared files path := by
  -- The mode is read off the header of whatever octets are read.
  have hdeclared : ∀ tree octets, FileSystem.read tree path = .ok octets →
      declared tree path =
        (declaredFrom path 1 (Header.scan (Source.decode octets))).mapError .directive := by
    intro tree octets hread
    cases hmode : declaredFrom path 1 (Header.scan (Source.decode octets)) <;>
      simp [declared, Source.header_of_read hread, hmode, Except.mapError]
  have hfirst : ∀ tree octets, FileSystem.read tree path = .ok octets →
      ∀ earlier line behind, IsFirst (Source.trimmedLines octets) earlier line behind →
      declared tree path =
        (value path (earlier.length + 1) line behind).mapError .directive := by
    intro tree octets hread earlier line behind h
    rw [hdeclared tree octets hread, Source.scan_decode, declaredFrom_of_isFirst h]
  refine ⟨fun hnone => ?_, fun earlier line behind h => ⟨fun mode hname => ?_, fun hbad => ?_,
    fun after content' hread' hbegins => ?_⟩, fun after content' directory reference hread' h => ?_⟩
  · have hunset : ∀ other ∈ Header.scan (Source.decode content), ∀ text, ¬Sets other text := by
      intro other hother text hsets
      rw [Source.scan_decode] at hother
      obtain ⟨earlier, line, behind, h⟩ := exists_isFirst hother hsets
      exact hnone earlier line behind h
    rw [hdeclared files content read, declaredFrom_of_unset hunset]
    rfl
  · rw [hfirst files content read earlier line behind h, value, hname, ofName?_name]
    rfl
  · have hvalue : ofName? (Text.firstWord behind) = none := by
      simp_all [ofName?]
    refine ⟨⟨path, earlier.length + 1, .badMode line⟩, ?_, rfl, rfl, ?_⟩
    · rw [hfirst files content read earlier line behind h, value, hvalue]
      rfl
    · have hmessage : (DirectiveFault.badMode line).message = "invalid mode line: " ++ line := rfl
      simp only [hmessage, String.toList_append]
      exact (List.suffix_append _ _).isInfix
  · rw [hfirst after content' hread' earlier line behind (h.of_begins hbegins),
      hfirst files content read earlier line behind h]
  · rw [hdeclared after content' hread', hdeclared files content read, declaredFrom_exchange h]

/-- A script whose first line ends the search for directives. The second sets the mode. -/
def halted (body : String) : Bytes :=
  Text.Utf8.encode ("//#end \"here\"\n//#MODE simple for now\n" ++ body)

def haltedTree (body : String) : FileSystem where
  nodes := [(["halted"], .file (halted body))]
  cwd := []

theorem read_haltedTree (body : String) :
    FileSystem.read (haltedTree body) ⟨"/halted"⟩ = .ok (halted body) := by
  have hname : FileSystem.RootName "halted" := by decide
  have hnode : (haltedTree body).node? ["halted"] = some (.file (halted body)) := rfl
  exact FileSystem.read_iff.mpr ⟨["halted"],
    FileSystem.resolve_path_of_spelled (hname.spelled hnode), hnode⟩

/-- The script has mode `simple`, also with a second mode line behind the first. -/
theorem declared_by_first_halted :
    FileSystem.read (haltedTree "f();") ⟨"/halted"⟩ = .ok (halted "f();") ∧
    IsFirst (Source.trimmedLines (halted "f();")) ["//#end \"here\""] "//#MODE simple for now"
      "simple for now" ∧
    Text.firstWord "simple for now" = Mode.simple.name ∧
    declared (haltedTree "f();") ⟨"/halted"⟩ = .ok .simple ∧
    FileSystem.read (haltedTree "//#mode none") ⟨"/halted"⟩ = .ok (halted "//#mode none") ∧
    declared (haltedTree "//#mode none") ⟨"/halted"⟩ = .ok .simple := by
  have hread := read_haltedTree "f();"
  have hread' := read_haltedTree "//#mode none"
  have hlines : Source.trimmedLines (halted "f();") =
      ["//#end \"here\"", "//#MODE simple for now", "f();"] := by decide +kernel
  have hlines' : Source.trimmedLines (halted "//#mode none") =
      ["//#end \"here\"", "//#MODE simple for now", "//#mode none"] := by decide +kernel
  have hend : Header.splitCommand "//#end \"here\"" = some ("//#end", "\"here\"") := by decide +kernel
  have hunset : ∀ other ∈ ["//#end \"here\""], ∀ text, ¬Sets other text := by
    intro other hother text hsets
    rw [List.mem_singleton] at hother
    have hsplit := splitCommand_of_sets hsets
    rw [hother, hend] at hsplit
    exact absurd hsplit (by simp [Directive.modeCommand])
  have hsets : Sets "//#MODE simple for now" "simple for now" :=
    ⟨"//#MODE".toList, rfl, by decide, by decide +kernel⟩
  have hfirst : IsFirst (Source.trimmedLines (halted "f();")) ["//#end \"here\""]
      "//#MODE simple for now" "simple for now" := by
    rw [hlines]
    exact ⟨⟨["f();"], rfl⟩, by decide, hunset, hsets⟩
  have hword : Text.firstWord "simple for now" = Mode.simple.name := by decide +kernel
  have hbegins : ["//#end \"here\""] ++ ["//#MODE simple for now"] <+:
      Source.trimmedLines (halted "//#mode none") := by
    rw [hlines']
    exact ⟨["//#mode none"], rfl⟩
  obtain ⟨-, hdecides, -⟩ := declared_by_first hread
  obtain ⟨hnamed, -, hsame⟩ := hdecides _ _ _ hfirst
  have hmode := hnamed .simple hword
  exact ⟨hread, hfirst, hword, hmode, hread', (hsame _ _ hread' hbegins).trans hmode⟩

end Mode

end ScriptBuild
