import ScriptBuild.Proofs.Diagnostic.Joined
import ScriptBuild.Toolchain.ProgramCompiler

/-!
# What a compiler run reports

The two streams of a compiler are read as one listing, the first in front of the second. No newline
comes between, so where the first stream breaks off within a line, the second one goes on in that
line: the two halves are read as one. Every other line of either stream is reported as if its stream
were read alone.

An error is made up for a run that failed without reporting one. It quotes the whole listing, so
nothing that is read off the listing can pass for it.

Each stream is decoded by itself before the two are joined, so a character that is split between
them is shown as marks, and the condition is on what is read of each. When nothing meets badly, the
run reports what the first stream does and then what the second does. That is also the exact
condition: where the two lines that meet report otherwise than each for itself, so does the whole.

**Results.**
* `unexplained_notMem_read`: no part of a listing reports the error that is made up.
* `diagnose_eq_apart_iff`: when a run reports what its streams report each for itself.
* `compile_reports`: what a compilation reports.
-/
namespace ScriptBuild.ProgramCompiler

variable {output : ProgramOutput} {name : String}

/-- The error made up behind what was reported, if the run failed and none of that is fatal. -/
def madeUp (name : String) (output : ProgramOutput) (reported : List Diagnostic) :
    List Diagnostic :=
  if output.status.isSuccess || reported.any Diagnostic.isFatal then []
  else [unexplained name output]

theorem diagnose_eq_madeUp (name : String) (output : ProgramOutput) :
    diagnose name output =
      Listing.read (listing output) ++ madeUp name output (Listing.read (listing output)) := by
  unfold diagnose madeUp
  simp only
  split
  · exact (List.append_nil _).symm
  · rfl

def outText (output : ProgramOutput) : String := Text.Utf8.decodeLossy output.console.out

def errText (output : ProgramOutput) : String := Text.Utf8.decodeLossy output.console.err

/-- What the two streams report, each read for itself. -/
def readApart (output : ProgramOutput) : List Diagnostic :=
  Listing.read (outText output) ++ Listing.read (errText output)

/-- The line that begins on the first stream and ends on the second. -/
def meetingLine (output : ProgramOutput) : List Char :=
  Text.openLine (outText output) ++ Text.firstLine (errText output)

theorem listing_eq (output : ProgramOutput) : listing output = outText output ++ errText output :=
  rfl

/-- No part of a listing reports the error that is made up: its message holds the whole listing,
and more. -/
theorem unexplained_notMem_read {part : String} (h : part.toList.Sublist (listing output).toList) :
    unexplained name output ∉ Listing.read part := by
  intro hmem
  -- Trimming takes no character away that counts, and the words in front add some.
  have hmessage : ((unexplained name output).message.toList.countP (!Text.isBlank ·)) ≤
      (listing output).toList.countP (!Text.isBlank ·) :=
    ((Listing.message_sublist hmem).trans h).countP_le
  have hmore : 0 < "compiler exited with ".toList.countP (!Text.isBlank ·) := by decide
  simp only [unexplained, Text.trim, String.toList_append, List.countP_append,
    String.toList_ofList, Text.countP_trimChars] at hmessage
  omega

theorem unexplained_notMem_readApart : unexplained name output ∉ readApart output := by
  have hlisting : (listing output).toList = (outText output).toList ++ (errText output).toList := by
    rw [listing_eq, String.toList_append]
  rw [readApart, List.mem_append, not_or]
  constructor
  · exact unexplained_notMem_read (hlisting ▸ List.sublist_append_left _ _)
  · exact unexplained_notMem_read (hlisting ▸ List.sublist_append_right _ _)

theorem append_madeUp_inj {first second : List Diagnostic}
    (hfirst : unexplained name output ∉ first) (hsecond : unexplained name output ∉ second) :
    first ++ madeUp name output first = second ++ madeUp name output second ↔ first = second := by
  constructor
  · intro h
    have hends : ∀ reported, madeUp name output reported = [] ∨
        madeUp name output reported = [unexplained name output] := by
      intro reported
      unfold madeUp
      split
      · exact .inl rfl
      · exact .inr rfl
    -- If only one of them is followed by the error, the other one holds it.
    rcases hends first with hone | hone <;> rcases hends second with htwo | htwo <;>
      rw [hone, htwo] at h
    · simpa using h
    · rw [List.append_nil] at h
      exact absurd (h ▸ List.mem_append_right _ List.mem_cons_self) hfirst
    · rw [List.append_nil] at h
      exact absurd (h ▸ List.mem_append_right _ List.mem_cons_self) hsecond
    · simpa using h
  · rintro rfl
    rfl

/-- A run reports what its streams report each for itself just if the line in which they meet
does. -/
theorem diagnose_eq_apart_iff (name : String) (output : ProgramOutput) :
    diagnose name output = readApart output ++ madeUp name output (readApart output) ↔
      Listing.reports (meetingLine output) =
        Listing.reports (Text.openLine (outText output)) ++
          Listing.reports (Text.firstLine (errText output)) := by
  rw [diagnose_eq_madeUp,
    append_madeUp_inj (unexplained_notMem_read (List.Sublist.refl _)) unexplained_notMem_readApart,
    listing_eq, readApart, Listing.read_append_iff, meetingLine]

/-! ## A compilation -/

theorem compile_of_run {launcher : Launcher} {program : Program} {request : CompileRequest}
    {files after : FileSystem}
    (ran : launcher.run program.name (arguments program request) files = (.ok output, after)) :
    (compiler launcher program).compile request files =
      (.ok (diagnose program.name output), after) := by
  simp [compiler, ran]

/-! ## A stream that breaks off -/

/-- A run that breaks off within a line of its first stream. -/
def breaksOff : ProgramOutput where
  status := .code 1
  console := ⟨Text.Utf8.encode "a.cs(1,1): warning CS0168: unused",
    Text.Utf8.encode "b.cs(2,5): error CS0103: missing\n"⟩

def unused : Diagnostic := ⟨⟨"a.cs"⟩, 1, 1, "CS0168", "unused", .warning⟩

def missing : Diagnostic := ⟨⟨"b.cs"⟩, 2, 5, "CS0103", "missing", .error⟩

/-- Every program that is started here ends like this. -/
def launching (output : ProgramOutput) : Launcher := ⟨fun _ _ files => (.ok output, files)⟩

def csc : Program := ⟨"csc", []⟩

def oneFile : CompileRequest := ⟨[⟨"a.cs"⟩], [], ⟨"out.dll"⟩, true⟩

theorem run_oneFile (output : ProgramOutput) (files : FileSystem) :
    (launching output).run csc.name (arguments csc oneFile) files = (.ok output, files) := by
  have hzero :
      ¬(Text.Utf8.encode csc.name :: arguments csc oneFile).any (·.contains 0) = true := by
    decide
  rw [Launcher.run, if_neg hzero]
  rfl

theorem text_breaksOff :
    outText breaksOff = "a.cs(1,1): warning CS0168: unused" ∧
      errText breaksOff = "b.cs(2,5): error CS0103: missing\n" :=
  ⟨by cbv, by cbv⟩

theorem readApart_breaksOff : readApart breaksOff = [unused, missing] := by
  have hout : Listing.read "a.cs(1,1): warning CS0168: unused" = [unused] := by cbv
  have herr : Listing.read "b.cs(2,5): error CS0103: missing\n" = [missing] := by cbv
  rw [readApart, text_breaksOff.1, text_breaksOff.2, hout, herr]
  rfl

theorem reports_breaksOff :
    Listing.read (listing breaksOff) =
      [⟨⟨"a.cs"⟩, 1, 1, "CS0168", "unusedb.cs(2,5): error CS0103: missing", .warning⟩] := by
  have hfused : Listing.read
      ("a.cs(1,1): warning CS0168: unused" ++ "b.cs(2,5): error CS0103: missing\n") =
        [⟨⟨"a.cs"⟩, 1, 1, "CS0168", "unusedb.cs(2,5): error CS0103: missing", .warning⟩] := by
    cbv
  rw [listing_eq, text_breaksOff.1, text_breaksOff.2, hfused]

/-- A run reports what the lines of its streams report, each for itself. Only the line in which the
streams meet is read as one: it holds what stands behind the last newline of the first and in front
of the first newline of the second. Behind all that comes the error that is made up, which nothing
in the listing can pass for. So the streams are reported as if read apart just if the two halves of
that line are, as they are wherever one of them is blank. -/
theorem compile_reports {launcher : Launcher} {program : Program} {request : CompileRequest}
    {files after : FileSystem}
    (ran : launcher.run program.name (arguments program request) files = (.ok output, after)) :
    ∃ reported,
      (compiler launcher program).compile request files =
        (.ok (reported ++ madeUp program.name output reported), after) ∧
      reported =
        (Text.endedLines (outText output)).flatMap Listing.reports ++
          Listing.reports (meetingLine output) ++
          (Text.laterLines (errText output)).flatMap Listing.reports ∧
      unexplained program.name output ∉ reported ∧
      (reported ++ madeUp program.name output reported =
          readApart output ++ madeUp program.name output (readApart output) ↔
        Listing.reports (meetingLine output) =
          Listing.reports (Text.openLine (outText output)) ++
            Listing.reports (Text.firstLine (errText output))) ∧
      ((∀ c ∈ Text.openLine (outText output), Text.isBlank c = true) ∨
          (∀ c ∈ Text.firstLine (errText output), Text.isBlank c = true) →
        reported = readApart output) := by
  refine ⟨Listing.read (listing output), ?_, ?_, ?_, ?_, ?_⟩
  · rw [compile_of_run ran, diagnose_eq_madeUp]
  · exact Listing.read_append _ _
  · exact unexplained_notMem_read (List.Sublist.refl _)
  · rw [← diagnose_eq_madeUp]
    exact diagnose_eq_apart_iff _ _
  · intro blank
    exact (Listing.read_append_iff _ _).mpr (Listing.reports_append_of_blank blank)

theorem compile_reports_breaksOff :
    (launching breaksOff).run csc.name (arguments csc oneFile) ⟨[], []⟩ =
      (.ok breaksOff, ⟨[], []⟩) ∧
    ∃ reported,
      (compiler (launching breaksOff) csc).compile oneFile ⟨[], []⟩ =
        (.ok (reported ++ madeUp csc.name breaksOff reported), ⟨[], []⟩) ∧
      reported =
        (Text.endedLines (outText breaksOff)).flatMap Listing.reports ++
          Listing.reports (meetingLine breaksOff) ++
          (Text.laterLines (errText breaksOff)).flatMap Listing.reports ∧
      unexplained csc.name breaksOff ∉ reported := by
  obtain ⟨reported, hcompile, hlines, hunexplained, -⟩ :=
    compile_reports (run_oneFile breaksOff ⟨[], []⟩)
  exact ⟨run_oneFile _ _, reported, hcompile, hlines, hunexplained⟩

/-- The streams of one run report a warning and an error. The compilation reports one warning that
is neither, and an error that is made up. -/
theorem compile_fuses :
    readApart breaksOff = [unused, missing] ∧ madeUp csc.name breaksOff [unused, missing] = [] ∧
    ((compiler (launching breaksOff) csc).compile oneFile ⟨[], []⟩).1 =
      .ok [⟨⟨"a.cs"⟩, 1, 1, "CS0168", "unusedb.cs(2,5): error CS0103: missing", .warning⟩,
        unexplained csc.name breaksOff] := by
  refine ⟨readApart_breaksOff, rfl, ?_⟩
  rw [compile_of_run (run_oneFile _ _), diagnose_eq_madeUp, reports_breaksOff]
  rfl

end ScriptBuild.ProgramCompiler
