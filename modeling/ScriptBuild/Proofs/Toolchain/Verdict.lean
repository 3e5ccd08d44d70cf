import ScriptBuild.Proofs.Engine.Preservation
import ScriptBuild.Proofs.Toolchain.Streams

/-!
# What a compiler run means for a compilation

A compilation succeeds just if its compiler ended with success and reported nothing fatal. Else it
fails with what is fatal, and that is never nothing: a run that failed without reporting an error
gets one made up, which comes last and stands for itself.

There are two parties: the run gives diagnostics, and the verdict makes of them success or failure.
The run knows its exit status, the verdict does not. A run that failed must therefore show it in
what it gives, and does so by the error made up. A fatal diagnostic with a status of success is a
failure as well.

The statement for compilations has no condition on the program. The compiler may not start at all,
which is an error of the tool and not a verdict.

**Results.**
* `diagnose_cases`: what a run gives is what it reports, and the error made up if there is one.
* `verdict_cases`: success keeps every diagnostic, failure the fatal ones.
* `judgedBy_verdict`: what the verdict on a run is.
* `compile_judgedBy`: a compilation fails before it runs the compiler, or ends as the run says.
-/
namespace ScriptBuild

namespace Engine

/-- Nothing fatal leaves every diagnostic, in order; else the fatal ones are left, in order. -/
theorem verdict_cases (given : List Diagnostic) :
    (∀ d ∈ given, d.isFatal = false) ∧ verdict (.ok given) = .ok given ∨
      given.filter Diagnostic.isFatal ≠ [] ∧
        verdict (.ok given) = .error (.compileFailed (given.filter Diagnostic.isFatal)) := by
  cases hfatal : given.filter Diagnostic.isFatal with
  | nil =>
    have hnone : ∀ d ∈ given, d.isFatal = false := by simpa using hfatal
    exact .inl ⟨hnone, by simp [verdict, hfatal]⟩
  | cons first rest => exact .inr ⟨by simp, by simp [verdict, hfatal]⟩

end Engine

namespace ProgramCompiler

variable {ended : ProgramOutput} {name : String}

def reported (ended : ProgramOutput) : List Diagnostic := Listing.read (listing ended)

/-- A run that succeeds, or reports an error, gives just what it reports. Any other gives one error
more, behind all it reports. -/
theorem diagnose_cases (name : String) (ended : ProgramOutput) :
    (ended.status.isSuccess = true ∨ ∃ d ∈ reported ended, d.isFatal = true) ∧
        diagnose name ended = reported ended ∨
      (ended.status.isSuccess = false ∧ ∀ d ∈ reported ended, d.isFatal = false) ∧
        diagnose name ended = reported ended ++ [unexplained name ended] := by
  rw [diagnose_eq_madeUp]
  change _ ∧ reported ended ++ madeUp name ended (reported ended) = _ ∨
    _ ∧ reported ended ++ madeUp name ended (reported ended) = _
  unfold madeUp
  by_cases h : (ended.status.isSuccess || (reported ended).any Diagnostic.isFatal) = true
  · rw [if_pos h, List.append_nil]
    exact .inl ⟨by simpa using h, rfl⟩
  · rw [if_neg h]
    exact .inr ⟨by simpa using h, rfl⟩

/-- The result of a compilation is what its compiler's run says. -/
structure JudgedBy (name : String) (ended : ProgramOutput)
    (result : Except Failure (List Diagnostic)) : Prop where
  /-- It is a success just if the run is one and gives nothing fatal. -/
  success : (∃ given, result = .ok given) ↔
    ended.status.isSuccess = true ∧ ∀ d ∈ diagnose name ended, d.isFatal = false
  /-- A success gives all the run gives, in order, and that is all it reports. -/
  complete : ∀ given, result = .ok given → given = diagnose name ended ∧ given = reported ended
  /-- Else what is fatal is given, in order, and something is. -/
  failure : (¬∃ given, result = .ok given) →
    (diagnose name ended).filter Diagnostic.isFatal ≠ [] ∧
      result = .error (.compileFailed ((diagnose name ended).filter Diagnostic.isFatal))
  /-- A run that fails and reports no error gives one, behind all it reports, and that alone is
  fatal. -/
  silent : ended.status.isSuccess = false → (∀ d ∈ reported ended, d.isFatal = false) →
    diagnose name ended = reported ended ++ [unexplained name ended] ∧
      unexplained name ended ∉ reported ended ∧
      (diagnose name ended).filter Diagnostic.isFatal = [unexplained name ended]
  /-- Any other gives nothing but what it reports. -/
  plain : ended.status.isSuccess = true ∨ (∃ d ∈ reported ended, d.isFatal = true) →
    diagnose name ended = reported ended

theorem diagnose_of_silent (hstatus : ended.status.isSuccess = false)
    (hnone : ∀ d ∈ reported ended, d.isFatal = false) :
    diagnose name ended = reported ended ++ [unexplained name ended] := by
  rcases diagnose_cases name ended with ⟨hsuccess | ⟨d, hd, hfatal⟩, -⟩ | ⟨-, hgiven⟩
  · simp [hstatus] at hsuccess
  · simp [hnone d hd] at hfatal
  · exact hgiven

theorem diagnose_of_plain
    (h : ended.status.isSuccess = true ∨ ∃ d ∈ reported ended, d.isFatal = true) :
    diagnose name ended = reported ended := by
  rcases diagnose_cases name ended with ⟨-, hgiven⟩ | ⟨⟨hstatus, hnone⟩, -⟩
  · exact hgiven
  · rcases h with hsuccess | ⟨d, hd, hfatal⟩
    · simp [hstatus] at hsuccess
    · simp [hnone d hd] at hfatal

theorem success_of_nonfatal (h : ∀ d ∈ diagnose name ended, d.isFatal = false) :
    ended.status.isSuccess = true := by
  cases hstatus : ended.status.isSuccess with
  | true => rfl
  | false =>
    obtain ⟨d, hd, hfatal⟩ := List.any_eq_true.mp (exists_fatal_of_failure hstatus name)
    simp [h d hd] at hfatal

theorem judgedBy_verdict (name : String) (ended : ProgramOutput) :
    JudgedBy name ended (Engine.verdict (.ok (diagnose name ended))) where
  success := by
    rcases Engine.verdict_cases (diagnose name ended) with ⟨hnone, hok⟩ | ⟨hsome, herror⟩
    · exact iff_of_true ⟨_, hok⟩ ⟨success_of_nonfatal hnone, hnone⟩
    · refine iff_of_false (by simp [herror]) fun h => hsome ?_
      simpa using h.2
  complete given hgiven := by
    rcases Engine.verdict_cases (diagnose name ended) with ⟨hnone, hok⟩ | ⟨-, herror⟩
    · obtain rfl : diagnose name ended = given := Except.ok.inj (hok.symm.trans hgiven)
      exact ⟨rfl, diagnose_of_plain (.inl (success_of_nonfatal hnone))⟩
    · simp [herror] at hgiven
  failure hfailed := by
    rcases Engine.verdict_cases (diagnose name ended) with ⟨-, hok⟩ | hfatal
    · exact absurd ⟨_, hok⟩ hfailed
    · exact hfatal
  silent hstatus hnone := by
    have hgiven : diagnose name ended = reported ended ++ [unexplained name ended] :=
      diagnose_of_silent hstatus hnone
    refine ⟨hgiven, unexplained_notMem_read (List.Sublist.refl _), ?_⟩
    have hreported : (reported ended).filter Diagnostic.isFatal = [] := by simpa using hnone
    rw [hgiven, List.filter_append, hreported]
    rfl
  plain := diagnose_of_plain

/-! ## A compilation -/

def killed : ProgramOutput where
  status := .signal 9 false
  console := ⟨Text.Utf8.encode "a.cs(1,1): warning CS0168: unused\n", []⟩

def killing : Engine := { Engine.idle with compiler := compiler (launching killed) csc }

theorem reported_killed : reported killed = [unused] := by
  have hlisting : listing killed = "a.cs(1,1): warning CS0168: unused\n" := by cbv
  have hread : Listing.read "a.cs(1,1): warning CS0168: unused\n" = [unused] := by cbv
  rw [reported, hlisting, hread]

theorem calls_killing : ∃ files,
    (killing.compile ⟨"/main"⟩ ⟨"/out"⟩ (Engine.before (.file []))).2.calls =
      [.compile ⟨[⟨"/main.norm"⟩], ["System.dll", "System.Core.dll"], ⟨"/out"⟩, true⟩ files] := by
  have hwrite : (Engine.before (.file [])).files.write (Engine.unitPath ⟨"/main"⟩)
      (Text.Utf8.encode Engine.ownUnit) = .ok ((Engine.before (.file [])).files.set ["main.norm"]
        (.file (Text.Utf8.encode Engine.ownUnit))) :=
    Engine.rootName_unit.write (.inr ⟨[], rfl⟩)
  have hcompile : killing.compile ⟨"/main"⟩ ⟨"/out"⟩ (Engine.before (.file [])) =
      killing.build ⟨"/main"⟩ .empty Engine.ownUnit ⟨"/out"⟩ (Engine.before (.file [])) :=
    Engine.compile_ownUnit rfl rfl _
  rw [hcompile, Engine.build_of_write hwrite]
  exact ⟨_, rfl⟩

/-- A compilation fails before it calls the compiler. Or it calls it once, and then it fails because
no program starts, or it ends as the run of the program says. -/
theorem compile_judgedBy {engine : Engine} {launcher : Launcher} {program : Program}
    (hcompiler : engine.compiler = compiler launcher program) (script output : Path)
    (session : Session) :
    (∃ failure, (engine.compile script output session).1 = .error failure ∧
      (engine.compile script output session).2.calls = session.calls) ∨
    ∃ request files,
      (engine.compile script output session).2.calls = session.calls ++ [.compile request files] ∧
      ((∃ cause after, launcher.run program.name (arguments program request) files =
          (.error cause, after) ∧
          (engine.compile script output session).1 = .error (.tool (.launch program.name cause))) ∨
        ∃ ended after, launcher.run program.name (arguments program request) files =
          (.ok ended, after) ∧
          JudgedBy program.name ended (engine.compile script output session).1) := by
  rcases engine.compile_called script output session with
    hfailed | ⟨full, found, files, -, -, hcalls, hresult⟩
  · exact .inl hfailed
  · generalize engine.request full found output = request at hcalls hresult
    refine .inr ⟨request, files, hcalls, ?_⟩
    rw [hresult, hcompiler]
    cases hrun : launcher.run program.name (arguments program request) files with
    | mk result after =>
      cases result with
      | error cause => exact .inl ⟨cause, after, rfl, by simp [compiler, hrun, Engine.verdict]⟩
      | ok ended =>
        refine .inr ⟨ended, after, rfl, ?_⟩
        rw [compile_of_run hrun]
        exact judgedBy_verdict program.name ended

theorem compile_judgedBy_killed :
    killing.compiler = compiler (launching killed) csc ∧
    (killing.compile ⟨"/main"⟩ ⟨"/out"⟩ (Engine.before (.file []))).1 =
      .error (.compileFailed [unexplained csc.name killed]) := by
  refine ⟨rfl, ?_⟩
  obtain ⟨files, hcalls⟩ := calls_killing
  have hcompiler : killing.compiler = compiler (launching killed) csc := rfl
  rcases compile_judgedBy hcompiler ⟨"/main"⟩ ⟨"/out"⟩ (Engine.before (.file [])) with
    ⟨-, -, hnone⟩ | ⟨request, files', hcalls', hends⟩
  · rw [hcalls] at hnone
    simp [Engine.before] at hnone
  · obtain ⟨rfl, rfl⟩ : _ = request ∧ files = files' := by
      simpa [Engine.before] using hcalls.symm.trans hcalls'
    have hrun : (launching killed).run csc.name (arguments csc ⟨[⟨"/main.norm"⟩],
        ["System.dll", "System.Core.dll"], ⟨"/out"⟩, true⟩) files = (.ok killed, files) := by
      rw [Launcher.run, if_neg (by decide)]
      rfl
    rcases hends with ⟨cause, after, hfailed, -⟩ | ⟨ended, after, hended, hjudged⟩
    · simp [hrun] at hfailed
    · obtain rfl : killed = ended := by
        simpa using congrArg Prod.fst (hrun.symm.trans hended)
      have hnone : ∀ d ∈ reported killed, d.isFatal = false := by
        rw [reported_killed]
        decide
      have hfailed := hjudged.failure fun hok => absurd (hjudged.success.mp hok).1 (by decide)
      rw [hfailed.2, (hjudged.silent rfl hnone).2.2]

end ProgramCompiler

end ScriptBuild
