import ScriptBuild.Proofs.Engine.Compilation
import ScriptBuild.Proofs.Resolution.Blame

/-!
# What a run executes

A run of a module loads it as it is; a run of source text loads what one call of the compiler has
made of it. Where that opens and lists its types (`Stage`), all that follows is settled by the entry
point among them: it is called once, and the run's result is read off the call. Where a run does not
get so far, it calls no method, and fails as its compilation or one of its tools does.

Which results belong to a module and which to what comes before it can be told from the failure
alone: faults of the script and bad formats come from nowhere else (`ofModule`). So each kind of
result is equivalent to its reason, in both directions: a result code is there just if the entry
point's call returned, and so on. Without the first of the results below, one direction would be
missing.

`Ready` gathers the two ways to a module to load, and `Starts` everything known when the entry point
is called. The stage of a run is unique where it exists, since everything in it is computed from the
session; this is why the calls can be given for every stage at once.

**Results.**
* `not_ofModule_of_compile`: no compilation fails in the way a module's own failures do.
* `run_of_ready`: once there is a module to load, a run is the starting of that.
* `run_of_none`, `run_of_starts`: what a run does when the types of its module are listed.
* `reached_or_fails`: a run gets so far, or fails without calling a method.
* `run_executes`: what holds of the calls and of the result of every run.
-/
namespace ScriptBuild

def Call.isInvoke : Call → Bool
  | .compile _ _ => false
  | .invoke _ _ _ _ => true

/-! ## Failures that are not a module's -/

/-- Whether a failure says what a module did or lacked. -/
def Failure.ofModule : Failure → Bool
  | .scriptFault _ _ | .badFormat _ => true
  | _ => false

theorem Failure.not_ofModule_of_isDirective {failure : Failure} (h : failure.isDirective = true) :
    failure.ofModule = false := by
  cases failure <;> simp_all [isDirective, ofModule]

namespace Source

variable {files : FileSystem} {path : Path} {cause : Failure}

theorem not_ofModule_of_checkFile (h : checkFile files path = .error cause) :
    cause.ofModule = false := by
  unfold checkFile at h
  split at h
  · cases h
    rfl
  · split at h
    · cases h
    · cases h
      rfl

theorem not_ofModule_of_canonical (h : canonical files path = .error cause) :
    cause.ofModule = false := by
  unfold canonical at h
  split at h
  · cases h
    exact not_ofModule_of_checkFile (by assumption)
  · split at h
    · cases h
    · cases h
      rfl

theorem not_ofModule_of_read (h : read files path = .error cause) : cause.ofModule = false := by
  unfold read at h
  split at h
  · cases h
    exact not_ofModule_of_checkFile (by assumption)
  · split at h
    · cases h
    · cases h
      rfl

theorem not_ofModule_of_header (h : header files path = .error cause) :
    cause.ofModule = false := by
  unfold header at h
  cases hread : read files path with
  | error failure =>
    obtain rfl : failure = cause := by simpa [hread, Except.map] using h
    exact not_ofModule_of_read hread
  | ok text => simp [hread, Except.map] at h

end Source

theorem Mode.not_ofModule_of_declared {files : FileSystem} {path : Path} {cause : Failure}
    (h : declared files path = .error cause) : cause.ofModule = false := by
  unfold declared at h
  split at h
  · cases h
    exact Source.not_ofModule_of_header (by assumption)
  · split at h
    · cases h
    · cases h
      rfl

theorem Resolver.not_ofModule_of_resolve {resolver : Resolver} {files : FileSystem} {script : Path}
    {cause : Failure} (h : resolver.resolve files script = .error cause) :
    cause.ofModule = false := by
  obtain ⟨entered, result, rules⟩ := exists_resolves resolver files script
  obtain rfl : result = .error cause := (resolve_of_resolves rules).symm.trans h
  cases rules with
  | missing located => exact Source.not_ofModule_of_canonical located
  | unreadable located header => exact Source.not_ofModule_of_header header
  | followed located read run =>
    -- Whatever a search fails with blames its own file, and so is a directive's.
    have hblames := blames_of_follows run (.start read) rfl
    exact Failure.not_ofModule_of_isDirective (by cases hblames <;> rfl)

namespace Engine

variable {engine : Engine} {script full module output : Path} {args : List String}
  {session after : Session} {files : FileSystem} {before : List Call} {opened : LoadedModule}
  {types : List TypeInfo} {entry : EntryPoint} {cause : Failure}

theorem not_ofModule_of_kind (h : engine.kind files script = .error cause) :
    cause.ofModule = false := by
  unfold kind ScriptKind.of at h
  split at h
  · cases h
    exact Source.not_ofModule_of_checkFile (by assumption)
  · split at h <;> cases h

theorem not_ofModule_of_normalize (h : engine.normalize script session = (.error cause, after)) :
    cause.ofModule = false := by
  unfold normalize at h
  split at h
  · rename_i hmode
    cases h
    unfold Engine.mode Mode.of at hmode
    split at hmode
    · cases hdeclared : Mode.declared session.files script with
      | error failure =>
        obtain rfl : failure = cause := by simpa [hdeclared, Except.map] using hmode
        exact Mode.not_ofModule_of_declared hdeclared
      | ok mode => simp [hdeclared, Except.map] at hmode
    · cases hmode
  · split at h
    · cases h
      exact Source.not_ofModule_of_read (by assumption)
    · split at h
      · cases h
        rfl
      · cases h

theorem not_ofModule_of_verdict {answer : Except ToolError (List Diagnostic)}
    (h : verdict answer = .error cause) : cause.ofModule = false := by
  unfold verdict at h
  split at h
  · cases h
    rfl
  · split at h
    · cases h
    · cases h
      rfl

theorem not_ofModule_of_build {found : Resolution} {unit : String}
    (h : (engine.build full found unit output session).1 = .error cause) :
    cause.ofModule = false := by
  cases hwrite : session.files.write (unitPath full) (Text.Utf8.encode unit) with
  | error refusal =>
    rw [build_of_write_error hwrite] at h
    cases h
    rfl
  | ok given =>
    rw [build_of_write hwrite] at h
    exact not_ofModule_of_verdict h

theorem not_ofModule_of_compile
    (h : (engine.compile script output session).1 = .error cause) : cause.ofModule = false := by
  unfold compile at h
  split at h
  · cases h
    exact Source.not_ofModule_of_canonical (by assumption)
  · split at h
    · cases h
      exact Resolver.not_ofModule_of_resolve (by assumption)
    · split at h
      · cases h
        exact not_ofModule_of_normalize (by assumption)
      · exact not_ofModule_of_build h

/-- A compilation that ends well has called the compiler once, and nothing it answered was fatal. -/
theorem compile_answered {warnings : List Diagnostic}
    (h : engine.compile script output session = (.ok warnings, after)) :
    ∃ request given, request.output = output ∧
      after.calls = session.calls ++ [.compile request given] ∧
      (engine.compiler.compile request given).1 = .ok warnings ∧
      ∀ d ∈ warnings, d.isFatal = false := by
  rcases engine.compile_called script output session with
    ⟨failure, hfailed, -⟩ | ⟨full, found, given, -, -, hcalls, hverdict⟩
  · simp [h] at hfailed
  · rw [h] at hcalls hverdict
    refine ⟨_, given, rfl, hcalls, ?_⟩
    unfold verdict at hverdict
    split at hverdict
    · cases hverdict
    · rename_i diagnostics hanswer
      split at hverdict
      · rename_i hnone
        obtain rfl : warnings = diagnostics := Except.ok.inj hverdict
        exact ⟨hanswer, by simpa using hnone⟩
      · cases hverdict

/-! ## What a run has come to -/

/-- There is a module to load for the script at `full`, after the calls `before`. -/
inductive Ready (engine : Engine) (script : Path) (session : Session) :
    Path → Path → List Call → FileSystem → Prop
  /-- What opens as a module is loaded as it is. -/
  | module {full : Path} {kind : ScriptKind}
      (located : Source.canonical session.files script = .ok full)
      (classified : engine.kind session.files full = .ok kind) (compiled : kind ≠ .source) :
      Ready engine script session full full [] session.files
  /-- Source text has been compiled to a temporary module, by one call that answered nothing
  fatal. -/
  | source {full module : Path} {made given : FileSystem} {lots : List Lot}
      {request : CompileRequest} {warnings : List Diagnostic} {after : Session}
      (located : Source.canonical session.files script = .ok full)
      (classified : engine.kind session.files full = .ok .source)
      (temporary : session.temporary engine.temporary = (.ok (module, made), lots))
      (compiled : engine.compile full module { session with files := made, lots := lots } =
        (.ok warnings, after))
      (called : after.calls = session.calls ++ [.compile request given])
      (output : request.output = module)
      (answered : (engine.compiler.compile request given).1 = .ok warnings)
      (harmless : ∀ d ∈ warnings, d.isFatal = false) :
      Ready engine script session full module [.compile request given] after.files

/-- How far a run has come that knows the types of its module. -/
structure Stage where
  /-- The canonical path of the script. -/
  full : Path
  module : Path
  /-- The calls made so far. -/
  before : List Call
  files : FileSystem
  opened : LoadedModule
  types : List TypeInfo

def passed (entry : EntryPoint) (args : List String) : Option (List String) :=
  if entry.takesArgs then some args else none

namespace Stage

/-- The run has come so far: there was a module, it opened, and its types were listed. -/
structure Reached (engine : Engine) (script : Path) (session : Session) (stage : Stage) : Prop where
  ready : Ready engine script session stage.full stage.module stage.before stage.files
  opened : engine.loader.look stage.module stage.files = .ok stage.opened
  listed : stage.opened.exportedTypes = .ok stage.types

/-- The run has come so far, and found an entry point among the types. -/
structure Starts (engine : Engine) (script : Path) (session : Session) (stage : Stage)
    (entry : EntryPoint) : Prop where
  reached : stage.Reached engine script session
  chosen : EntryPoint.find? stage.types = some entry

def call (stage : Stage) (entry : EntryPoint) (args : List String) : Call :=
  .invoke stage.module entry.typeName entry.method (passed entry args)

def outcome (stage : Stage) (entry : EntryPoint) (args : List String) :
    Except ToolError Invocation :=
  (stage.opened.invoke entry.typeName entry.method (passed entry args) stage.files).outcome

end Stage

theorem run_of_ready (h : Ready engine script session full module before files)
    (args : List String) :
    ∃ after : Session, after.files = files ∧ after.calls = session.calls ++ before ∧
      (engine.run script args session).1 = (engine.start full module args after).1 ∧
      (engine.run script args session).2.calls = (engine.start full module args after).2.calls := by
  cases h with
  | module located classified compiled =>
    rename_i kind
    have hrun : engine.run script args session = engine.start full full args session := by
      cases kind with
      | source => exact absurd rfl compiled
      | _ => simp only [run, located, classified]
    exact ⟨session, rfl, by simp, by rw [hrun], by rw [hrun]⟩
  | source located classified temporary compiled called output answered harmless =>
    exact ⟨_, rfl, called, run_of_compile_ok _ located classified temporary compiled⟩

variable {stage : Stage}

theorem run_of_none (h : stage.Reached engine script session)
    (hnone : EntryPoint.find? stage.types = none) (args : List String) :
    (engine.run script args session).1 = .error (.badFormat stage.full) ∧
      (engine.run script args session).2.calls = session.calls ++ stage.before := by
  obtain ⟨after, hfiles, hcalls, hresult, hcalls'⟩ := run_of_ready h.ready args
  have hload : engine.loader.look stage.module after.files = .ok stage.opened := hfiles ▸ h.opened
  have hstart : engine.start stage.full stage.module args after =
      (.error (.badFormat stage.full), after) := by
    simp only [start_eq, hload, h.listed, hnone]
  exact ⟨by rw [hresult, hstart], by rw [hcalls', hstart, hcalls]⟩

/-- A module's entry point is called once, and the result is read off the call. -/
theorem run_of_starts (h : stage.Starts engine script session entry) (args : List String) :
    (engine.run script args session).1 = resultCode stage.full entry (stage.outcome entry args) ∧
      (engine.run script args session).2.calls =
        session.calls ++ (stage.before ++ [stage.call entry args]) := by
  obtain ⟨after, hfiles, hcalls, hresult, hcalls'⟩ := run_of_ready h.reached.ready args
  have hload : engine.loader.look stage.module after.files = .ok stage.opened :=
    hfiles ▸ h.reached.opened
  have hstart : (engine.start stage.full stage.module args after).1 =
        resultCode stage.full entry (stage.outcome entry args) ∧
      (engine.start stage.full stage.module args after).2.calls =
        after.calls ++ [stage.call entry args] := by
    simp only [start_eq, hload, h.reached.listed, h.chosen]
    exact ⟨by rw [hfiles]; rfl, rfl⟩
  rw [hresult, hcalls', hstart.1, hstart.2, hcalls, List.append_assoc]
  exact ⟨rfl, rfl⟩

/-! ## Runs that do not get so far -/

/-- A run has made these calls, none of a method, and fails otherwise than a module does. -/
structure Fails (engine : Engine) (script : Path) (session : Session) (made : List Call)
    (result : Except Failure Int32) : Prop where
  cause : ∃ cause, result = .error cause ∧ cause.ofModule = false
  uncalled : ∀ call ∈ made, call.isInvoke = false
  /-- What is no source text is not compiled. -/
  uncompiled : ∀ full kind, Source.canonical session.files script = .ok full →
    engine.kind session.files full = .ok kind → kind ≠ .source → made = []

theorem fails_at_once (hrun : engine.run script args session = (.error cause, after))
    (hcalls : after.calls = session.calls) (hcause : cause.ofModule = false) :
    ∃ made, (engine.run script args session).2.calls = session.calls ++ made ∧
      Fails engine script session made (engine.run script args session).1 := by
  refine ⟨[], by rw [hrun, hcalls, List.append_nil], ⟨cause, by rw [hrun], hcause⟩, by simp, ?_⟩
  exact fun _ _ _ _ _ => rfl

/-- Source text is compiled to a module, or the run fails as its compilation does. -/
theorem ready_or_fails_of_source (located : Source.canonical session.files script = .ok full)
    (classified : engine.kind session.files full = .ok .source) (args : List String) :
    (∃ module before files, Ready engine script session full module before files) ∨
    ∃ made, (engine.run script args session).2.calls = session.calls ++ made ∧
      Fails engine script session made (engine.run script args session).1 := by
  rcases engine.temporary_cases session with
    ⟨refusal, lots, temporary⟩ | ⟨module, made, lots, temporary⟩
  · exact .inr (fails_at_once (run_of_no_temporary args located classified temporary) rfl rfl)
  · cases compiled : engine.compile full module { session with files := made, lots := lots } with
    | mk result after =>
      cases result with
      | ok warnings =>
        obtain ⟨request, given, output, called, answered, harmless⟩ := compile_answered compiled
        exact .inl ⟨_, _, _, .source located classified temporary compiled called output answered
          harmless⟩
      | error cause =>
        obtain ⟨hresult, hcalls⟩ :=
          run_of_compile_error args located classified temporary compiled
        have hcause : cause.ofModule = false := not_ofModule_of_compile (by rw [compiled])
        have hsource : ∀ full' kind, Source.canonical session.files script = .ok full' →
            engine.kind session.files full' = .ok kind → ¬kind ≠ .source := by
          intro full' kind located' classified' hne
          obtain rfl : full = full' := Except.ok.inj (located.symm.trans located')
          exact hne (Except.ok.inj (classified'.symm.trans classified))
        -- The compiler may have been called, but no method has.
        obtain ⟨called, hcalled, huncalled⟩ : ∃ called, after.calls = session.calls ++ called ∧
            ∀ call ∈ called, call.isInvoke = false := by
          rcases engine.compile_called full module { session with files := made, lots := lots } with
            ⟨-, -, hnone⟩ | ⟨_, _, _, -, -, hone, -⟩
          · rw [compiled] at hnone
            exact ⟨[], by rw [hnone, List.append_nil], by simp⟩
          · rw [compiled] at hone
            exact ⟨_, hone, by simp [Call.isInvoke]⟩
        exact .inr ⟨called, by rw [hcalls, hcalled], ⟨cause, hresult, hcause⟩, huncalled,
          fun full' kind located' classified' hne => absurd hne (hsource _ _ located' classified')⟩

/-- A run has a module to load, or fails without calling a method. -/
theorem ready_or_fails (engine : Engine) (script : Path) (args : List String) (session : Session) :
    (∃ full module before files, Ready engine script session full module before files) ∨
    ∃ made, (engine.run script args session).2.calls = session.calls ++ made ∧
      Fails engine script session made (engine.run script args session).1 := by
  cases located : Source.canonical session.files script with
  | error cause =>
    have hrun : engine.run script args session = (.error cause, session) := by
      simp only [run, located]
    exact .inr (fails_at_once hrun rfl (Source.not_ofModule_of_canonical located))
  | ok full =>
    cases classified : engine.kind session.files full with
    | error cause =>
      have hrun : engine.run script args session = (.error cause, session) := by
        simp only [run, located, classified]
      exact .inr (fails_at_once hrun rfl (not_ofModule_of_kind classified))
    | ok kind =>
      by_cases hsource : kind = .source
      · subst hsource
        rcases ready_or_fails_of_source located classified args with hready | hfails
        · exact .inl ⟨full, hready⟩
        · exact .inr hfails
      · exact .inl ⟨full, full, [], session.files, .module located classified hsource⟩

theorem uncalled_of_ready (h : Ready engine script session full module before files) :
    ∀ call ∈ before, call.isInvoke = false := by
  intro call hcall
  cases h with
  | module located classified compiled => simp at hcall
  | source => simp [List.mem_singleton.mp hcall, Call.isInvoke]

theorem before_of_ready {full' : Path} {kind : ScriptKind}
    (h : Ready engine script session full module before files)
    (located' : Source.canonical session.files script = .ok full')
    (classified' : engine.kind session.files full' = .ok kind) (hne : kind ≠ .source) :
    before = [] := by
  cases h with
  | module located classified compiled => rfl
  | source located classified =>
    obtain rfl : full = full' := Except.ok.inj (located.symm.trans located')
    exact absurd (Except.ok.inj (classified'.symm.trans classified)) hne

/-- A run comes to know the types of its module, or fails without calling a method. -/
theorem reached_or_fails (engine : Engine) (script : Path) (args : List String)
    (session : Session) :
    (∃ stage : Stage, stage.Reached engine script session) ∨
    ∃ made, (engine.run script args session).2.calls = session.calls ++ made ∧
      Fails engine script session made (engine.run script args session).1 := by
  rcases ready_or_fails engine script args session with ⟨full, module, before, files, h⟩ | hfails
  · obtain ⟨after, rfl, hcalls, hresult, hcalls'⟩ := run_of_ready h args
    -- The loader's errors are its own.
    have hstart : ∀ error, engine.start full module args after = (.error (.tool error), after) →
        ∃ made, (engine.run script args session).2.calls = session.calls ++ made ∧
          Fails engine script session made (engine.run script args session).1 := by
      intro error hstart
      refine ⟨before, by rw [hcalls', hstart, hcalls], ?_⟩
      exact ⟨⟨_, by rw [hresult, hstart], rfl⟩, uncalled_of_ready h,
        fun _ _ => before_of_ready h⟩
    cases hload : engine.loader.look module after.files with
    | error error => exact .inr (hstart error (by simp only [start_eq, hload]))
    | ok opened =>
      cases hlisted : opened.exportedTypes with
      | error error => exact .inr (hstart error (by simp only [start_eq, hload, hlisted]))
      | ok types =>
        exact .inl ⟨⟨full, module, before, after.files, opened, types⟩, h, hload, hlisted⟩
  · exact .inr hfails

/-! ## What a run executes -/

/-- What a run has called, and what it comes to. -/
structure Executes (engine : Engine) (script : Path) (args : List String) (session : Session)
    (made : List Call) (result : Except Failure Int32) : Prop where
  /-- A method is called once at most. -/
  once : made.countP Call.isInvoke ≤ 1
  /-- It is the entry point of the module that the run has loaded, and called last. -/
  invoked : ∀ call ∈ made, call.isInvoke = true → ∃ (stage : Stage) (entry : EntryPoint),
    stage.Starts engine script session entry ∧ call = stage.call entry args ∧
      made = stage.before ++ [call]
  /-- Where there is an entry point, it is called. -/
  called : ∀ (stage : Stage) (entry : EntryPoint), stage.Starts engine script session entry →
    made = stage.before ++ [stage.call entry args]
  /-- What is no source text is not compiled. -/
  uncompiled : ∀ full kind, Source.canonical session.files script = .ok full →
    engine.kind session.files full = .ok kind → kind ≠ .source → ∀ call ∈ made, call.isInvoke = true
  /-- There is a result code just if the call returns. It is the integer returned, where the method
  declares one and gives one. -/
  returned : ∀ code, result = .ok code ↔ ∃ (stage : Stage) (entry : EntryPoint)
    (value : Option Int32), stage.Starts engine script session entry ∧
      stage.outcome entry args = .ok (.returned value) ∧
      code = if entry.returnsInt then value.getD 0 else 0
  /-- The script is at fault just if the call ends by a fault. -/
  faulted : ∀ file message, result = .error (.scriptFault file message) ↔
    ∃ (stage : Stage) (entry : EntryPoint), stage.Starts engine script session entry ∧
      stage.outcome entry args = .ok (.faulted message) ∧ file = stage.full
  /-- The format is bad just if there is no entry point among the types listed. -/
  unfit : ∀ file, result = .error (.badFormat file) ↔
    ∃ stage : Stage, stage.Reached engine script session ∧
      EntryPoint.find? stage.types = none ∧ file = stage.full

theorem resultCode_eq_ok_iff {answer : Except ToolError Invocation} {code : Int32} :
    resultCode full entry answer = .ok code ↔ ∃ value, answer = .ok (.returned value) ∧
      code = if entry.returnsInt then value.getD 0 else 0 := by
  cases answer with
  | error error => simp [resultCode]
  | ok invocation =>
    cases invocation with
    | returned value =>
      simp only [resultCode, Except.ok.injEq, Invocation.returned.injEq, exists_eq_left']
      exact eq_comm
    | faulted message => simp [resultCode]

theorem resultCode_eq_scriptFault_iff {answer : Except ToolError Invocation} {file : Path}
    {message : String} : resultCode full entry answer = .error (.scriptFault file message) ↔
      answer = .ok (.faulted message) ∧ file = full := by
  cases answer with
  | error error => simp [resultCode]
  | ok invocation =>
    cases invocation with
    | returned value => simp [resultCode]
    | faulted text => simp [resultCode, eq_comm, and_comm]

theorem resultCode_ne_badFormat {answer : Except ToolError Invocation} {file : Path} :
    resultCode full entry answer ≠ .error (.badFormat file) := by
  cases answer with
  | error error => simp [resultCode]
  | ok invocation => cases invocation <;> simp [resultCode]

theorem countP_of_uncalled {made : List Call} (h : ∀ call ∈ made, call.isInvoke = false) :
    made.countP Call.isInvoke = 0 := by
  rw [List.countP_eq_zero]
  exact fun call hcall => by simp [h call hcall]

section Executes

variable {made : List Call}
  (hcalls : (engine.run script args session).2.calls = session.calls ++ made)
include hcalls

theorem called_of_starts (h : stage.Starts engine script session entry) :
    made = stage.before ++ [stage.call entry args] :=
  List.append_cancel_left (hcalls.symm.trans (run_of_starts h args).2)

theorem not_starts_of_uncalled (huncalled : ∀ call ∈ made, call.isInvoke = false) :
    ¬stage.Starts engine script session entry := by
  intro hstarts
  have hmem : stage.call entry args ∈ made := by
    rw [called_of_starts hcalls hstarts]
    simp
  exact absurd (huncalled _ hmem) (by simp [Stage.call, Call.isInvoke])

/-- A run that fails before it knows the types of its module executes nothing. -/
theorem executes_of_fails
    (h : Fails engine script session made (engine.run script args session).1) :
    Executes engine script args session made (engine.run script args session).1 := by
  obtain ⟨⟨cause, hresult, hcause⟩, huncalled, huncompiled⟩ := h
  have hnone : ∀ {stage : Stage}, stage.Reached engine script session →
      EntryPoint.find? stage.types ≠ none := by
    intro stage hreached hnone
    obtain rfl := Except.error.inj (hresult.symm.trans (run_of_none hreached hnone args).1)
    cases hcause
  refine
    { once := ?_
      invoked := fun call hcall hinvoke => ?_
      called := fun stage entry h => called_of_starts hcalls h
      uncompiled := fun full kind located classified hne call hcall => ?_
      returned := fun code => iff_of_false (by simp [hresult]) ?_
      faulted := fun file message => iff_of_false ?_ ?_
      unfit := fun file => iff_of_false ?_ ?_ }
  · rw [countP_of_uncalled huncalled]
    exact Nat.zero_le 1
  · simp [huncalled call hcall] at hinvoke
  · simp [huncompiled full kind located classified hne] at hcall
  · exact fun ⟨_, _, _, hstarts, _⟩ => not_starts_of_uncalled hcalls huncalled hstarts
  · intro hfault
    obtain rfl := Except.error.inj (hresult.symm.trans hfault)
    cases hcause
  · exact fun ⟨_, _, hstarts, _⟩ => not_starts_of_uncalled hcalls huncalled hstarts
  · intro hformat
    obtain rfl := Except.error.inj (hresult.symm.trans hformat)
    cases hcause
  · exact fun ⟨_, hreached, hfind, _⟩ => hnone hreached hfind

end Executes

/-- A run that knows the types of its module executes the entry point among them, or nothing. -/
theorem executes_of_reached (h : stage.Reached engine script session) (args : List String) :
    ∃ made, (engine.run script args session).2.calls = session.calls ++ made ∧
      Executes engine script args session made (engine.run script args session).1 := by
  have huncalled := uncalled_of_ready h.ready
  cases hfind : EntryPoint.find? stage.types with
  | none =>
    obtain ⟨hresult, hcalls⟩ := run_of_none h hfind args
    refine ⟨stage.before, hcalls,
      { once := ?_
        invoked := fun call hcall hinvoke => ?_
        called := fun stage entry h => called_of_starts hcalls h
        uncompiled := fun full kind located classified hne call hcall => ?_
        returned := fun code => iff_of_false (by simp [hresult]) ?_
        faulted := fun file message => iff_of_false (by simp [hresult]) ?_
        unfit := fun file => ⟨fun hformat => ?_, ?_⟩ }⟩
    · rw [countP_of_uncalled huncalled]
      exact Nat.zero_le 1
    · simp [huncalled call hcall] at hinvoke
    · simp [before_of_ready h.ready located classified hne] at hcall
    · exact fun ⟨_, _, _, hstarts, _⟩ => not_starts_of_uncalled hcalls huncalled hstarts
    · exact fun ⟨_, _, hstarts, _⟩ => not_starts_of_uncalled hcalls huncalled hstarts
    · obtain rfl : stage.full = file := by simpa [hresult] using hformat
      exact ⟨stage, h, hfind, rfl⟩
    · rintro ⟨other, hother, hnone, rfl⟩
      exact (run_of_none hother hnone args).1
  | some entry =>
    have hstarts : stage.Starts engine script session entry := ⟨h, hfind⟩
    obtain ⟨hresult, hcalls⟩ := run_of_starts hstarts args
    refine ⟨stage.before ++ [stage.call entry args], hcalls,
      { once := ?_
        invoked := fun call hcall hinvoke => ?_
        called := fun stage entry h => called_of_starts hcalls h
        uncompiled := fun full kind located classified hne call hcall => ?_
        returned := fun code => ⟨fun hcode => ?_, ?_⟩
        faulted := fun file message => ⟨fun hfault => ?_, ?_⟩
        unfit := fun file => ⟨fun hformat => ?_, ?_⟩ }⟩
    · rw [List.countP_append, countP_of_uncalled huncalled]
      simp [Stage.call, Call.isInvoke]
    · rcases List.mem_append.mp hcall with hbefore | hlast
      · simp [huncalled call hbefore] at hinvoke
      · obtain rfl := List.mem_singleton.mp hlast
        exact ⟨stage, entry, hstarts, rfl, rfl⟩
    · rw [before_of_ready h.ready located classified hne, List.nil_append] at hcall
      obtain rfl := List.mem_singleton.mp hcall
      rfl
    · obtain ⟨value, houtcome, hcode⟩ := resultCode_eq_ok_iff.mp (hresult.symm.trans hcode)
      exact ⟨stage, entry, value, hstarts, houtcome, hcode⟩
    · rintro ⟨other, entry', value, hother, houtcome, hcode⟩
      exact (run_of_starts hother args).1.trans (resultCode_eq_ok_iff.mpr ⟨value, houtcome, hcode⟩)
    · obtain ⟨houtcome, hfile⟩ := resultCode_eq_scriptFault_iff.mp (hresult.symm.trans hfault)
      exact ⟨stage, entry, hstarts, houtcome, hfile⟩
    · rintro ⟨other, entry', hother, hfault⟩
      exact (run_of_starts hother args).1.trans (resultCode_eq_scriptFault_iff.mpr hfault)
    · exact absurd (hresult.symm.trans hformat) resultCode_ne_badFormat
    · rintro ⟨other, hother, hnone, rfl⟩
      exact absurd (hresult.symm.trans (run_of_none hother hnone args).1) resultCode_ne_badFormat

/-- Every run calls one method at most, and that is the entry point of the module it has loaded: the
script's own, or the one that a single call of the compiler has made of it. What the call comes to
is what the run comes to. -/
theorem run_executes (engine : Engine) (script : Path) (args : List String) (session : Session) :
    ∃ made, (engine.run script args session).2.calls = session.calls ++ made ∧
      Executes engine script args session made (engine.run script args session).1 := by
  rcases reached_or_fails engine script args session with ⟨stage, h⟩ | ⟨made, hcalls, h⟩
  · exact executes_of_reached h args
  · exact ⟨made, hcalls, executes_of_fails hcalls h⟩

end Engine

end ScriptBuild
