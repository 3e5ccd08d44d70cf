import ScriptBuild.Engine

/-!
# How a compilation goes

A compilation resolves the script and makes its unit before it changes anything. From there on it is
the building of that unit: writing it, calling the compiler, removing it.

There are two ways for a compilation to end before the compiler is called: the script cannot be
located, resolved or read, or the unit cannot be written, and then what there is of the unit is
removed all the same. Otherwise it ends as the compiler's answer says (`verdict`), and removing the
unit comes last. `compile_cases` separates what changes nothing from what builds, and most of what
is said of whole compilations goes by it.

A run of source text makes its temporary module first and compiles to that. Whoever compares runs
with compilations has to do so in the tree with the temporary module in it, and with the lots that
are left.

**Results.**
* `build_of_write_error`, `build_of_write`: the two ways of building a unit.
* `compile_cases`: a compilation fails before it changes anything, or builds a unit.
* `compile_wrote`, `compile_called`: a compilation fails before it calls the compiler, or ends as
  the compiler says.
* `compile_built`: what a compilation that ends well has written, called and left.
* `temporary_cases`: a temporary module is made, or is refused.
* `run_of_compile_error`, `run_of_compile_ok`: what a run makes of its compilation.
-/
namespace ScriptBuild.Engine

variable {engine : Engine} {script output : Path} {session after : Session} {files : FileSystem}
  {found : Resolution} {unit : String}

theorem build_of_write_error {cause : IoError}
    (h : session.files.write (unitPath script) (Text.Utf8.encode unit) = .error cause) :
    engine.build script found unit output session =
      (.error (.io (unitPath script) cause),
        { session with files := session.files.remove (unitPath script) }) := by
  simp [build, h]

theorem build_of_write
    (h : session.files.write (unitPath script) (Text.Utf8.encode unit) = .ok files) :
    engine.build script found unit output session =
      (verdict (engine.compiler.compile (engine.request script found output) files).1,
        { session with
          files := (engine.compiler.compile (engine.request script found output) files).2.remove
            (unitPath script)
          calls := session.calls ++ [.compile (engine.request script found output) files] }) := by
  simp [build, h]

theorem normalize_of_source {mode : Mode} {text : String}
    (kind : engine.kind session.files script = .ok .source)
    (declared : Mode.declared session.files script = .ok mode)
    (read : Source.read session.files script = .ok text) :
    engine.normalize script session =
      (.ok (Wrapping.normalize session.names mode text).1,
        { session with names := (Wrapping.normalize session.names mode text).2 }) := by
  have hmode : engine.mode session.files script = .ok (some mode) := by
    unfold Engine.kind at kind
    simp [Engine.mode, Mode.of, kind, declared, Except.map]
  simp [normalize, hmode, read]

theorem source_of_normalize (h : engine.normalize script session = (.ok unit, after)) :
    ∃ mode text, Mode.declared session.files script = .ok mode ∧
      Source.read session.files script = .ok text ∧
      unit = (Wrapping.normalize session.names mode text).1 := by
  unfold normalize at h
  split at h
  · cases h
  · rename_i mode? hmode
    split at h
    · cases h
    · rename_i text hread
      split at h
      · cases h
      · rename_i mode
        cases h
        refine ⟨mode, text, ?_, hread, rfl⟩
        unfold Engine.mode Mode.of at hmode
        split at hmode
        · cases hdeclared : Mode.declared session.files script with
          | error failure => simp [hdeclared, Except.map] at hmode
          | ok declared => simpa [hdeclared, Except.map] using hmode
        · cases hmode

theorem files_of_normalize (engine : Engine) (script : Path) (session : Session) :
    (engine.normalize script session).2.files = session.files ∧
      (engine.normalize script session).2.calls = session.calls := by
  unfold normalize
  split
  · exact ⟨rfl, rfl⟩
  · split
    · exact ⟨rfl, rfl⟩
    · split
      · exact ⟨rfl, rfl⟩
      · exact ⟨rfl, rfl⟩

theorem compile_of_normalize {full : Path} {after : Session}
    (located : Source.canonical session.files script = .ok full)
    (resolved : engine.resolve session.files full = .ok found)
    (normalized : engine.normalize full session = (.ok unit, after)) :
    engine.compile script output session = engine.build full found unit output after := by
  simp [compile, located, resolved, normalized]

/-- A compilation fails before it changes anything, or builds the unit of what it has resolved. -/
theorem compile_cases (engine : Engine) (script output : Path) (session : Session) :
    (∃ failure after, engine.compile script output session = (.error failure, after) ∧
      after.files = session.files ∧ after.calls = session.calls) ∨
    ∃ full found unit after, Source.canonical session.files script = .ok full ∧
      engine.resolve session.files full = .ok found ∧
      engine.normalize full session = (.ok unit, after) ∧
      engine.compile script output session = engine.build full found unit output after := by
  cases hlocated : Source.canonical session.files script with
  | error failure => exact .inl ⟨failure, session, by simp [compile, hlocated], rfl, rfl⟩
  | ok full =>
    cases hresolved : engine.resolve session.files full with
    | error failure =>
      exact .inl ⟨failure, session, by simp [compile, hlocated, hresolved], rfl, rfl⟩
    | ok found =>
      have hfiles := files_of_normalize engine full session
      cases hnormalized : engine.normalize full session with
      | mk result after =>
        rw [hnormalized] at hfiles
        cases result with
        | error failure =>
          exact .inl ⟨failure, after, by simp [compile, hlocated, hresolved, hnormalized], hfiles⟩
        | ok unit =>
          exact .inr ⟨full, found, unit, after, rfl, hresolved, hnormalized,
            compile_of_normalize hlocated hresolved hnormalized⟩

/-- A compilation fails before it calls the compiler, or writes the unit, calls the compiler once
and ends as that says. -/
theorem compile_wrote (engine : Engine) (script output : Path) (session : Session) :
    (∃ failure, (engine.compile script output session).1 = .error failure ∧
      (engine.compile script output session).2.calls = session.calls) ∨
    ∃ full found unit files, Source.canonical session.files script = .ok full ∧
      engine.resolve session.files full = .ok found ∧
      session.files.write (unitPath full) (Text.Utf8.encode unit) = .ok files ∧
      (engine.compile script output session).2.calls =
        session.calls ++ [.compile (engine.request full found output) files] ∧
      (engine.compile script output session).1 =
        verdict (engine.compiler.compile (engine.request full found output) files).1 := by
  rcases compile_cases engine script output session with
    ⟨failure, after, hcompile, -, hcalls⟩ |
    ⟨full, found, unit, after, hlocated, hresolved, hnormalized, hcompile⟩
  · exact .inl ⟨failure, by rw [hcompile], by rw [hcompile, hcalls]⟩
  · obtain ⟨hfiles, hcalls⟩ := files_of_normalize engine full session
    rw [hnormalized] at hfiles hcalls
    simp only at hfiles hcalls
    cases hwrite : after.files.write (unitPath full) (Text.Utf8.encode unit) with
    | error cause =>
      rw [build_of_write_error hwrite] at hcompile
      exact .inl ⟨_, by rw [hcompile], by rw [hcompile, hcalls]⟩
    | ok files =>
      rw [build_of_write hwrite] at hcompile
      exact .inr ⟨full, found, unit, files, hlocated, hresolved, hfiles ▸ hwrite,
        by rw [hcompile, hcalls], by rw [hcompile]⟩

theorem compile_called (engine : Engine) (script output : Path) (session : Session) :
    (∃ failure, (engine.compile script output session).1 = .error failure ∧
      (engine.compile script output session).2.calls = session.calls) ∨
    ∃ full found files, Source.canonical session.files script = .ok full ∧
      engine.resolve session.files full = .ok found ∧
      (engine.compile script output session).2.calls =
        session.calls ++ [.compile (engine.request full found output) files] ∧
      (engine.compile script output session).1 =
        verdict (engine.compiler.compile (engine.request full found output) files).1 := by
  rcases compile_wrote engine script output session with
    hfailed | ⟨full, found, unit, files, hlocated, hresolved, -, hcalls, hverdict⟩
  · exact .inl hfailed
  · exact .inr ⟨full, found, files, hlocated, hresolved, hcalls, hverdict⟩

/-- A compilation that ends well has built the unit that it gave to the compiler. -/
theorem compile_built {warnings : List Diagnostic}
    (h : engine.compile script output session = (.ok warnings, after)) :
    ∃ full found unit given, Source.canonical session.files script = .ok full ∧
      session.files.write (unitPath full) (Text.Utf8.encode unit) = .ok given ∧
      after.calls = session.calls ++ [.compile (engine.request full found output) given] ∧
      after.files = (engine.compiler.compile (engine.request full found output) given).2.remove
        (unitPath full) := by
  rcases compile_cases engine script output session with
    ⟨failure, failed, hcompile, -, -⟩ |
    ⟨full, found, unit, made, hlocated, -, hnormalized, hcompile⟩
  · simp [hcompile] at h
  · obtain ⟨hfiles, hcalls⟩ := files_of_normalize engine full session
    rw [hnormalized] at hfiles hcalls
    simp only at hfiles hcalls
    cases hwrite : made.files.write (unitPath full) (Text.Utf8.encode unit) with
    | error cause =>
      rw [hcompile, build_of_write_error hwrite] at h
      simp at h
    | ok given =>
      rw [hcompile, build_of_write hwrite] at h
      obtain ⟨-, rfl⟩ := Prod.mk.inj h
      exact ⟨full, found, unit, given, hlocated, by rw [← hfiles, hwrite], by rw [hcalls], rfl⟩

/-! ## Runs of source text -/

theorem temporary_cases (engine : Engine) (session : Session) :
    (∃ refusal lots, session.temporary engine.temporary = (.error refusal, lots)) ∨
    ∃ module made lots, session.temporary engine.temporary = (.ok (module, made), lots) := by
  obtain ⟨⟨created, lots⟩, temporary⟩ :
    ∃ answer, session.temporary engine.temporary = answer := ⟨_, rfl⟩
  cases created with
  | error refusal => exact .inl ⟨refusal, lots, temporary⟩
  | ok pair => exact .inr ⟨pair.1, pair.2, lots, temporary⟩

section Run

variable {full module : Path} {made : FileSystem} {lots : List Lot} (args : List String)
  (located : Source.canonical session.files script = .ok full)
  (classified : engine.kind session.files full = .ok .source)
include located classified

theorem run_of_no_temporary {refusal : IoError}
    (refused : session.temporary engine.temporary = (.error refusal, lots)) :
    engine.run script args session =
      (.error (.io engine.temporary.path refusal), { session with lots := lots }) := by
  simp only [run, located, classified, runSource, refused]

theorem run_of_compile_error {failure : Failure}
    (temporary : session.temporary engine.temporary = (.ok (module, made), lots))
    (failed : engine.compile full module { session with files := made, lots := lots } =
      (.error failure, after)) :
    (engine.run script args session).1 = .error failure ∧
      (engine.run script args session).2.calls = after.calls := by
  simp only [run, located, classified, runSource, temporary, failed]
  exact ⟨trivial, trivial⟩

theorem run_of_compile_ok {warnings : List Diagnostic}
    (temporary : session.temporary engine.temporary = (.ok (module, made), lots))
    (compiled : engine.compile full module { session with files := made, lots := lots } =
      (.ok warnings, after)) :
    (engine.run script args session).1 = (engine.start full module args after).1 ∧
      (engine.run script args session).2.calls = (engine.start full module args after).2.calls := by
  simp only [run, located, classified, runSource, temporary, compiled]
  exact ⟨trivial, trivial⟩

end Run

end ScriptBuild.Engine
