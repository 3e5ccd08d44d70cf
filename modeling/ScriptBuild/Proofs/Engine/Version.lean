import ScriptBuild.Proofs.Engine.Portability
import ScriptBuild.Proofs.FileSystem.Idle
import ScriptBuild.Proofs.Resolution.Version

/-!
# Scripts that ask for a version

Where a script does not resolve, neither a compilation nor a run of it calls anything. A run
resolves the script when its temporary module has been made already. That is a file more, but no
header that was there is another for it, and an include that led to a file still leads to that.

`Refused` says it for the three operations at once, and with what is allowed to be found instead.
For the script itself nothing is allowed. For a file that it includes there is one exception, which
the walk's record shows: another entry under the same key, met earlier, by which the file was
neither recorded nor entered.

A version counts only where the search comes to it (`Header.Versioned`): behind a line that ends the
search it is never met. And an included file has to be source text when the script is resolved. For
a run that is after the temporary module was made, so the loader must not change its answer for the
file by then; both limits are shown to be needed.

**Results.**
* `compile_or_allowed`, `run_or_allowed`: an operation on a script calls nothing, or the script
  resolves.
* `Making.gives`: what a header includes, it still includes when a temporary module has been made.
* `version_refused`: what comes of a script that asks for a version, or includes a file that does.
* `version_passed_over`: where that is not so.
-/
namespace ScriptBuild.Engine

variable {engine : Engine} {files made : FileSystem} {script full target module : Path}
  {session : Session} {spot : Place} {allowed : Resolution → Prop} {header : List String}

/-- Nothing comes of a script: it does not resolve, and to compile or to run it fails before
anything is called. That is so unless something is found for it that is allowed. -/
structure Refused (engine : Engine) (session : Session) (script : Path)
    (allowed : Resolution → Prop) : Prop where
  resolve : ∀ found, engine.resolve session.files script = .ok found → allowed found
  compile : ∀ output,
    (∃ failure, (engine.compile script output session).1 = .error failure ∧
      (engine.compile script output session).2.calls = session.calls) ∨
    ∃ found, engine.resolve session.files script = .ok found ∧ allowed found
  /-- A run resolves the canonical path of the script, beside its temporary module. -/
  run : ∀ args,
    (∃ failure, (engine.run script args session).1 = .error failure ∧
      (engine.run script args session).2.calls = session.calls) ∨
    ∃ full module made found, Source.canonical session.files script = .ok full ∧
      (session.temporary engine.temporary).1 = .ok (module, made) ∧
      engine.resolve made full = .ok found ∧ allowed found

theorem resolve_full (located : Source.canonical files script = .ok full)
    (hfile : files.isFile full = true) :
    engine.resolve files full = engine.resolve files script := by
  have hfull : Source.canonical files full = .ok full := by
    simp [Source.canonical, Source.checkFile_iff.mpr hfile,
      FileSystem.canonical_of_canonical (Source.canonical_of_ok located)]
  simp only [resolve, Resolver.resolve, located, hfull]

theorem compile_of_unresolved {failure : Failure} (output : Path)
    (located : Source.canonical session.files script = .ok full)
    (failed : engine.resolve session.files full = .error failure) :
    engine.compile script output session = (.error failure, session) := by
  simp [compile, located, failed]

/-- Unless the script resolves, a compilation fails before it calls the compiler. -/
theorem compile_or_allowed (output : Path)
    (located : Source.canonical session.files script = .ok full)
    (h : ∀ found, engine.resolve session.files full = .ok found → allowed found) :
    (∃ failure, (engine.compile script output session).1 = .error failure ∧
      (engine.compile script output session).2.calls = session.calls) ∨
    ∃ found, engine.resolve session.files full = .ok found ∧ allowed found := by
  cases hresolved : engine.resolve session.files full with
  | error failure =>
    have hcompile := compile_of_unresolved output located hresolved
    exact .inl ⟨failure, by rw [hcompile], by rw [hcompile]⟩
  | ok found => exact .inr ⟨found, rfl, h found hresolved⟩

/-- Unless the script resolves beside the temporary module, a run fails before it calls anything. -/
theorem run_or_allowed (args : List String)
    (located : Source.canonical session.files script = .ok full)
    (classified : engine.kind session.files full = .ok .source)
    (h : ∀ spot module made found,
      (session.temporary engine.temporary).1 = .ok (module, made) →
      Making session.files module spot made → Source.canonical made full = .ok full →
      engine.resolve made full = .ok found → allowed found) :
    (∃ failure, (engine.run script args session).1 = .error failure ∧
      (engine.run script args session).2.calls = session.calls) ∨
    ∃ full module made found, Source.canonical session.files script = .ok full ∧
      (session.temporary engine.temporary).1 = .ok (module, made) ∧
      engine.resolve made full = .ok found ∧ allowed found := by
  rcases engine.temporary_cases session with
    ⟨refusal, lots, temporary⟩ | ⟨module, made, lots, temporary⟩
  · have hrun := run_of_no_temporary args located classified temporary
    exact .inl ⟨_, by rw [hrun], by rw [hrun]⟩
  · have hcreate := congrArg Prod.fst temporary
    obtain ⟨spot, hmaking⟩ := making_of_temporary hcreate
    have hcanonical := FileSystem.canonical_of_canonical (Source.canonical_of_ok located)
    obtain ⟨-, hfull⟩ :=
      canonical_made hcanonical (ScriptKind.isFile_of_kind classified) hmaking
    cases hresolved : engine.resolve made full with
    | error failure =>
      have hcompile : engine.compile full module { session with files := made, lots := lots } =
          (.error failure, { session with files := made, lots := lots }) :=
        compile_of_unresolved module hfull hresolved
      obtain ⟨hresult, hcalls⟩ := run_of_compile_error args located classified temporary hcompile
      exact .inl ⟨failure, hresult, hcalls⟩
    | ok found =>
      exact .inr ⟨full, module, made, found, located, hcreate, hresolved,
        h spot module made found hcreate hmaking hfull hresolved⟩

/-- What a header includes, if it is a file, it still includes when a temporary module has been
made. -/
theorem Making.gives {resolver : Resolver} {line : Nat} (h : Making files module spot made)
    (hfull : files.isFile full = true) (hfile : files.isFile target = true)
    (gives : resolver.Gives files full line (.includes target)) :
    resolver.Gives made full line (.includes target) := by
  obtain ⟨header, read, hmem⟩ := gives
  refine ⟨header, ((h.readsAlike (h.resolve_ne hfull)).header).trans read, ?_⟩
  refine HeaderScan.mem_items_congr hmem fun path hpath => ?_
  subst hpath
  exact FileSystem.fullPath_of_made_of_isFile h.free h.changedAt hfile

/-! ## A script beside a unit that asks for a version -/

/-- There is a script with this text and, beside it, a unit that asks for a version. -/
structure Asking (files : FileSystem) (main : String) : Prop where
  main : files.node? ["main"] = some (.file (Text.Utf8.encode main))
  lib : files.node? ["lib"] = some (.file (Text.Utf8.encode "//#mode complex\n//#Version \"2\"\n"))

def asking (main : String) : Session where
  files :=
    { nodes := [
        (["main"], .file (Text.Utf8.encode main)),
        (["lib"], .file (Text.Utf8.encode "//#mode complex\n//#Version \"2\"\n"))]
      cwd := [] }
  names := .counting 0
  lots := [FileSystem.firstLot]

theorem asking_files (main : String) : Asking (asking main).files main := ⟨rfl, rfl⟩

theorem rootName_lib : FileSystem.RootName "lib" := by decide

theorem asksVersion_lib : Header.AsksVersion "//#Version \"2\"" :=
  ⟨"\"2\"", by cbv⟩

theorem versioned_lib : Header.Versioned ["//#mode complex", "//#Version \"2\""] := by
  refine ⟨["//#mode complex"], _, [], rfl, asksVersion_lib, ?_⟩
  intro earlier hearlier hends
  obtain rfl := List.mem_singleton.mp hearlier
  obtain ⟨command, raw, hsplit, hread, -⟩ := hends
  have hmode : Header.splitCommand "//#mode complex" = some ("//#mode", "complex") := by cbv
  obtain ⟨rfl, rfl⟩ : "//#mode" = command ∧ "complex" = raw := by
    simpa using hmode.symm.trans hsplit
  exact absurd hread (by decide)

theorem split_includeLib : Header.splitCommand "//#include \"/lib\"" =
    some (Directive.includeCommand, "\"/lib\"") := by
  cbv

namespace Asking

variable {main : String} (h : Asking files main)
include h

theorem resolve :
    files.resolve ⟨"/main"⟩ = .ok ["main"] ∧ files.resolve ⟨"/lib"⟩ = .ok ["lib"] :=
  ⟨FileSystem.resolve_path_of_spelled (rootName_main.spelled h.main),
    FileSystem.resolve_path_of_spelled (rootName_lib.spelled h.lib)⟩

theorem isFile : files.isFile ⟨"/main"⟩ = true ∧ files.isFile ⟨"/lib"⟩ = true :=
  ⟨FileSystem.isFile_iff.mpr ⟨_, _, h.resolve.1, h.main⟩,
    FileSystem.isFile_iff.mpr ⟨_, _, h.resolve.2, h.lib⟩⟩

theorem canonical : Source.canonical files ⟨"/main"⟩ = .ok ⟨"/main"⟩ :=
  Source.canonical_of_locate h.resolve.1 h.main
    (FileSystem.locate_path_of_spelled (rootName_main.spelled h.main))

theorem kind :
    idle.kind files ⟨"/main"⟩ = .ok .source ∧ idle.kind files ⟨"/lib"⟩ = .ok .source :=
  ⟨ScriptKind.source_of_probe h.isFile.1 rfl, ScriptKind.source_of_probe h.isFile.2 rfl⟩

theorem header_lib :
    Source.header files ⟨"/lib"⟩ = .ok ["//#mode complex", "//#Version \"2\""] := by
  rw [Source.header_of_resolve h.resolve.2 h.lib]
  cbv

theorem meaning_include (directory reference : Path) :
    Header.meaning files directory reference "//#include \"/lib\"" =
      .ok (.found (.includes ⟨"/lib"⟩)) :=
  Header.meaning_of_spelled (rootName_lib.spelled h.lib) rfl split_includeLib (by cbv)

end Asking

/-- Nothing comes of a script that asks for a version. Nor does anything of one that includes a file
that does, unless something else is under that file's key and keeps it from being entered. -/
theorem version_refused (located : Source.canonical session.files script = .ok full)
    (classified : engine.kind session.files full = .ok .source) :
    (∀ header, Source.header session.files full = .ok header → Header.Versioned header →
      Refused engine session script fun _ => False) ∧
    ∀ line target header, engine.resolver.Gives session.files full line (.includes target) →
      engine.kind session.files target = .ok .source →
      Source.header session.files target = .ok header → Header.Versioned header →
      (∀ module made, (session.temporary engine.temporary).1 = .ok (module, made) →
        engine.loader.probe made target = engine.loader.probe session.files target) →
      Refused engine session script fun found =>
        Resolver.Displaced found (.file target) ∧ target ∉ found.sources := by
  have hfile := ScriptKind.isFile_of_kind classified
  have hsame : engine.resolve session.files full = engine.resolve session.files script :=
    resolve_full located hfile
  constructor
  · intro header read versioned
    have hresolve : ∀ found, engine.resolve session.files script = .ok found → False :=
      fun found hfound => Resolver.not_versioned_of_resolve hfound located read versioned
    refine ⟨hresolve, fun output => ?_, fun args => ?_⟩
    · rw [← hsame] at hresolve ⊢
      exact compile_or_allowed output located hresolve
    · refine run_or_allowed args located classified ?_
      intro spot module made found hcreate hmaking hfull hfound
      have hread := (hmaking.readsAlike (hmaking.resolve_ne hfile)).header.trans read
      exact Resolver.not_versioned_of_resolve hfound hfull hread versioned
  · intro line target header gives kind read versioned hprobe
    have htarget := ScriptKind.isFile_of_kind kind
    have hresolve : ∀ found, engine.resolve session.files script = .ok found →
        Resolver.Displaced found (.file target) ∧ target ∉ found.sources :=
      fun found hfound => Resolver.displaced_of_versioned hfound located gives kind read versioned
    refine ⟨hresolve, fun output => ?_, fun args => ?_⟩
    · rw [← hsame] at hresolve ⊢
      exact compile_or_allowed output located hresolve
    · refine run_or_allowed args located classified ?_
      intro spot module made found hcreate hmaking hfull hfound
      have halike := hmaking.readsAlike (hmaking.resolve_ne htarget)
      have hnone := (hprobe module made hcreate).trans (ScriptKind.probe_of_source kind)
      have hkind : ScriptKind.of engine.loader.probe engine.settings.marker made target =
          .ok .source :=
        ScriptKind.source_of_probe (halike.isFile.trans htarget) hnone
      exact Resolver.displaced_of_versioned hfound hfull (hmaking.gives hfile htarget gives) hkind
        (halike.header.trans read) versioned

def asksTwice : Session := asking "//#include \"/lib\"\n//#VERSION 1\n"

theorem header_asksTwice : Source.header asksTwice.files ⟨"/main"⟩ =
    .ok ["//#include \"/lib\"", "//#VERSION 1"] := by
  rw [asksTwice, Source.header_of_resolve (asking_files _).resolve.1 rfl]
  cbv

theorem versioned_asksTwice : Header.Versioned ["//#include \"/lib\"", "//#VERSION 1"] := by
  refine ⟨["//#include \"/lib\""], "//#VERSION 1", [], rfl, ⟨"1", by cbv⟩, ?_⟩
  intro earlier hearlier hends
  obtain rfl := List.mem_singleton.mp hearlier
  obtain ⟨command, raw, hsplit, -, hcommand⟩ := hends
  obtain rfl : Directive.includeCommand = command :=
    congrArg Prod.fst (Option.some.inj (split_includeLib.symm.trans hsplit))
  exact hcommand (by decide)

theorem gives_asksTwice :
    idle.resolver.Gives asksTwice.files ⟨"/main"⟩ 1 (.includes ⟨"/lib"⟩) := by
  have hasking : Asking asksTwice.files _ := asking_files _
  refine ⟨_, header_asksTwice, ?_⟩
  rw [HeaderScan.items_of_next_some (HeaderScan.next_of_found rfl (hasking.meaning_include _ _))]
  exact List.mem_cons_self

theorem version_refused_asksTwice :
    Source.canonical asksTwice.files ⟨"/main"⟩ = .ok ⟨"/main"⟩ ∧
    idle.kind asksTwice.files ⟨"/main"⟩ = .ok .source ∧
    Refused idle asksTwice ⟨"/main"⟩ (fun _ => False) ∧
    Refused idle asksTwice ⟨"/main"⟩ fun found =>
      Resolver.Displaced found (.file ⟨"/lib"⟩) ∧ ⟨"/lib"⟩ ∉ found.sources := by
  have hasking : Asking asksTwice.files _ := asking_files _
  obtain ⟨hmain, hlib⟩ := hasking.kind
  obtain ⟨hown, hincluded⟩ := version_refused hasking.canonical hmain
  exact ⟨hasking.canonical, hmain, hown _ header_asksTwice versioned_asksTwice,
    hincluded 1 ⟨"/lib"⟩ _ gives_asksTwice hlib hasking.header_lib versioned_lib fun _ _ _ => rfl⟩

/-! ## Versions that are passed over -/

/-- A script with a note in quotes in front of the version it asks for. -/
def asksLate : Session := asking "// \"note\"\n//#version 1\n"

/-- A script that refers to the unit by the text of its path, and then includes it. -/
def refersToLib : Session := asking "//#ref \"/lib\"\n//#include \"/lib\"\n"

def includesOnly : String := "//#mode complex\n//#include \"/lib\"\n"

/-- No module opens but the unit, and that only while there is a temporary module. -/
def openLate (path : Path) (files : FileSystem) : Except ToolError LoadedModule :=
  if path = ⟨"/lib"⟩ ∧ files.node? ["scs-AAAAAA.dll"] ≠ none then
    .ok ⟨fun _ => true, .ok [], fun _ _ _ files => ⟨.ok (.returned none), files, {}⟩⟩
  else .error (.load path "no module")

def opensLate : Engine :=
  { idle with loader := ⟨fun path files => (openLate path files, files), fun _ _ => rfl⟩ }

theorem header_asksLate :
    Source.header asksLate.files ⟨"/main"⟩ = .ok ["// \"note\"", "//#version 1"] := by
  rw [asksLate, Source.header_of_resolve (asking_files _).resolve.1 rfl]
  cbv

theorem header_refersToLib : Source.header refersToLib.files ⟨"/main"⟩ =
    .ok ["//#ref \"/lib\"", "//#include \"/lib\""] := by
  rw [refersToLib, Source.header_of_resolve (asking_files _).resolve.1 rfl]
  cbv

theorem resolve_asksLate : idle.resolve asksLate.files ⟨"/main"⟩ = .ok .empty := by
  have hstop : Header.meaning asksLate.files (⟨"/main"⟩ : Path).directory idle.resolver.reference
      "// \"note\"" = .ok .stop := by
    cbv
  exact Resolver.resolve_of_completes (asking_files _).canonical header_asksLate
    (.finished (HeaderScan.next_of_stop rfl hstop))

theorem meaning_refLib (files : FileSystem) (directory : Path) :
    Header.meaning files directory idle.resolver.reference "//#ref \"/lib\"" =
      .ok (.found (.reference "/lib")) := by
  cbv

theorem gives_refersToLib :
    idle.resolver.Gives refersToLib.files ⟨"/main"⟩ 2 (.includes ⟨"/lib"⟩) := by
  have hasking : Asking refersToLib.files _ := asking_files _
  refine ⟨_, header_refersToLib, ?_⟩
  rw [HeaderScan.items_of_next_some (HeaderScan.next_of_found rfl (meaning_refLib _ _)),
    HeaderScan.items_of_next_some (HeaderScan.next_of_found rfl (hasking.meaning_include _ _))]
  exact List.mem_cons_of_mem _ List.mem_cons_self

theorem resolve_refersToLib :
    idle.resolve refersToLib.files ⟨"/main"⟩ = .ok ⟨[.library "/lib"], by decide⟩ := by
  have hasking : Asking refersToLib.files _ := asking_files _
  have hmode : Mode.declaredFrom ⟨"/lib"⟩ 1 ["//#mode complex", "//#Version \"2\""] =
      .ok .complex := by
    cbv
  have hrun : Resolver.Completes idle.resolver refersToLib.files
      (HeaderScan.start ⟨"/main"⟩ ["//#ref \"/lib\"", "//#include \"/lib\""]
        idle.resolver.reference) .empty [] ⟨[.library "/lib"], by decide⟩ := by
    refine .brought (HeaderScan.next_of_found rfl (meaning_refLib _ _)) (.library "/lib")
      (by simp [Dependency.source?]) ?_
    refine .brought (HeaderScan.next_of_found rfl (hasking.meaning_include _ _))
      (.source hasking.kind.2 (Mode.declared_of_header hasking.header_lib hmode))
      (fun _ => by decide) ?_
    exact .finished (HeaderScan.next_of_nil rfl)
  exact Resolver.resolve_of_completes hasking.canonical header_refersToLib hrun

section IncludesOnly

variable (h : Asking files includesOnly)
include h

theorem read_includesOnly :
    Source.read files ⟨"/main"⟩ = .ok includesOnly ∧
    Source.header files ⟨"/main"⟩ = .ok ["//#mode complex", "//#include \"/lib\""] := by
  rw [Source.read_of_resolve h.resolve.1 h.main, Source.header_of_resolve h.resolve.1 h.main]
  exact ⟨by cbv, by cbv⟩

theorem next_includesOnly (reference : Path) :
    (HeaderScan.start ⟨"/main"⟩ ["//#mode complex", "//#include \"/lib\""] reference).next files =
      (some (.ok (2, .includes ⟨"/lib"⟩)), ⟨⟨"/main"⟩, reference, [], 2⟩) := by
  rw [HeaderScan.next_of_skip rfl (Header.meaning_modeComplex _ _ _)]
  exact HeaderScan.next_of_found rfl (h.meaning_include _ _)

theorem kind_opensLate_main : opensLate.kind files ⟨"/main"⟩ = .ok .source :=
  ScriptKind.source_of_probe h.isFile.1 rfl

theorem calls_opensLate (hthere : files.node? ["scs-AAAAAA.dll"] ≠ none)
    (hunit : files.TakesFile ["main.norm"]) (hfiles : session.files = files) (output : Path) :
    ∃ request given after, opensLate.compile ⟨"/main"⟩ output session = (.ok [], after) ∧
      after.calls = session.calls ++ [.compile request given] := by
  subst hfiles
  have hkind : opensLate.kind session.files ⟨"/lib"⟩ = .ok .binary := by
    have hcheck := Source.checkFile_iff.mpr h.isFile.2
    simp [Engine.kind, ScriptKind.of, hcheck, opensLate, openLate, Loader.probe, Loader.look,
      hthere]
  have hrun : Resolver.Completes opensLate.resolver session.files
      (HeaderScan.start ⟨"/main"⟩ ["//#mode complex", "//#include \"/lib\""]
        opensLate.resolver.reference) .empty [] ⟨[.binary ⟨"/lib"⟩], by decide⟩ := by
    refine .brought (next_includesOnly h _) (.binary hkind) (by simp [Dependency.source?]) ?_
    exact .finished (HeaderScan.next_of_nil rfl)
  obtain ⟨hread, hheader⟩ := read_includesOnly h
  have hresolve : opensLate.resolve session.files ⟨"/main"⟩ = _ :=
    Resolver.resolve_of_completes h.canonical hheader hrun
  have hmode : Mode.declaredFrom ⟨"/main"⟩ 1 ["//#mode complex", "//#include \"/lib\""] =
      .ok .complex := by
    cbv
  have hnormalize : opensLate.normalize ⟨"/main"⟩ session = (.ok includesOnly, session) :=
    normalize_of_source (kind_opensLate_main h) (Mode.declared_of_header hheader hmode) hread
  rw [compile_of_normalize h.canonical hresolve hnormalize,
    build_of_write (rootName_unit.write hunit)]
  exact ⟨_, _, _, rfl, rfl⟩

end IncludesOnly

theorem run_opensLate : ∃ request given,
    (opensLate.run ⟨"/main"⟩ [] (asking includesOnly)).2.calls = [.compile request given] := by
  have hasking := asking_files includesOnly
  have hmade : Asking ((asking includesOnly).files.set ["scs-AAAAAA.dll"] (.file []))
      includesOnly := ⟨rfl, rfl⟩
  have hcreate : (asking includesOnly).temporary opensLate.temporary =
      (.ok (⟨"/scs-AAAAAA.dll"⟩,
        (asking includesOnly).files.set ["scs-AAAAAA.dll"] (.file [])), []) :=
    createTemporary_root rfl []
  obtain ⟨request, given, after, hcompile, hcalls⟩ : ∃ request given after,
      opensLate.compile ⟨"/main"⟩ ⟨"/scs-AAAAAA.dll"⟩
          { asking includesOnly with
            files := (asking includesOnly).files.set ["scs-AAAAAA.dll"] (.file [])
            lots := [] } =
        (.ok [], after) ∧ after.calls = [.compile request given] :=
    calls_opensLate hmade (by decide) (.inl rfl) rfl _
  obtain ⟨-, hrun⟩ :=
    run_of_compile_ok [] hasking.canonical (kind_opensLate_main hasking) hcreate hcompile
  have hload : opensLate.loader.look ⟨"/scs-AAAAAA.dll"⟩ after.files =
      .error (.load ⟨"/scs-AAAAAA.dll"⟩ "no module") := rfl
  refine ⟨request, given, ?_⟩
  rw [hrun]
  simp only [start_eq, hload, hcalls]

/-- A version is passed over behind a line that ends the search, in an included file whose path is a
reference already, and in one that has become a module by the time a run resolves the script. -/
theorem version_passed_over :
    (idle.kind asksLate.files ⟨"/main"⟩ = .ok .source ∧
      ∃ header line, Source.header asksLate.files ⟨"/main"⟩ = .ok header ∧ line ∈ header ∧
        Header.AsksVersion line ∧ idle.resolve asksLate.files ⟨"/main"⟩ = .ok .empty) ∧
    (idle.kind refersToLib.files ⟨"/main"⟩ = .ok .source ∧
      idle.resolver.Gives refersToLib.files ⟨"/main"⟩ 2 (.includes ⟨"/lib"⟩) ∧
      idle.kind refersToLib.files ⟨"/lib"⟩ = .ok .source ∧
      ∃ header line found, Source.header refersToLib.files ⟨"/lib"⟩ = .ok header ∧
        line ∈ header ∧ Header.AsksVersion line ∧
        idle.resolve refersToLib.files ⟨"/main"⟩ = .ok found) ∧
    (opensLate.kind (asking includesOnly).files ⟨"/main"⟩ = .ok .source ∧
      opensLate.resolver.Gives (asking includesOnly).files ⟨"/main"⟩ 2 (.includes ⟨"/lib"⟩) ∧
      opensLate.kind (asking includesOnly).files ⟨"/lib"⟩ = .ok .source ∧
      ∃ header line, Source.header (asking includesOnly).files ⟨"/lib"⟩ = .ok header ∧
        line ∈ header ∧ Header.AsksVersion line ∧
        ∃ request given, (opensLate.run ⟨"/main"⟩ [] (asking includesOnly)).2.calls =
          [.compile request given]) := by
  refine ⟨?_, ?_, ?_⟩
  · exact ⟨(asking_files _).kind.1, _, "//#version 1", header_asksLate, by simp,
      ⟨"1", by cbv⟩, resolve_asksLate⟩
  · have hasking : Asking refersToLib.files _ := asking_files _
    exact ⟨hasking.kind.1, gives_refersToLib, hasking.kind.2, _, _, _, hasking.header_lib, by simp,
      asksVersion_lib, resolve_refersToLib⟩
  · have hasking := asking_files includesOnly
    refine ⟨kind_opensLate_main hasking, ⟨_, (read_includesOnly hasking).2, ?_⟩,
      ScriptKind.source_of_probe hasking.isFile.2 rfl, _, _, hasking.header_lib, by simp,
      asksVersion_lib, run_opensLate⟩
    rw [HeaderScan.items_of_next_some (next_includesOnly hasking _)]
    exact List.mem_cons_self

end ScriptBuild.Engine
