import ScriptBuild.Proofs.Engine.Portability

/-!
# Running a script and running its module

A run of source text compiles it to a temporary module and starts that. It comes to the same as
compiling the script to some output and running the module there, if the compiler is portable and a
module does the same from wherever it is loaded: the result codes are the same, and so are the
failures, but for the file that is blamed.

For that the temporary module has to be made, and must not be noticed before it is compiled. And the
module has to be at the output afterwards: it is not if the output leads to the unit.

The statement has two parts for that reason. Failures of the compilation are shared without a
condition on the output. For the runs to agree, what is read at the output must be the module, and a
third statement says when it is: the output is a place that takes a file, and not the unit's.

A failure of the module names a file. A run of the script blames the script, a run of the module
blames the module, and `Failure.rename` turns the one into the other; all else is equal. The
compiler of the examples needs its references to be there, so that a temporary module can be
noticed.

**Results.**
* `start_rename`: a module does the same from wherever it is loaded.
* `run_eq_run_output`: a run of a script is a run of its module.
* `run_ne_run_output`: how the two can come apart.
-/
namespace ScriptBuild

/-- The failure of a script or of its module, as one of the file given. -/
def Failure.rename (file : Path) : Failure → Failure
  | .scriptFault _ message => .scriptFault file message
  | .badFormat _ => .badFormat file
  | failure => failure

namespace Engine

variable {engine : Engine} {files made : FileSystem} {script full output module : Path}
  {args : List String} {session : Session}
  {product : CompileRequest → FileSystem → Option Text.Utf8.Bytes}

/-! ## Starting -/

/-- A module does the same from wherever it is loaded, but for the file that is blamed. -/
theorem start_rename {script' module' : Path} {session' : Session} {opened other : LoadedModule}
    (hload : engine.loader.look module session.files = .ok opened)
    (hload' : engine.loader.look module' session'.files = .ok other) (halike : opened.Alike other) :
    (engine.start script' module' args session').1 =
      (engine.start script module args session).1.mapError (.rename script') := by
  simp only [start_eq, hload, hload', halike.exportedTypes]
  cases htypes : opened.exportedTypes with
  | error error => rfl
  | ok types =>
    simp only
    cases hentry : EntryPoint.find? types with
    | none => rfl
    | some entry =>
      simp only [halike.outcome _ _ _ session.files session'.files]
      cases (opened.invoke entry.typeName entry.method
          (if entry.takesArgs then some args else none) session.files).outcome with
      | error error => rfl
      | ok invocation => cases invocation <;> rfl

theorem run_of_source (hlocated : Source.canonical session.files script = .ok full)
    (hkind : engine.kind session.files full = .ok .source)
    {lots : List Lot} (hcreate : session.temporary engine.temporary = (.ok (module, made), lots)) :
    (engine.run script args session).1 =
      match engine.compile full module { session with files := made, lots := lots } with
      | (.error failure, _) => .error failure
      | (.ok _, after) => (engine.start full module args after).1 := by
  simp only [run, hlocated, hkind, runSource, hcreate]
  cases engine.compile full module { session with files := made, lots := lots } with
  | mk result compiled => cases result <;> rfl

/-- What loads as a module is started as it is. -/
theorem run_of_module {opened : LoadedModule}
    (hlocated : Source.canonical session.files script = .ok full)
    (hfile : session.files.isFile full = true)
    (hload : engine.loader.look full session.files = .ok opened) :
    engine.run script args session = engine.start full full args session := by
  have hkind : engine.kind session.files full =
      .ok (if opened.hasType engine.settings.marker then .binary else .invalid) := by
    simp [kind, ScriptKind.of, Source.checkFile_iff.mpr hfile, Loader.probe, hload]
  simp only [run, hlocated, hkind]
  cases opened.hasType engine.settings.marker <;> rfl

/-! ## A compiler that needs its references -/

/-- The compiler fails unless it finds all references, of which these are the default ones. Else it
stamps the output. Temporary modules are made in this place. -/
def needing (defaults : List String) (temporary : Place) : Engine where
  settings := { defaults := defaults }
  compiler := ⟨fun request files =>
    if request.references.all fun name => files.isFile (.ofText name) then
      stamping.compiler.compile request files
    else (.error (.launch "csc" .missing), files)⟩
  loader := stamping.loader
  temporary := temporary

def needed (request : CompileRequest) (files : FileSystem) : Option Text.Utf8.Bytes :=
  if request.references.all fun name => files.isFile (.ofText name) then some stamp else none

variable {defaults : List String} {temporary : Place}

theorem load_stamping {path : Path} {opened : LoadedModule} :
    stamping.loader.look path files = .ok opened ↔
      files.read path = .ok stamp ∧ opened = stamped := by
  simp only [stamping, Loader.look, openStamped]
  cases hread : files.read path with
  | error cause => simp
  | ok content =>
    by_cases hstamp : content = stamp
    · simp [hstamp, eq_comm]
    · simp [hstamp]

theorem byContent_needing : (needing defaults temporary).loader.ByContent := by
  intro content path files path' files' opened hread hread' hload
  obtain ⟨hstamp, rfl⟩ := load_stamping.mp hload
  obtain rfl : content = stamp := Except.ok.inj (hread.symm.trans hstamp)
  exact ⟨stamped, load_stamping.mpr ⟨hread', rfl⟩, rfl, rfl, fun _ _ _ _ _ => rfl⟩

theorem stamping_answers (request : CompileRequest) (files : FileSystem) :
    (stamping.compiler.compile request files).1 = .ok [] := by
  simp only [stamping]
  split
  · rfl
  · split <;> rfl

theorem portable_needing : (needing defaults temporary).compiler.Portable needed where
  moved request files output after _ _ hreferences := by
    have hall : (request.references.all fun name => after.isFile (.ofText name)) =
        request.references.all fun name => files.isFile (.ofText name) := by
      rw [Bool.eq_iff_iff, List.all_eq_true, List.all_eq_true]
      exact forall₂_congr fun name hname => by rw [(hreferences name hname).isFile]
    simp only [needing, needed, hall]
    split
    · simp [stamping_answers]
    · simp
  writes request files content spot hproduct hlocate hspot := by
    unfold needed at hproduct
    split at hproduct
    · rename_i hall
      obtain rfl := Option.some.inj hproduct
      simp only [needing, hall, if_true, stamping_of_takesFile hlocate hspot]
      exact ⟨FileSystem.node?_set_self hspot.ne_root _, .set_takesFile hspot⟩
    · cases hproduct

theorem rootName_out : FileSystem.RootName "out" := by decide

theorem probe_needing (hmain : files.node? ["main"] = some (.file (Text.Utf8.encode ownUnit))) :
    (needing defaults temporary).loader.probe files ⟨"/main"⟩ = none := by
  have hread : files.read ⟨"/main"⟩ = .ok (Text.Utf8.encode ownUnit) :=
    FileSystem.read_iff.mpr ⟨_, located_ownUnit hmain, hmain⟩
  have hstamp : Text.Utf8.encode ownUnit ≠ stamp := by decide
  simp [needing, stamping, Loader.probe, Loader.look, openStamped, hread, hstamp]

def withUnit (files : FileSystem) : FileSystem :=
  files.set ["main.norm"] (.file (Text.Utf8.encode ownUnit))

theorem node?_withUnit {place : Place} (hne : place ≠ ["main.norm"]) :
    (withUnit files).node? place = files.node? place :=
  FileSystem.node?_set_of_ne hne _

def asked (defaults : List String) (output : Path) : CompileRequest :=
  ⟨[⟨"/main.norm"⟩], defaults, output, true⟩

theorem answer_needing {given : FileSystem} {spot : Place}
    (hdefaults : ∀ name ∈ defaults, given.isFile (.ofText name) = true)
    (hlocate : given.locate .write output = .ok spot) (hspot : given.TakesFile spot)
    (temporary : Place) :
    (needing defaults temporary).compiler.compile (asked defaults output) given =
      (.ok [], given.set spot (.file stamp)) := by
  have hall : ((asked defaults output).references.all fun name => given.isFile (.ofText name)) = true :=
    List.all_eq_true.mpr hdefaults
  simp only [needing, hall, if_true]
  exact stamping_of_takesFile hlocate hspot

section Session

variable {spot : Place}
  (hmain : session.files.node? ["main"] = some (.file (Text.Utf8.encode ownUnit)))
  (hunit : session.files.TakesFile ["main.norm"])
include hmain hunit

theorem compile_needing (defaults : List String) (temporary : Place) (output : Path) :
    (needing defaults temporary).compile ⟨"/main"⟩ output session =
      (verdict ((needing defaults temporary).compiler.compile (asked defaults output)
          (withUnit session.files)).1,
        { session with
          files := ((needing defaults temporary).compiler.compile (asked defaults output)
            (withUnit session.files)).2.remove ⟨"/main.norm"⟩
          calls := session.calls ++ [.compile (asked defaults output) (withUnit session.files)] }) := by
  rw [compile_ownUnit hmain (probe_needing hmain)]
  exact build_of_write (rootName_unit.write hunit)

theorem compile_stamped
    (hdefaults : ∀ name ∈ defaults, (withUnit session.files).isFile ⟨name⟩ = true)
    (hlocate : (withUnit session.files).locate .write output = .ok spot)
    (hspot : (withUnit session.files).TakesFile spot) (temporary : Place) :
    (needing defaults temporary).compile ⟨"/main"⟩ output session =
      (.ok [],
        { session with
          files := ((withUnit session.files).set spot (.file stamp)).erase ["main.norm"]
          calls := session.calls ++ [.compile (asked defaults output) (withUnit session.files)] }) := by
  have hnode : ∃ content, ((withUnit session.files).set spot (.file stamp)).node? ["main.norm"] =
      some (.file content) := by
    by_cases heq : (["main.norm"] : Place) = spot
    · exact ⟨stamp, by rw [heq, FileSystem.node?_set_self (heq ▸ by simp)]⟩
    · exact ⟨_, by rw [FileSystem.node?_set_of_ne heq, withUnit, FileSystem.node?_set_self (by simp)]⟩
  obtain ⟨content, hnode⟩ := hnode
  have hremove := FileSystem.remove_of_entry (rootName_unit.entry _) hnode (by simp)
  rw [compile_needing hmain hunit, answer_needing hdefaults hlocate hspot]
  exact congrArg (Prod.mk (Except.ok [])) (by rw [← hremove]; rfl)

theorem compile_refused {name : String} (hname : name ∈ defaults)
    (hfile : (withUnit session.files).isFile (.ofText name) = false) :
    ((needing defaults temporary).compile ⟨"/main"⟩ output session).1 =
      .error (.tool (.launch "csc" .missing)) := by
  have hall : ((asked defaults output).references.all fun name =>
      (withUnit session.files).isFile (.ofText name)) = false :=
    List.all_eq_false.mpr ⟨name, hname, by simp [hfile]⟩
  rw [compile_needing hmain hunit]
  simp only [needing, hall]
  rfl

end Session

theorem start_stamped (hload : engine.loader.look module session.files = .ok stamped) :
    (engine.start script module args session).1 = .ok 0 := by
  simp only [start_eq, hload]
  rfl

theorem run_stamped
    (hmain : session.files.node? ["main"] = some (.file (Text.Utf8.encode ownUnit)))
    (hunit : session.files.TakesFile ["main.norm"])
    {lots : List Lot} (hlots : session.lots = FileSystem.firstLot :: lots)
    (hfree : session.files.node? ["scs-AAAAAA.dll"] = none)
    (hdefaults : ∀ name ∈ defaults,
      (withUnit (session.files.set ["scs-AAAAAA.dll"] (.file []))).isFile (.ofText name) = true) :
    ((needing defaults []).run ⟨"/main"⟩ args session).1 = .ok 0 := by
  have hcreate : session.temporary (needing defaults []).temporary =
      (.ok (⟨"/scs-AAAAAA.dll"⟩, session.files.set ["scs-AAAAAA.dll"] (.file [])), lots) := by
    rw [Session.temporary, hlots]
    exact createTemporary_root hfree lots
  have hmain' : (session.files.set ["scs-AAAAAA.dll"] (.file [])).node? ["main"] =
      some (.file (Text.Utf8.encode ownUnit)) :=
    (FileSystem.node?_set_of_ne (by decide) _).trans hmain
  have hunit' : (session.files.set ["scs-AAAAAA.dll"] (.file [])).TakesFile ["main.norm"] := by
    have hnode : (session.files.set ["scs-AAAAAA.dll"] (.file [])).node? ["main.norm"] =
        session.files.node? ["main.norm"] := FileSystem.node?_set_of_ne (by decide) _
    simpa only [FileSystem.TakesFile, hnode] using hunit
  have hempty : (session.files.set ["scs-AAAAAA.dll"] (.file [])).node? ["scs-AAAAAA.dll"] =
      some (.file []) := FileSystem.node?_set_self (by simp) _
  generalize session.files.set ["scs-AAAAAA.dll"] (.file []) = made at *
  have hspot : (withUnit made).TakesFile ["scs-AAAAAA.dll"] :=
    .inr ⟨[], (node?_withUnit (by decide)).trans hempty⟩
  have hcompile : (needing defaults []).compile ⟨"/main"⟩ ⟨"/scs-AAAAAA.dll"⟩
      { session with files := made, lots := lots } = _ :=
    compile_stamped hmain' hunit' hdefaults (rootName_temporary.locate_write hspot) hspot []
  rw [run_of_source (canonical_ownUnit hmain) (kind_ownUnit hmain (probe_needing hmain)) hcreate,
    hcompile]
  have hnode : (((withUnit made).set ["scs-AAAAAA.dll"] (.file stamp)).erase
      ["main.norm"]).node? ["scs-AAAAAA.dll"] = some (.file stamp) := by
    rw [FileSystem.node?_erase_of_ne (by decide), FileSystem.node?_set_self (by simp)]
  refine start_stamped (load_stamping.mpr ⟨?_, rfl⟩)
  exact FileSystem.read_iff.mpr
    ⟨_, FileSystem.resolve_path_of_spelled (rootName_temporary.spelled hnode), hnode⟩

/-! ## A run of a script is a run of its module -/

theorem unnoticed_alone :
    (needing [] []).Unnoticed alone.files (alone.files.set ["scs-AAAAAA.dll"] (.file []))
      ⟨"/main"⟩ ⟨"/scs-AAAAAA.dll"⟩ where
  includes file header line target hvisits hread hline hmeans := by
    have honly : file = ⟨"/main"⟩ → header = ["//#mode complex"] := by
      rintro rfl
      exact Except.ok.inj (hread.symm.trans (read_ownUnit rfl).2)
    have hfile : file = ⟨"/main"⟩ := by
      clear hread hline hmeans honly
      induction hvisits with
      | root => rfl
      | included visits read mem means ih =>
        subst ih
        obtain rfl := Except.ok.inj (read.symm.trans (read_ownUnit rfl).2)
        obtain rfl := List.mem_singleton.mp mem
        simp [Header.meaning_modeComplex] at means
    obtain rfl := List.mem_singleton.mp (honly hfile ▸ hline)
    simp [Header.meaning_modeComplex] at hmeans
  unit := by
    have hlocate : ∀ files : FileSystem, files.node? ["main.norm"] = none →
        files.locate .write (unitPath ⟨"/main"⟩) = .ok ["main.norm"] :=
      fun files hnone => rootName_unit.locate_write (.inl hnone)
    rw [hlocate alone.files rfl, hlocate _ rfl]
  references found hresolved name hname := by
    obtain rfl := Except.ok.inj ((resolve_ownUnit rfl _).symm.trans hresolved)
    simp [references, needing, Resolution.empty, Resolution.references] at hname

/-- A run of a script fails as its compilation does. If that yields a module, and this is at the
output afterwards, a run of the script comes to what a run of the output comes to, but for the file
that is blamed. And there it is if the output does not lead to the unit. -/
theorem run_eq_run_output (hloader : engine.loader.ByContent)
    (hcompiler : engine.compiler.Portable product)
    (hsource : ∀ full, Source.canonical session.files script = .ok full →
      engine.kind session.files full = .ok .source)
    (hcreate : (session.temporary engine.temporary).1 = .ok (module, made))
    (hunnoticed : ∀ full, Source.canonical session.files script = .ok full →
      engine.Unnoticed session.files made full module) (output : Path) (args : List String) :
    (∀ failure, (engine.compile script output session).1 = .error failure →
      (engine.run script args session).1 = .error failure) ∧
    ∀ after given bytes file, engine.Yields product script output session after given bytes →
      Source.canonical after.files output = .ok file →
      (∀ opened, after.files.read file = .ok bytes →
        engine.loader.look file after.files = .ok opened →
        (engine.run output args after).1 =
          (engine.run script args session).1.mapError (.rename file)) ∧
      (output.isAbsolute = true ∨ after.files.Spelled after.files.cwd →
        ∀ spot, given.locate .write output = .ok spot → given.TakesFile spot →
        (∀ full, Source.canonical session.files script = .ok full →
          given.resolve (unitPath full) ≠ .ok spot) →
        after.files.read file = .ok bytes) := by
  cases hlocated : Source.canonical session.files script with
  | error cause =>
    have hcompile : engine.compile script output session = (.error cause, session) := by
      simp [compile, hlocated]
    refine ⟨fun failure hfailed => ?_, fun after given bytes file hyields => ?_⟩
    · obtain rfl : cause = failure := by simpa [hcompile] using hfailed
      simp [run, hlocated]
    · obtain ⟨warnings, hends⟩ := hyields.ends
      simp [hcompile] at hends
  | ok full =>
    obtain ⟨⟨lot, -, hmodule⟩, spot, hentry, hfree, hmade⟩ :=
      FileSystem.entry_of_createTemporary hcreate
    obtain ⟨lots, hcreate⟩ : ∃ lots, session.temporary engine.temporary =
        (.ok (module, made), lots) := ⟨_, Prod.ext hcreate rfl⟩
    have hkind := hsource full hlocated
    have hunit : ∀ files : FileSystem, files.entry module = .ok spot →
        files.entry (unitPath full) ≠ .ok spot := by
      intro files hmodule'
      rw [hmodule] at hmodule'
      exact entry_unitPath_ne hmodule'
    obtain ⟨hresult, hread⟩ := compile_made hloader hcompiler hlocated
      (ScriptKind.isFile_of_kind hkind) ⟨hentry, hfree, hmade⟩ hunit (hunnoticed full hlocated) output lots
    rw [run_of_source hlocated hkind hcreate]
    cases hcompile : engine.compile full module { session with files := made, lots := lots } with
    | mk result compiled =>
      rw [hcompile] at hresult hread
      simp only at hresult hread
      constructor
      · intro failure hfailed
        rw [hfailed] at hresult
        simp only [hresult]
      · intro after given bytes file hyields hfull
        refine ⟨fun opened hbytes hload => ?_, fun hspelled spot hlocate hspot hother =>
          read_of_yields hcompiler hlocated hyields hspelled hlocate hspot (hother full rfl) hfull⟩
        obtain ⟨warnings, hends⟩ := hyields.ends
        rw [hends] at hresult
        simp only at hresult
        subst hresult
        -- What the run has loaded is what is at the output, so it does the same.
        obtain ⟨other, hother, halike⟩ :=
          hloader _ _ _ _ _ _ hbytes (hread after given bytes hyields) hload
        have hfile : after.files.isFile file = true := FileSystem.isFile_iff_read.mpr ⟨_, hbytes⟩
        rw [run_of_module hfull hfile hload]
        exact start_rename hother hload halike.symm

theorem run_eq_run_output_alone :
    (needing [] []).loader.ByContent ∧ (needing [] []).compiler.Portable needed ∧
    ∃ after, (needing [] []).compile ⟨"/main"⟩ ⟨"/out"⟩ alone = (.ok [], after) ∧
      ((needing [] []).run ⟨"/out"⟩ [] after).1 =
        ((needing [] []).run ⟨"/main"⟩ [] alone).1.mapError (.rename ⟨"/out"⟩) := by
  have hsource : ∀ full, Source.canonical alone.files ⟨"/main"⟩ = .ok full →
      (needing [] []).kind alone.files full = .ok .source := by
    intro full hfull
    obtain rfl := Except.ok.inj ((canonical_ownUnit rfl).symm.trans hfull)
    exact kind_ownUnit rfl (probe_needing rfl)
  have hunnoticed : ∀ full, Source.canonical alone.files ⟨"/main"⟩ = .ok full →
      (needing [] []).Unnoticed alone.files (alone.files.set ["scs-AAAAAA.dll"] (.file [])) full
        ⟨"/scs-AAAAAA.dll"⟩ := by
    intro full hfull
    obtain rfl := Except.ok.inj ((canonical_ownUnit rfl).symm.trans hfull)
    exact unnoticed_alone
  have hspot : (withUnit alone.files).TakesFile ["out"] := .inl rfl
  have hlocate := rootName_out.locate_write hspot
  have hcompile : (needing [] []).compile ⟨"/main"⟩ ⟨"/out"⟩ alone = _ :=
    compile_stamped rfl (.inl rfl) (by simp) hlocate hspot []
  have hyields : (needing [] []).Yields needed ⟨"/main"⟩ ⟨"/out"⟩ alone _ (withUnit alone.files)
      stamp := ⟨⟨[], hcompile⟩, asked [] ⟨"/out"⟩, rfl, rfl⟩
  have hnode : (((withUnit alone.files).set ["out"] (.file stamp)).erase ["main.norm"]).node?
      ["out"] = some (.file stamp) := rfl
  have hspelled := rootName_out.spelled hnode
  have hcanonical := Source.canonical_of_locate (FileSystem.resolve_path_of_spelled hspelled) hnode
    (FileSystem.locate_path_of_spelled hspelled)
  have hother : ∀ full, Source.canonical alone.files ⟨"/main"⟩ = .ok full →
      (withUnit alone.files).resolve (unitPath full) ≠ .ok ["out"] := by
    intro full hfull
    obtain rfl := Except.ok.inj ((canonical_ownUnit rfl).symm.trans hfull)
    have hunit : (withUnit alone.files).resolve (unitPath ⟨"/main"⟩) = .ok ["main.norm"] :=
      FileSystem.resolve_path_of_spelled (rootName_unit.spelled rfl)
    simp [hunit]
  obtain ⟨-, hagree⟩ := run_eq_run_output byContent_needing portable_needing hsource
    (congrArg Prod.fst (createTemporary_root rfl [])) hunnoticed ⟨"/out"⟩ []
  obtain ⟨hruns, hthere⟩ := hagree _ _ _ ⟨"/out"⟩ hyields hcanonical
  have hread := hthere (.inl rfl) ["out"] hlocate hspot hother
  exact ⟨byContent_needing, portable_needing, _, hcompile,
    hruns stamped hread (load_stamping.mpr ⟨hread, rfl⟩)⟩

/-- The script, and a link to its unit. -/
def linked : Session where
  files := ⟨[(["main"], .file (Text.Utf8.encode ownUnit)), (["out"], .link ⟨"/main.norm"⟩)], []⟩
  names := .counting 0
  lots := [FileSystem.firstLot]

theorem temporary_gone : alone.temporary ["gone"] = (.error .missing, []) := by
  let path : Path := ⟨"/gone/scs-AAAAAA.dll"⟩
  have hpath : Place.path ((["gone"] : Place) ++
      [FileSystem.temporaryName "scs-" ".dll" FileSystem.firstLot]) = path := by decide
  have hwalk : alone.files.walk .use FileSystem.linkLimit [] [[], "gone"] = .error .missing := by
    cbv
  have hentry : alone.files.entry path = .error .missing := by
    have hlast : path.parts.getLast? = some (Text.Utf8.encode "scs-AAAAAA.dll") := by decide
    have hfront : path.parts.dropLast = [[], "gone"] := by decide
    have hzero : ¬path.octets.contains 0 = true := by decide
    have hshort : ¬FileSystem.pathLimit ≤ path.octets.length := by decide
    have hname : ¬(Text.Utf8.encode "scs-AAAAAA.dll" = [] ∨
        Text.Utf8.encode "scs-AAAAAA.dll" = [Path.dot] ∨
        Text.Utf8.encode "scs-AAAAAA.dll" = [Path.dot, Path.dot]) := by decide
    have habsolute : path.isAbsolute = true := by decide
    simp only [FileSystem.entry, hlast, if_neg hzero, if_neg hshort, if_neg hname, hfront,
      if_pos habsolute, hwalk]
  change alone.files.createTemporary ["gone"] "scs-" ".dll" [FileSystem.firstLot] = _
  simp only [FileSystem.createTemporary, hpath, hentry]

/-- What the compiler writes through a link to the unit is removed with the unit. And a run does not
come to what the compilation does if there is no place for its temporary module, or if that is what
the compiler has missed. -/
theorem run_ne_run_output :
    (∀ defaults temporary, (needing defaults temporary).loader.ByContent ∧
      (needing defaults temporary).compiler.Portable needed ∧
      (needing defaults temporary).kind linked.files ⟨"/main"⟩ = .ok .source ∧
      (needing defaults temporary).kind alone.files ⟨"/main"⟩ = .ok .source) ∧
    (⟨"/out"⟩ : Path) ≠ unitPath ⟨"/main"⟩ ∧
    (∃ after, (needing [] []).compile ⟨"/main"⟩ ⟨"/out"⟩ linked = (.ok [], after) ∧
      (needing [] []).loader.look ⟨"/out"⟩ ((needing [] []).compiler.compile (asked [] ⟨"/out"⟩)
        (withUnit linked.files)).2 = .ok stamped ∧
      ((needing [] []).run ⟨"/main"⟩ [] linked).1 = .ok 0 ∧
      ((needing [] []).run ⟨"/out"⟩ [] after).1 = .error (.notFound ⟨"/out"⟩)) ∧
    (((needing ["gone"] ["gone"]).compile ⟨"/main"⟩ ⟨"/out"⟩ alone).1 =
        .error (.tool (.launch "csc" .missing)) ∧
      ((needing ["gone"] ["gone"]).run ⟨"/main"⟩ [] alone).1 =
        .error (.io ⟨"/gone"⟩ .missing)) ∧
    ((needing ["/scs-AAAAAA.dll"] []).compile ⟨"/main"⟩ ⟨"/out"⟩ alone).1 =
        .error (.tool (.launch "csc" .missing)) ∧
      ((needing ["/scs-AAAAAA.dll"] []).run ⟨"/main"⟩ [] alone).1 = .ok 0 := by
  have hnoFile : ∀ {files : FileSystem} {path cause}, files.resolve path = .error cause →
      files.isFile path = false := by
    intro files path cause hresolve
    simp [FileSystem.isFile, FileSystem.find?, hresolve]
  refine ⟨fun _ _ => ⟨byContent_needing, portable_needing, kind_ownUnit rfl (probe_needing rfl),
    kind_ownUnit rfl (probe_needing rfl)⟩, by decide, ?_, ⟨?_, ?_⟩, ?_, ?_⟩
  · have hspot : (withUnit linked.files).TakesFile ["main.norm"] := .inr ⟨_, rfl⟩
    have hlocate := rootName_out.locate_write_of_link rootName_unit rfl hspot
    have hanswer : (needing [] []).compiler.compile (asked [] ⟨"/out"⟩) (withUnit linked.files) = _ :=
      answer_needing (by simp) hlocate hspot []
    refine ⟨_, compile_stamped rfl (.inl rfl) (by simp) hlocate hspot [], ?_,
      run_stamped rfl (.inl rfl) rfl rfl (by simp), ?_⟩
    · rw [hanswer]
      exact load_stamping.mpr ⟨FileSystem.read_iff.mpr ⟨["main.norm"],
        FileSystem.resolve_set_self hspot (by simp) hlocate, rfl⟩, rfl⟩
    · have hwalk : (((withUnit linked.files).set ["main.norm"] (.file stamp)).erase
          ["main.norm"]).walk .use 40 [] [[], "out"] = .error .missing := by cbv
      have hresolve : (((withUnit linked.files).set ["main.norm"] (.file stamp)).erase
          ["main.norm"]).resolve ⟨"/out"⟩ = .error .missing := hwalk
      have hnamed : (Text.Utf8.encode "/out") ≠ [] := by decide
      simp [run, Source.canonical, Source.checkFile, hnoFile hresolve, hnamed]
  · have hwalk : (withUnit alone.files).walk .use 40 [] ["gone"] = .error .missing := by cbv
    have hresolve : (withUnit alone.files).resolve ⟨"gone"⟩ = .error .missing := hwalk
    exact compile_refused rfl (.inl rfl) (by simp) (hnoFile hresolve)
  · have hkind : (needing ["gone"] ["gone"]).kind alone.files ⟨"/main"⟩ = .ok .source :=
      kind_ownUnit rfl (probe_needing rfl)
    have hlocated : Source.canonical alone.files ⟨"/main"⟩ = .ok ⟨"/main"⟩ := canonical_ownUnit rfl
    rw [run_of_no_temporary _ hlocated hkind temporary_gone]
    rfl
  · have hwalk : (withUnit alone.files).walk .use 40 [] [[], "scs-AAAAAA.dll"] =
        .error .missing := by cbv
    have hresolve : (withUnit alone.files).resolve ⟨"/scs-AAAAAA.dll"⟩ = .error .missing := hwalk
    exact compile_refused rfl (.inl rfl) (by simp) (hnoFile hresolve)
  · refine run_stamped rfl (.inl rfl) rfl rfl fun name hname => ?_
    obtain rfl := List.mem_singleton.mp hname
    exact FileSystem.isFile_iff.mpr
      ⟨_, [], FileSystem.resolve_path_of_spelled (rootName_temporary.spelled rfl), rfl⟩

end Engine

end ScriptBuild
