import ScriptBuild.Proofs.Engine.Restoration
import ScriptBuild.Proofs.FileSystem.Addition
import ScriptBuild.Proofs.Resolution.Lockstep

/-!
# Compilations to different outputs

A compiler is portable if its answer and the module it makes do not depend on the output. Then a
compilation to a temporary module ends as a compilation to any output does, and the same module is
written, although the temporary module is made beforehand and is there, empty, in the meantime. It
must not be noticed, though: nothing that the compilation looks up leads to it.

Portability is asked of the compiler in two respects (`Compiler.Portable`). Moving the output
changes neither its answer nor its product, not even when the output is there as an empty file,
provided that what the request names reads the same. And what it makes is what it writes, to the
file that the output leads to. Of the loader it is asked that it goes by content. A compiler and
loader that look at names or times satisfy neither.

The two compilations are followed in parallel: resolution by lockstep, the unit by `Given`, the
answer by portability, and then the removal. The temporary module may itself be where the unit goes,
by a link; then it is written over in both trees, and the trees are the same from there on.

**Results.**
* `inStep_of_unnoticed`: a file that no include leads to has no part in a resolution.
* `answer_of_given`: nor has it in what the compiler answers.
* `compile_made`: a compilation to the temporary module ends as one to any output does, and the same
  module is written.
* `read_of_yields`: that module is at the output, too, unless that leads to the unit, which is
  removed.
-/
namespace ScriptBuild

open FileSystem (Same ReadsAlike ChangedAt)

/-- The same tree, and an empty file at a path where nothing stood. -/
def FileSystem.Adds (files : FileSystem) (path : Path) (after : FileSystem) : Prop :=
  ∃ spot, files.entry path = .ok spot ∧ files.node? spot = none ∧
    after.node? spot = some (.file []) ∧ ChangedAt files after spot

/-- What the compiler answers, and which module it makes, does not depend on the output: not in the
same tree, and not in one that has the output as an empty file more, as long as what is given to the
compiler reads the same. -/
structure Compiler.Portable (compiler : Compiler)
    (product : CompileRequest → FileSystem → Option Text.Utf8.Bytes) : Prop where
  moved : ∀ request files output after, Same files after ∨ files.Adds output after →
    (∀ source ∈ request.sources, ReadsAlike files after source) →
    (∀ name ∈ request.references, ReadsAlike files after (.ofText name)) →
    (compiler.compile { request with output := output } after).1 =
        (compiler.compile request files).1 ∧
      product { request with output := output } after = product request files
  /-- The module it makes is what it writes. It takes nothing away. -/
  writes : ∀ request files content spot, product request files = some content →
    files.locate .write request.output = .ok spot → files.TakesFile spot →
    (compiler.compile request files).2.node? spot = some (.file content) ∧
      files.Keeps (compiler.compile request files).2

structure LoadedModule.Alike (opened other : LoadedModule) : Prop where
  hasType : other.hasType = opened.hasType
  exportedTypes : other.exportedTypes = opened.exportedTypes
  outcome : ∀ typeName method args files files',
    (other.invoke typeName method args files').outcome =
      (opened.invoke typeName method args files).outcome

theorem LoadedModule.Alike.symm {opened other : LoadedModule} (h : opened.Alike other) :
    other.Alike opened where
  hasType := h.hasType.symm
  exportedTypes := h.exportedTypes.symm
  outcome typeName method args files files' := (h.outcome typeName method args files' files).symm

/-- What loading gives depends on nothing but the content that is loaded. -/
def Loader.ByContent (loader : Loader) : Prop :=
  ∀ content path files path' files' opened, files.read path = .ok content →
    files'.read path' = .ok content → loader.look path files = .ok opened →
    ∃ other, loader.look path' files' = .ok other ∧ opened.Alike other

theorem kind_of_readsAlike {loader : Loader} {marker : String} {files after : FileSystem}
    {path : Path} (hloader : loader.ByContent) (h : ReadsAlike files after path) :
    ScriptKind.of loader.probe marker after path = ScriptKind.of loader.probe marker files path := by
  simp only [ScriptKind.of, h.checkFile]
  cases hcheck : Source.checkFile files path with
  | error failure => rfl
  | ok checked =>
    obtain ⟨content, hread⟩ := FileSystem.isFile_iff_read.mp (Source.checkFile_iff.mp hcheck)
    have hread' := (h content).mp hread
    have hprobe : loader.probe after path = loader.probe files path := by
      unfold Loader.probe
      cases hload : loader.look path files with
      | ok opened =>
        obtain ⟨other, hother, halike⟩ := hloader _ _ _ _ _ _ hread hread' hload
        simp [hother, halike.hasType]
      | error error =>
        cases hload' : loader.look path after with
        | error error' => rfl
        | ok other =>
          obtain ⟨opened, hopened, -⟩ := hloader _ _ _ _ _ _ hread' hread hload'
          simp [hopened] at hload
    rw [hprobe]

namespace Engine

variable {engine : Engine} {files made : FileSystem} {script full output module : Path}
  {args : List String} {session : Session} {spot : Place}

/-- Nothing that compiling a script looks up leads to a file that has been made. -/
structure Unnoticed (engine : Engine) (files made : FileSystem) (full module : Path) : Prop where
  includes : ∀ file header line target, engine.resolver.Visits files full file →
    Source.header files file = .ok header → line ∈ header →
    Header.meaning made file.directory engine.resolver.reference line =
      .ok (.found (.includes target)) → made.resolve target ≠ made.resolve module
  /-- The unit is written where it was to be written. -/
  unit : made.locate .write (unitPath full) = files.locate .write (unitPath full)
  references : ∀ found, engine.resolve files full = .ok found →
    ∀ name ∈ references engine.settings found, made.resolve (.ofText name) ≠ made.resolve module

/-- A temporary module has been made. -/
structure Making (files : FileSystem) (module : Path) (spot : Place) (made : FileSystem) :
    Prop where
  entry : files.entry module = .ok spot
  free : files.node? spot = none
  set : made = files.set spot (.file [])

theorem making_of_temporary (h : (session.temporary engine.temporary).1 = .ok (module, made)) :
    ∃ spot, Making session.files module spot made := by
  obtain ⟨-, spot, hentry, hfree, hset⟩ := FileSystem.entry_of_createTemporary h
  exact ⟨spot, hentry, hfree, hset⟩

namespace Making

theorem ne_root (h : Making files module spot made) : spot ≠ [] := by
  rintro rfl
  simpa using h.free

theorem changedAt (h : Making files module spot made) : ChangedAt files made spot :=
  h.set ▸ FileSystem.changedAt_set h.ne_root

theorem node? (h : Making files module spot made) : made.node? spot = some (.file []) :=
  h.set ▸ FileSystem.node?_set_self h.ne_root _

theorem resolve (h : Making files module spot made) : made.resolve module = .ok spot :=
  FileSystem.resolve_of_entry
    ((h.changedAt.symm (.inl h.free)).entry (by simp [h.free]) h.entry) h.node?

theorem readsAlike {path : Path} (h : Making files module spot made)
    (hother : made.resolve path ≠ made.resolve module) : ReadsAlike files made path :=
  FileSystem.readsAlike_of_made h.free h.changedAt (h.resolve ▸ hother)

theorem resolve_ne {path : Path} (h : Making files module spot made)
    (hfile : files.isFile path = true) : made.resolve path ≠ made.resolve module := by
  obtain ⟨place, content, hresolve, hnode⟩ := FileSystem.isFile_iff.mp hfile
  have hne : place ≠ spot := by
    rintro rfl
    simp [h.free] at hnode
  rw [h.resolve, (h.changedAt.symm (.inl h.free)).resolve hresolve hne]
  simpa using hne

end Making

/-! ## Resolving -/

/-- A file that no include leads to has no part in a resolution. -/
theorem inStep_of_unnoticed (hloader : engine.loader.ByContent)
    (hmaking : Making files module spot made) (h : Unnoticed engine files made full module) :
    engine.resolver.InStep files made fun file =>
      engine.resolver.Visits files full file ∧ made.resolve file ≠ made.resolve module := by
  have hmeaning : ∀ file header, engine.resolver.Visits files full file →
      Source.header files file = .ok header → ∀ line ∈ header,
      Header.meaning made file.directory engine.resolver.reference line =
        Header.meaning files file.directory engine.resolver.reference line := by
    intro file header hvisits read line hline
    refine Header.meaning_congr fun path hpath =>
      FileSystem.fullPath_of_made hmaking.free hmaking.changedAt fun hlocate => ?_
    -- Spelled out as the new file, the path would lead to it.
    have hfull : made.fullPath path = spot.path := by
      simp [FileSystem.fullPath, FileSystem.canonical, hlocate, Except.map]
    refine h.includes file header line spot.path hvisits read hline
      (hfull ▸ Header.meaning_of_includePath? hpath made) ?_
    rw [hmaking.resolve]
    exact FileSystem.resolve_path_of_spelled (FileSystem.spelled_of_locate hlocate)
  refine ⟨fun file hfile => (hmaking.readsAlike hfile.2).header,
    fun file header hfile read => hmeaning file header hfile.1 read,
    fun file hfile => kind_of_readsAlike hloader (hmaking.readsAlike hfile.2), ?_⟩
  intro file header hfile read line hline target hmeans
  exact ⟨.included hfile.1 read hline hmeans, h.includes file header line target hfile.1 read hline
    ((hmeaning file header hfile.1 read line hline).trans hmeans)⟩

theorem canonical_made (hcanonical : files.canonical full = .ok full)
    (hfile : files.isFile full = true) (hmaking : Making files module spot made) :
    Source.canonical files full = .ok full ∧ Source.canonical made full = .ok full := by
  have hmade := canonical_of_made hcanonical hfile hmaking.free hmaking.changedAt
  have hcheck := Source.checkFile_iff.mpr hfile
  have hcheck' := (hmaking.readsAlike (hmaking.resolve_ne hfile)).checkFile.trans hcheck
  exact ⟨by simp [Source.canonical, hcheck, hcanonical],
    by simp [Source.canonical, hcheck', hmade]⟩

theorem resolve_made (hloader : engine.loader.ByContent)
    (hcanonical : files.canonical full = .ok full) (hfile : files.isFile full = true)
    (hmaking : Making files module spot made) (h : Unnoticed engine files made full module) :
    engine.resolve made full = engine.resolve files full := by
  obtain ⟨hfull, hfull'⟩ := canonical_made hcanonical hfile hmaking
  refine (inStep_of_unnoticed hloader hmaking h).resolve (hfull'.trans hfull.symm) fun root hroot => ?_
  obtain rfl : full = root := Except.ok.inj (hfull.symm.trans hroot)
  exact ⟨.root, hmaking.resolve_ne hfile⟩

theorem normalize_made (hloader : engine.loader.ByContent)
    (hfile : session.files.isFile full = true) (hmaking : Making session.files module spot made)
    (lots : List Lot) :
    engine.normalize full { session with files := made, lots := lots } =
      ((engine.normalize full session).1,
        { (engine.normalize full session).2 with files := made, lots := lots }) := by
  have halike := hmaking.readsAlike (hmaking.resolve_ne hfile)
  have hmode : engine.mode made full = engine.mode session.files full := by
    simp only [mode, Mode.of, Mode.declared, kind_of_readsAlike hloader halike, halike.header]
  simp only [normalize, hmode, halike.sourceRead]
  split
  · rfl
  · split
    · rfl
    · split <;> rfl

/-! ## Calling the compiler -/

/-- The unit has been written at the same place of both trees. -/
structure Given (files made : FileSystem) (full module : Path) (spot target : Place)
    (content : Text.Utf8.Bytes) : Prop where
  making : Making files module spot made
  ne_root : target ≠ []
  takesFile : files.TakesFile target
  written : files.write (unitPath full) content = .ok (files.set target (.file content))
  written' : made.write (unitPath full) content = .ok (made.set target (.file content))
  resolve : (made.set target (.file content)).resolve (unitPath full) = .ok target

/-- A unit is written in both trees at the same place, or in neither for the same reason. -/
theorem given_of_write (content : Text.Utf8.Bytes) (hmaking : Making files module spot made)
    (hplace : made.locate .write (unitPath full) = files.locate .write (unitPath full))
    (habsolute : (unitPath full).isAbsolute = true) :
    (∃ cause, files.write (unitPath full) content = .error cause ∧
      made.write (unitPath full) content = .error cause) ∨
    ∃ target, Given files made full module spot target content := by
  cases hwrite : files.write (unitPath full) content with
  | error cause =>
    refine .inl ⟨cause, rfl, ?_⟩
    rw [← hwrite]
    unfold FileSystem.write at hwrite ⊢
    rw [hplace]
    cases hlocate : files.locate .write (unitPath full) with
    | error cause' => rfl
    | ok target =>
      have hdir : files.node? target = some .directory := by
        rw [hlocate] at hwrite
        simp only at hwrite
        split at hwrite
        · assumption
        · cases hwrite
      have hne : target ≠ spot := by
        rintro rfl
        simp [hmaking.free] at hdir
      simp only [hmaking.changedAt.elsewhere target hne, hdir]
  | ok given =>
    obtain ⟨target, hlocate, hne, htakes, rfl⟩ := FileSystem.write_eq hwrite habsolute
    have htakes' : made.node? target ≠ some .directory := by
      by_cases heq : target = spot
      · rw [heq, hmaking.node?]
        simp
      · rw [hmaking.changedAt.elsewhere target heq]
        exact htakes.ne_directory
    have hwrite' : made.write (unitPath full) content = .ok (made.set target (.file content)) := by
      simp only [FileSystem.write, hplace, hlocate]
    obtain ⟨target', hlocate', hresolve, -, -⟩ :=
      FileSystem.exists_spot_of_write hwrite' habsolute
    obtain rfl : target' = target :=
      Except.ok.inj (hlocate'.symm.trans (hplace.trans hlocate))
    exact .inr ⟨target', hmaking, hne, htakes, hwrite, hwrite', hresolve⟩

namespace Given

variable {target : Place} {content : Text.Utf8.Bytes}

theorem takesFile_made (h : Given files made full module spot target content) :
    made.TakesFile target := by
  by_cases heq : target = spot
  · exact .inr ⟨[], heq ▸ h.making.node?⟩
  · simpa only [FileSystem.TakesFile, h.making.changedAt.elsewhere target heq] using h.takesFile

/-- The unit may be written over the temporary module, by a link that leads there. -/
theorem same_of_eq (h : Given files made full module spot target content) (heq : target = spot) :
    Same (files.set target (.file content)) (made.set target (.file content)) where
  cwd := h.making.changedAt.cwd
  tree place := by
    by_cases hplace : place = target
    · rw [hplace, FileSystem.node?_set_self h.ne_root, FileSystem.node?_set_self h.ne_root]
    · rw [FileSystem.node?_set_of_ne hplace, FileSystem.node?_set_of_ne hplace,
        h.making.changedAt.elsewhere place (heq ▸ hplace)]

/-- Else the temporary module is an empty file more. -/
theorem making_of_ne (h : Given files made full module spot target content) (hne : target ≠ spot) :
    (files.set target (.file content)).entry module = .ok spot ∧
      (files.set target (.file content)).node? spot = none ∧
      (made.set target (.file content)).node? spot = some (.file []) ∧
      ChangedAt (files.set target (.file content)) (made.set target (.file content)) spot := by
  have hchanged : ChangedAt files (files.set target (.file content)) target :=
    FileSystem.changedAt_set h.ne_root
  have hnode : (made.set target (.file content)).node? spot = some (.file []) := by
    rw [FileSystem.node?_set_of_ne hne.symm, h.making.node?]
  refine ⟨(hchanged.symm h.takesFile).entry h.takesFile.ne_directory h.making.entry, ?_, hnode,
    h.making.changedAt.cwd, fun place hplace => ?_, .inr (.inr ⟨[], hnode⟩)⟩
  · rw [FileSystem.node?_set_of_ne hne.symm, h.making.free]
  · by_cases heq : place = target
    · rw [heq, FileSystem.node?_set_self h.ne_root, FileSystem.node?_set_self h.ne_root]
    · rw [FileSystem.node?_set_of_ne heq, FileSystem.node?_set_of_ne heq,
        h.making.changedAt.elsewhere place hplace]

theorem same_or_adds (h : Given files made full module spot target content) :
    Same (files.set target (.file content)) (made.set target (.file content)) ∨
      (files.set target (.file content)).Adds module (made.set target (.file content)) := by
  by_cases heq : target = spot
  · exact .inl (h.same_of_eq heq)
  · exact .inr ⟨spot, h.making_of_ne heq⟩

theorem readsAlike {path : Path} (h : Given files made full module spot target content)
    (hpath : path = unitPath full ∨ made.resolve path ≠ made.resolve module) :
    ReadsAlike (files.set target (.file content)) (made.set target (.file content)) path := by
  by_cases heq : target = spot
  · exact .of_same (h.same_of_eq heq)
  · obtain ⟨-, hfree, -, hchanged⟩ := h.making_of_ne heq
    refine FileSystem.readsAlike_of_made hfree hchanged fun hresolve => ?_
    rcases hpath with rfl | hother
    · exact heq (Except.ok.inj (h.resolve.symm.trans hresolve))
    · have hmade : ChangedAt made (made.set target (.file content)) target :=
        FileSystem.changedAt_set h.ne_root
      exact hother ((hmade.resolve hresolve (Ne.symm heq)).trans h.making.resolve.symm)

theorem entry_module (h : Given files made full module spot target content) :
    (made.set target (.file content)).entry module = .ok spot ∧
      ∃ old, (made.set target (.file content)).node? spot = some (.file old) := by
  have hmade : ChangedAt made (made.set target (.file content)) target :=
    FileSystem.changedAt_set h.ne_root
  have hentry : made.entry module = .ok spot :=
    (h.making.changedAt.symm (.inl h.making.free)).entry (by simp [h.making.free]) h.making.entry
  refine ⟨(hmade.symm h.takesFile_made).entry h.takesFile_made.ne_directory hentry, ?_⟩
  by_cases heq : spot = target
  · exact ⟨content, by rw [heq, FileSystem.node?_set_self h.ne_root]⟩
  · exact ⟨[], by rw [FileSystem.node?_set_of_ne heq, h.making.node?]⟩

end Given

variable {product : CompileRequest → FileSystem → Option Text.Utf8.Bytes} {found : Resolution}
  {target : Place} {content bytes : Text.Utf8.Bytes}

theorem answer_of_given (hcompiler : engine.compiler.Portable product)
    (hresolved : engine.resolve files full = .ok found)
    (hunnoticed : Unnoticed engine files made full module)
    (h : Given files made full module spot target content) (output : Path) :
    (engine.compiler.compile (engine.request full found module)
        (made.set target (.file content))).1 =
      (engine.compiler.compile (engine.request full found output)
        (files.set target (.file content))).1 ∧
    product (engine.request full found module) (made.set target (.file content)) =
      product (engine.request full found output) (files.set target (.file content)) := by
  refine hcompiler.moved (engine.request full found output) _ module _ h.same_or_adds ?_ ?_
  · intro source hsource
    refine h.readsAlike ?_
    rcases List.mem_cons.mp hsource with rfl | hsource
    · exact .inl rfl
    · have hmem : source ∈ found.sources := (List.mem_filter.mp hsource).1
      exact .inr (h.making.resolve_ne (complex_of_resolve hresolved source hmem).1)
  · intro name hname
    exact h.readsAlike (.inr (hunnoticed.references found hresolved name hname))

/-- When the compiler has made a module, this is at the output, and the unit's path leads to a file
still: the unit, or the module that was written over it. -/
theorem resolve_of_writes {request : CompileRequest} {given : FileSystem}
    (hcompiler : engine.compiler.Portable product) (hproduct : product request given = some bytes)
    (hlocate : given.locate .write request.output = .ok spot) (hspot : given.TakesFile spot)
    (hunit : given.resolve (unitPath full) = .ok target)
    (hcontent : given.node? target = some (.file content)) :
    (engine.compiler.compile request given).2.node? spot = some (.file bytes) ∧
      (engine.compiler.compile request given).2.resolve request.output = .ok spot ∧
      (engine.compiler.compile request given).2.resolve (unitPath full) = .ok target ∧
      ∃ left, (engine.compiler.compile request given).2.node? target = some (.file left) := by
  obtain ⟨hmodule, hkeeps⟩ := hcompiler.writes request given bytes spot hproduct hlocate hspot
  have houtput : (given.set spot (.file bytes)).resolve request.output = .ok spot :=
    FileSystem.resolve_set_self hspot hspot.ne_root hlocate
  exact ⟨hmodule, (hkeeps.set hmodule).resolve houtput, hkeeps.resolve hunit, hkeeps.file hcontent⟩

/-- The module that the compiler makes is there when the unit has been removed, if the output does
not lead to the unit. -/
theorem read_of_writes {request : CompileRequest} {given : FileSystem}
    (hcompiler : engine.compiler.Portable product) (hproduct : product request given = some bytes)
    (hlocate : given.locate .write request.output = .ok spot) (hspot : given.TakesFile spot)
    (hunit : given.resolve (unitPath full) = .ok target)
    (hcontent : given.node? target = some (.file content)) (hne : spot ≠ target) :
    ((engine.compiler.compile request given).2.remove (unitPath full)).resolve request.output =
        .ok spot ∧
      ((engine.compiler.compile request given).2.remove (unitPath full)).node? spot =
        some (.file bytes) := by
  obtain ⟨hmodule, houtput, hresolve, left, hleft⟩ :=
    resolve_of_writes hcompiler hproduct hlocate hspot hunit hcontent
  exact ⟨FileSystem.resolve_remove hresolve hleft houtput hne,
    FileSystem.node?_remove hmodule fun hsame =>
      hne (Except.ok.inj (hsame.symm.trans hresolve))⟩

theorem read_module_of_given {request : CompileRequest} (hcompiler : engine.compiler.Portable product)
    (hunit : ∀ files : FileSystem, files.entry module = .ok spot →
      files.entry (unitPath full) ≠ .ok spot)
    (h : Given files made full module spot target content) (houtput : request.output = module)
    (hproduct : product request (made.set target (.file content)) = some bytes) :
    ((engine.compiler.compile request (made.set target (.file content))).2.remove
      (unitPath full)).read module = .ok bytes := by
  obtain ⟨hentry, old, hold⟩ := h.entry_module
  have hlocate := FileSystem.locate_write_of_file hentry hold
  have hkeeps := (hcompiler.writes request _ bytes spot hproduct (houtput ▸ hlocate)
    (.inr ⟨old, hold⟩)).2
  obtain ⟨hnode, -, hresolve, left, hleft⟩ :=
    resolve_of_writes hcompiler hproduct (houtput ▸ hlocate) (.inr ⟨old, hold⟩) h.resolve
      (FileSystem.node?_set_self h.ne_root _)
  have hentry' := hkeeps.entry hentry
  have hkept := (FileSystem.node?_remove_of_entry_ne (hunit _ hentry')).trans hnode
  exact FileSystem.read_iff.mpr ⟨spot, FileSystem.resolve_of_entry
    (FileSystem.entry_remove hresolve hleft hentry') hkept, hkept⟩

/-- The unit is built for the temporary module as it is for any output, and if the compiler makes a
module, the same is written. -/
theorem build_made (hcompiler : engine.compiler.Portable product)
    (hcanonical : session.files.canonical full = .ok full)
    (hresolved : engine.resolve session.files full = .ok found)
    (hmaking : Making session.files module spot made)
    (hunit : ∀ files : FileSystem, files.entry module = .ok spot →
      files.entry (unitPath full) ≠ .ok spot)
    (hunnoticed : Unnoticed engine session.files made full module) (unit : String) (output : Path)
    (lots : List Lot) :
    (engine.build full found unit module { session with files := made, lots := lots }).1 =
      (engine.build full found unit output session).1 ∧
    ∀ request given bytes, (engine.build full found unit output session).2.calls =
        session.calls ++ [.compile request given] → product request given = some bytes →
      (engine.build full found unit module { session with files := made, lots := lots }).2.files.read module =
        .ok bytes := by
  rcases given_of_write (Text.Utf8.encode unit) hmaking hunnoticed.unit
      (isAbsolute_unitPath hcanonical) with ⟨cause, hwrite, hwrite'⟩ | ⟨target, hgiven⟩
  · have hbuild : engine.build full found unit output session = _ := build_of_write_error hwrite
    have hbuild' : engine.build full found unit module { session with files := made, lots := lots } = _ :=
      build_of_write_error hwrite'
    refine ⟨by rw [hbuild, hbuild'], fun request given bytes hcalls => ?_⟩
    simp [hbuild] at hcalls
  · have hbuild : engine.build full found unit output session = _ := build_of_write hgiven.written
    have hbuild' : engine.build full found unit module { session with files := made, lots := lots } = _ :=
      build_of_write hgiven.written'
    obtain ⟨hanswer, hproduct⟩ := answer_of_given hcompiler hresolved hunnoticed hgiven output
    refine ⟨by rw [hbuild, hbuild', hanswer], fun request given bytes hcalls hmakes => ?_⟩
    rw [hbuild] at hcalls
    obtain ⟨rfl, rfl⟩ : engine.request full found output = request ∧ _ = given := by
      simpa using hcalls
    rw [hbuild']
    exact read_module_of_given hcompiler hunit hgiven rfl (hproduct.trans hmakes)

/-- A compilation ends well, and its compiler makes a module of what it is given. -/
structure Yields (engine : Engine) (product : CompileRequest → FileSystem → Option Text.Utf8.Bytes)
    (script output : Path) (session after : Session) (given : FileSystem)
    (bytes : Text.Utf8.Bytes) : Prop where
  ends : ∃ warnings, engine.compile script output session = (.ok warnings, after)
  calls : ∃ request, after.calls = session.calls ++ [.compile request given] ∧
    product request given = some bytes

/-- A compilation to the temporary module ends as one to any output does, and if that yields a
module, the same is written. -/
theorem compile_made (hloader : engine.loader.ByContent) (hcompiler : engine.compiler.Portable product)
    (hlocated : Source.canonical session.files script = .ok full)
    (hfile : session.files.isFile full = true)
    (hmaking : Making session.files module spot made)
    (hunit : ∀ files : FileSystem, files.entry module = .ok spot →
      files.entry (unitPath full) ≠ .ok spot)
    (hunnoticed : Unnoticed engine session.files made full module) (output : Path)
    (lots : List Lot) :
    (engine.compile full module { session with files := made, lots := lots }).1 =
      (engine.compile script output session).1 ∧
    ∀ after given bytes, Yields engine product script output session after given bytes →
      (engine.compile full module { session with files := made, lots := lots }).2.files.read module =
        .ok bytes := by
  have hcanonical := FileSystem.canonical_of_canonical (Source.canonical_of_ok hlocated)
  have hlocated' := (canonical_made hcanonical hfile hmaking).2
  have hresolve := resolve_made hloader hcanonical hfile hmaking hunnoticed
  have hnormalize := normalize_made hloader hfile hmaking lots
  have hfailed : ∀ {failure after}, engine.compile script output session = (.error failure, after) →
      ∀ after' given bytes, ¬Yields engine product script output session after' given bytes := by
    intro failure after hcompile after' given bytes hyields
    obtain ⟨warnings, hends⟩ := hyields.ends
    simp [hcompile] at hends
  cases hresolved : engine.resolve session.files full with
  | error failure =>
    have hcompile : engine.compile script output session = (.error failure, session) := by
      simp [compile, hlocated, hresolved]
    rw [hresolved] at hresolve
    refine ⟨?_, fun _ _ _ hyields => absurd hyields (hfailed hcompile _ _ _)⟩
    rw [hcompile]
    simp [compile, hlocated', hresolve]
  | ok found =>
    rw [hresolved] at hresolve
    obtain ⟨hfiles, hcalls⟩ := files_of_normalize engine full session
    cases hnormalized : engine.normalize full session with
    | mk result after =>
      rw [hnormalized] at hnormalize hfiles hcalls
      simp only at hnormalize hfiles hcalls
      cases result with
      | error failure =>
        have hcompile : engine.compile script output session = (.error failure, after) := by
          simp [compile, hlocated, hresolved, hnormalized]
        refine ⟨?_, fun _ _ _ hyields => absurd hyields (hfailed hcompile _ _ _)⟩
        rw [hcompile]
        simp [compile, hlocated', hresolve, hnormalize]
      | ok unit =>
        have hcompile : engine.compile script output session =
            engine.build full found unit output after :=
          compile_of_normalize hlocated hresolved hnormalized
        have hcompile' : engine.compile full module { session with files := made, lots := lots } =
            engine.build full found unit module { after with files := made, lots := lots } :=
          compile_of_normalize hlocated' hresolve hnormalize
        rw [← hfiles] at hcanonical hresolved hmaking hunnoticed
        obtain ⟨hresult, hread⟩ :=
          build_made hcompiler hcanonical hresolved hmaking hunit hunnoticed unit output lots
        rw [hcompile, hcompile']
        refine ⟨hresult, fun ended given bytes hyields => ?_⟩
        obtain ⟨warnings, hends⟩ := hyields.ends
        obtain ⟨request, hcall, hmakes⟩ := hyields.calls
        rw [hcompile] at hends
        exact hread request given bytes (by rw [hends, hcall, hcalls]) hmakes

/-- The module that a compilation yields is at the output afterwards, unless that leads to the
unit. -/
theorem read_of_yields {after : Session} {given : FileSystem} {file : Path}
    (hcompiler : engine.compiler.Portable product)
    (hlocated : Source.canonical session.files script = .ok full)
    (hyields : Yields engine product script output session after given bytes)
    (hspelled : output.isAbsolute = true ∨ after.files.Spelled after.files.cwd)
    (hlocate : given.locate .write output = .ok spot) (hspot : given.TakesFile spot)
    (hother : given.resolve (unitPath full) ≠ .ok spot)
    (hfull : Source.canonical after.files output = .ok file) :
    after.files.read file = .ok bytes := by
  obtain ⟨warnings, hends⟩ := hyields.ends
  obtain ⟨request, hcall, hmakes⟩ := hyields.calls
  obtain ⟨full', found, unit, given', hlocated', hwrite, hcalls, hfiles⟩ := compile_built hends
  obtain rfl : full = full' := Except.ok.inj (hlocated.symm.trans hlocated')
  obtain ⟨rfl, rfl⟩ : engine.request full found output = request ∧ given' = given := by
    simpa using hcalls.symm.trans hcall
  have hcanonical := FileSystem.canonical_of_canonical (Source.canonical_of_ok hlocated)
  obtain ⟨target, -, hunit, hcontent, -⟩ :=
    FileSystem.exists_spot_of_write hwrite (isAbsolute_unitPath hcanonical)
  have hne : spot ≠ target := by
    rintro rfl
    exact hother hunit
  obtain ⟨hresolve, hnode⟩ :=
    read_of_writes hcompiler hmakes hlocate hspot hunit hcontent hne
  rw [← hfiles] at hresolve hnode
  -- The canonical path of the output leads where the output does.
  have hspell := Source.canonical_of_ok hfull
  unfold FileSystem.canonical at hspell
  cases hplace : after.files.locate .spell output with
  | error cause => simp [hplace, Except.map] at hspell
  | ok place =>
    obtain rfl : place.path = file := by simpa [hplace, Except.map] using hspell
    obtain rfl : place = spot := FileSystem.resolve_of_locate_spell hspelled hplace hresolve
    exact FileSystem.read_iff.mpr
      ⟨place, FileSystem.resolve_path_of_spelled (FileSystem.spelled_of_locate hplace), hnode⟩

end Engine

end ScriptBuild
