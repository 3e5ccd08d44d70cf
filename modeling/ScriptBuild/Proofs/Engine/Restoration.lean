import ScriptBuild.Proofs.Engine.CompilationUnit

/-!
# What is left of an operation

A compilation makes the script's unit and a run a temporary module, and each removes what it has
made, however it ends. Where nothing stood at the unit's path, nothing is left of a compilation but
what its compiler has written, and nothing at all is left of a run.

The compiler may fail and report what it likes, but changes no file but the output. Modules change
no files.

That nothing stood at the unit's path is the condition that cannot be dropped, since the unit is
written over what stands there. The same is not asked of the temporary module: it gets a name that
is free, and one that no unit has, since the endings differ.

Trees are compared by what is at each place, not by the lists that hold it (`Same`), and `SameBut`
leaves out what a given path leads to. Making a file, changing it and removing it are each a change
at one place; the changes of a compilation and of a run compose to none, or to one at the output,
and neither removal depends on how the compiler or the method ended.

**Results.**
* `sameBut_build`, `sameBut_compile`: what is left of a compilation.
* `same_start`, `same_runSource`, `same_run`: nothing is left of a run.
* `restores`: both, for all ways an operation can end.
-/
namespace ScriptBuild

open FileSystem (Same SameBut Vacant)

/-- The compiler changes no file but the one it is asked for. -/
def Compiler.Tidy (compiler : Compiler) : Prop :=
  ∀ request files, SameBut files (compiler.compile request files).2 request.output

/-- No module that opens changes a file when it is started. -/
def Loader.Harmless (loader : Loader) : Prop :=
  ∀ module before opened, loader.look module before = .ok opened →
    ∀ typeName method args files, Same files (opened.invoke typeName method args files).files

namespace Engine

variable {engine : Engine} {script full output module : Path} {args : List String}
  {session : Session} {files after : FileSystem} {found : Resolution} {unit : String}

/-! ## Compiling -/

theorem changedAt_of_unit (hvacant : files.Vacant (unitPath full))
    (hwrite : files.write (unitPath full) (Text.Utf8.encode unit) = .ok after) :
    ∃ spot, files.entry (unitPath full) = .ok spot ∧ files.node? spot = none ∧
      FileSystem.ChangedAt files after spot := by
  obtain ⟨front, last, hparts⟩ := Path.parts_append plain_unitEnding.1 full
  refine FileSystem.changedAt_of_vacant hwrite hvacant hparts (.of_length ?_)
  rw [List.length_append]
  exact Nat.lt_add_left _ (by decide)

theorem sameBut_build (htidy : engine.compiler.Tidy)
    (hvacant : session.files.Vacant (unitPath full)) :
    SameBut session.files (engine.build full found unit output session).2.files output := by
  cases hwrite : session.files.write (unitPath full) (Text.Utf8.encode unit) with
  | error cause =>
    rw [build_of_write_error hwrite]
    simp only [FileSystem.remove_of_vacant hvacant]
    exact .inl (.refl _)
  | ok written =>
    rw [build_of_write hwrite]
    obtain ⟨spot, hentry, hfree, hmade⟩ := changedAt_of_unit hvacant hwrite
    rcases htidy (engine.request full found output) written with
      hsame | ⟨other, hlocate, hother, hchanged⟩
    · exact .inl (FileSystem.same_remove hentry hfree (hmade.trans hsame.changedAt))
    · by_cases hne : other = spot
      · -- The compiler has written over the unit, and that is removed.
        subst hne
        exact .inl (FileSystem.same_remove hentry hfree (hmade.trans hchanged))
      · refine .inr ⟨other, hmade.locate (by decide) hlocate hne, ?_,
          FileSystem.changedAt_remove_of_ne hentry hfree hmade hchanged hother hne⟩
        simpa only [FileSystem.TakesFile, hmade.elsewhere other hne] using hother

theorem sameBut_compile (htidy : engine.compiler.Tidy)
    (hvacant : ∀ full, Source.canonical session.files script = .ok full →
      session.files.Vacant (unitPath full)) :
    SameBut session.files (engine.compile script output session).2.files output := by
  rcases compile_cases engine script output session with
    ⟨failure, after, hcompile, hfiles, -⟩ |
    ⟨full, found, unit, after, hlocated, -, hnormalized, hcompile⟩
  · rw [hcompile]
    simp only [hfiles]
    exact .inl (.refl _)
  · have hfiles := (files_of_normalize engine full session).1
    rw [hnormalized] at hfiles
    simp only at hfiles
    rw [hcompile, ← hfiles]
    exact sameBut_build htidy (hfiles ▸ hvacant full hlocated)

theorem same_of_calls (hvacant : ∀ full, Source.canonical session.files script = .ok full →
      session.files.Vacant (unitPath full))
    (hcalls : (engine.compile script output session).2.calls = session.calls) :
    Same session.files (engine.compile script output session).2.files := by
  rcases compile_cases engine script output session with
    ⟨failure, after, hcompile, hfiles, -⟩ |
    ⟨full, found, unit, after, hlocated, -, hnormalized, hcompile⟩
  · rw [hcompile]
    simp only [hfiles]
    exact .refl _
  · obtain ⟨hfiles, hnoCalls⟩ := files_of_normalize engine full session
    rw [hnormalized] at hfiles hnoCalls
    simp only at hfiles hnoCalls
    rw [hcompile] at hcalls ⊢
    cases hwrite : after.files.write (unitPath full) (Text.Utf8.encode unit) with
    | error cause =>
      rw [build_of_write_error hwrite]
      simp only [hfiles, FileSystem.remove_of_vacant (hvacant full hlocated)]
      exact .refl _
    | ok written =>
      rw [build_of_write hwrite] at hcalls
      simp [hnoCalls] at hcalls

/-! ## Running -/

theorem same_start (hharmless : engine.loader.Harmless) :
    Same session.files (engine.start script module args session).2.files := by
  rw [start_eq]
  split
  · exact .refl _
  · rename_i opened hload
    split
    · exact .refl _
    · split
      · exact .refl _
      · exact hharmless module session.files opened hload _ _ _ _

/-- A temporary module has a name that no unit has. -/
theorem entry_unitPath_ne {place : Place} {lot : Lot}
    (hmodule : files.entry (Place.path (engine.temporary ++
      [FileSystem.temporaryName "scs-" ".dll" lot])) = .ok place) :
    files.entry (unitPath full) ≠ .ok place := by
  intro hunit
  obtain ⟨here, name, hplace⟩ := FileSystem.name_of_entry hunit (by decide)
  rw [FileSystem.temporaryName, Place.path_append] at hmodule
  obtain ⟨here', name', hplace'⟩ := FileSystem.name_of_entry hmodule (by decide)
  rw [hplace] at hplace'
  let norm : Text.Utf8.Bytes := ".norm"
  let dll : Text.Utf8.Bytes := ".dll"
  obtain ⟨-, hname⟩ : here = here' ∧ name ++ norm = name' ++ dll := by simpa using hplace'
  have hlast : norm.getLast? = dll.getLast? := by
    have hwhole := congrArg List.getLast? hname
    rwa [List.getLast?_append_of_ne_nil _ (by decide),
      List.getLast?_append_of_ne_nil _ (by decide)] at hwhole
  exact absurd hlast (by decide)

/-- The canonical path of a script stays that when a file is made where nothing stood. -/
theorem canonical_of_made {spot : Place} (hcanonical : files.canonical full = .ok full)
    (hfile : files.isFile full = true) (hfree : files.node? spot = none)
    (hmade : FileSystem.ChangedAt files after spot) : after.canonical full = .ok full := by
  obtain ⟨place, content, hresolve, hnode⟩ := FileSystem.isFile_iff.mp hfile
  unfold FileSystem.canonical at hcanonical ⊢
  cases hlocate : files.locate .spell full with
  | error cause => simp [hlocate, Except.map] at hcanonical
  | ok spelled =>
    obtain rfl : spelled.path = full := by simpa [hlocate, Except.map] using hcanonical
    have hplace := FileSystem.resolve_path_of_spelled (FileSystem.spelled_of_locate hlocate)
    obtain rfl : spelled = place := Except.ok.inj (hplace.symm.trans hresolve)
    have hne : spelled ≠ spot := by
      rintro rfl
      simp [hfree] at hnode
    rw [(hmade.symm (.inl hfree)).locate_spell hlocate hne]
    rfl

/-- A compilation to a file that was made where nothing stood changes that file only. -/
theorem changedAt_compile {made : Session} {spot : Place} (htidy : engine.compiler.Tidy)
    (hcanonical : files.canonical full = .ok full) (hfile : files.isFile full = true)
    (hvacant : files.Vacant (unitPath full)) (hentry : files.entry module = .ok spot)
    (hfree : files.node? spot = none) (hunit : files.entry (unitPath full) ≠ .ok spot)
    (hmade : FileSystem.ChangedAt files made.files spot) :
    FileSystem.ChangedAt files (engine.compile full module made).2.files spot := by
  have hbut : SameBut made.files (engine.compile full module made).2.files module := by
    refine sameBut_compile htidy fun other hother => ?_
    obtain rfl : full = other := Except.ok.inj
      ((canonical_of_made hcanonical hfile hfree hmade).symm.trans (Source.canonical_of_ok hother))
    exact hvacant.of_changedAt hmade (.inl hfree) hunit
  have hentry' : made.files.entry module = .ok spot :=
    (hmade.symm (.inl hfree)).entry (by simp [hfree]) hentry
  exact hmade.trans (hbut.changedAt hentry' (hmade.takesFile (.inl hfree)))

theorem same_runSource (htidy : engine.compiler.Tidy) (hharmless : engine.loader.Harmless)
    (hcanonical : session.files.canonical full = .ok full)
    (hfile : session.files.isFile full = true) (hvacant : session.files.Vacant (unitPath full)) :
    Same session.files (engine.runSource full args session).2.files := by
  unfold runSource
  split
  · exact .refl _
  · rename_i module made lots hcreate
    obtain ⟨⟨lot, -, rfl⟩, spot, hentry, hfree, rfl⟩ :=
      FileSystem.entry_of_createTemporary (congrArg Prod.fst hcreate)
    have hspot : spot ≠ [] := FileSystem.TakesFile.ne_root (.inl hfree)
    let made : Session :=
      { session with files := session.files.set spot (.file []), lots := lots }
    have hmade : FileSystem.ChangedAt session.files made.files spot :=
      FileSystem.changedAt_set hspot
    have hcompile := changedAt_compile htidy hcanonical hfile hvacant hentry hfree
      (entry_unitPath_ne hentry) hmade
    refine FileSystem.same_remove hentry hfree ?_
    split
    · rename_i failure after hended
      rwa [hended] at hcompile
    · rename_i warnings after hended
      rw [hended] at hcompile
      exact hcompile.trans (same_start hharmless).changedAt

theorem same_run (htidy : engine.compiler.Tidy) (hharmless : engine.loader.Harmless)
    (hvacant : ∀ full, Source.canonical session.files script = .ok full →
      session.files.Vacant (unitPath full)) :
    Same session.files (engine.run script args session).2.files := by
  unfold run
  split
  · exact .refl _
  · rename_i full hfull
    have hcanonical := FileSystem.canonical_of_canonical (Source.canonical_of_ok hfull)
    split
    · exact .refl _
    · rename_i hkind
      exact same_runSource htidy hharmless hcanonical (ScriptKind.isFile_of_kind hkind)
        (hvacant full hfull)
    · exact same_start hharmless

/-! ## A compiler that writes and a module that runs -/

def stamp : Text.Utf8.Bytes := [77, 90]

def stamped : LoadedModule where
  hasType _ := true
  exportedTypes := .ok [⟨"Program", true, [⟨"Main", true, true, [], .void⟩]⟩]
  invoke _ _ _ files := ⟨.ok (.returned none), files, {}⟩

def openStamped (path : Path) (files : FileSystem) : Except ToolError LoadedModule :=
  match files.read path with
  | .ok content => if content = stamp then .ok stamped else .error (.load path "no module")
  | .error _ => .error (.load path "no module")

/-- The compiler writes a module where a file can be, and just that opens. -/
def stamping : Engine where
  settings := {}
  compiler := ⟨fun request files =>
    match files.locate .write request.output with
    | .error _ => (.ok [], files)
    | .ok spot =>
      match files.node? spot with
      | none | some (.file _) => (.ok [], files.set spot (.file stamp))
      | _ => (.ok [], files)⟩
  loader := ⟨fun path files => (openStamped path files, files), fun _ _ => rfl⟩
  temporary := []

def alone : Session where
  files := ⟨[(["main"], .file (Text.Utf8.encode ownUnit))], []⟩
  names := .counting 0
  lots := [FileSystem.firstLot]

theorem stamping_of_takesFile {request : CompileRequest} {spot : Place}
    (hlocate : files.locate .write request.output = .ok spot) (hspot : files.TakesFile spot) :
    stamping.compiler.compile request files = (.ok [], files.set spot (.file stamp)) := by
  rcases hspot with hnone | ⟨old, hold⟩
  · simp [stamping, hlocate, hnone]
  · simp [stamping, hlocate, hold]

theorem tidy_stamping : stamping.compiler.Tidy := by
  intro request files
  have hwritten : ∀ spot, files.locate .write request.output = .ok spot → files.TakesFile spot →
      SameBut files (stamping.compiler.compile request files).2 request.output := by
    intro spot hlocate hspot
    rw [stamping_of_takesFile hlocate hspot]
    exact .inr ⟨spot, hlocate, hspot, FileSystem.changedAt_set hspot.ne_root⟩
  cases hlocate : files.locate .write request.output with
  | error cause =>
    simp only [stamping, hlocate]
    exact .inl (.refl _)
  | ok spot =>
    cases hnode : files.node? spot with
    | none => exact hwritten spot hlocate (.inl hnode)
    | some node =>
      cases node with
      | file old => exact hwritten spot hlocate (.inr ⟨old, hnode⟩)
      | directory =>
        simp only [stamping, hlocate, hnode]
        exact .inl (.refl _)
      | link target =>
        simp only [stamping, hlocate, hnode]
        exact .inl (.refl _)

theorem harmless_stamping : stamping.loader.Harmless := by
  intro module before opened hload typeName method args files
  simp only [stamping, Loader.look, openStamped] at hload
  split at hload
  · split at hload
    · obtain rfl := Except.ok.inj hload
      exact .refl _
    · cases hload
  · cases hload

theorem vacant_alone : ∀ full, Source.canonical alone.files ⟨"/main"⟩ = .ok full →
    alone.files.Vacant (unitPath full) := by
  intro full hfull place hentry
  obtain rfl : ⟨"/main"⟩ = full := Except.ok.inj ((canonical_ownUnit rfl).symm.trans hfull)
  obtain rfl : (["main.norm"] : Place) = place :=
    Except.ok.inj ((rootName_unit.entry alone.files).symm.trans hentry)
  rfl

/-- However a compilation of a script ends, only the output can differ afterwards, and nothing does
if the compiler has not been called. However a run of it ends, nothing differs, and the temporary
module is gone. -/
theorem restores (htidy : engine.compiler.Tidy) (hharmless : engine.loader.Harmless)
    (hvacant : ∀ full, Source.canonical session.files script = .ok full →
      session.files.Vacant (unitPath full)) (output : Path) (args : List String) :
    (SameBut session.files (engine.compile script output session).2.files output ∧
      ((engine.compile script output session).2.calls = session.calls →
        Same session.files (engine.compile script output session).2.files)) ∧
    Same session.files (engine.run script args session).2.files ∧
    ∀ module made, (session.temporary engine.temporary).1 = .ok (module, made) →
      (engine.run script args session).2.files.Vacant module := by
  have hrun : Same session.files (engine.run script args session).2.files :=
    same_run htidy hharmless hvacant
  refine ⟨⟨sameBut_compile htidy hvacant, same_of_calls hvacant⟩, hrun, ?_⟩
  intro module made hcreate
  obtain ⟨-, spot, hentry, hfree, -⟩ := FileSystem.entry_of_createTemporary hcreate
  refine FileSystem.Vacant.of_same (fun place hplace => ?_) hrun
  obtain rfl : spot = place := Except.ok.inj (hentry.symm.trans hplace)
  exact hfree

theorem restores_alone :
    stamping.compiler.Tidy ∧ stamping.loader.Harmless ∧
    SameBut alone.files (stamping.compile ⟨"/main"⟩ ⟨"/out"⟩ alone).2.files ⟨"/out"⟩ ∧
    Same alone.files (stamping.run ⟨"/main"⟩ [] alone).2.files := by
  obtain ⟨⟨hcompile, -⟩, hrun, -⟩ :=
    restores tidy_stamping harmless_stamping vacant_alone ⟨"/out"⟩ []
  exact ⟨tidy_stamping, harmless_stamping, hcompile, hrun⟩

end Engine

end ScriptBuild
