import ScriptBuild.Proofs.Engine.Compilation
import ScriptBuild.Proofs.FileSystem.Root
import ScriptBuild.Proofs.Resolution.Agreement
import ScriptBuild.Proofs.Script.Reading
import ScriptBuild.Proofs.Text.Encoding

/-!
# What a compilation leaves as it is

A compilation writes the script's unit beside the script and removes it again; whatever else changes
is the compiler's doing. With a compiler that changes nothing but the file it is asked for, every
other file stays as it is, however the compilation ends. What stood where the unit is written does
not: it is written over and then removed.

The condition on the compiler (`Compiler.Confined`) is on every call of it, and speaks of the place
that the output leads to, links followed. What it does there is free: it may write a file or remove
it.

The compilation changes three places at most, one after the other: where the unit's path leads,
where the output leads, and the entry of the unit's path. A file that is none of the first two is
not the third either, because what is removed is what the path denotes. So one frame lemma for each
change is enough, and no case is made of how the compilation ends.

The engine of the examples compiles nothing and opens nothing, and a script of the mode `complex` is
its own unit; other modules use both.

**Results.**
* `node?_build`: building a unit leaves every file that is neither the output nor the unit.
* `node?_compile`: so does compiling a script.
-/
namespace ScriptBuild

/-- The compiler changes nothing but the file it is asked for. -/
def Compiler.Confined (compiler : Compiler) : Prop :=
  ∀ request files,
    ((compiler.compile request files).2.cwd = files.cwd ∧
      ∀ place, (compiler.compile request files).2.node? place = files.node? place) ∨
    ∃ spot, files.locate .write request.output = .ok spot ∧
      FileSystem.ChangedAt files (compiler.compile request files).2 spot

namespace Engine

variable {engine : Engine} {script output : Path} {session : Session} {files : FileSystem}
  {place : Place} {content : Text.Utf8.Bytes} {found : Resolution} {unit : String}

/-- A confined compiler changes at most one place, and that is no file but the output. -/
theorem changedAt_of_confined {compiler : Compiler} {request : CompileRequest}
    (hconfined : compiler.Confined) (hfile : files.node? place = some (.file content))
    (hother : files.resolve request.output ≠ .ok place) :
    ∃ spot, place ≠ spot ∧ FileSystem.ChangedAt files (compiler.compile request files).2 spot := by
  rcases hconfined request files with ⟨hcwd, hsame⟩ | ⟨spot, hlocate, hchanged⟩
  · exact ⟨[], FileSystem.TakesFile.ne_root (.inr ⟨_, hfile⟩), .of_same hcwd hsame⟩
  · refine ⟨spot, ?_, hchanged⟩
    rintro rfl
    exact hother (FileSystem.resolve_of_locate_write hlocate (by simp [hfile]))

/-- Building a unit leaves every file that is neither the output nor the unit. -/
theorem node?_build (hconfined : engine.compiler.Confined)
    (hfile : session.files.node? place = some (.file content))
    (houtput : session.files.resolve output ≠ .ok place)
    (hunit : session.files.resolve (unitPath script) ≠ .ok place) :
    (engine.build script found unit output session).2.files.node? place = some (.file content) := by
  cases hwrite : session.files.write (unitPath script) (Text.Utf8.encode unit) with
  | error cause =>
    rw [build_of_write_error hwrite]
    exact FileSystem.node?_remove hfile hunit
  | ok written =>
    rw [build_of_write hwrite]
    obtain ⟨spot, hlocate, hchanged⟩ := FileSystem.changedAt_of_write hwrite
    have hne : place ≠ spot := by
      rintro rfl
      exact hunit (FileSystem.resolve_of_locate_write hlocate (by simp [hfile]))
    have hfile' : written.node? place = some (.file content) := by
      rw [hchanged.elsewhere place hne, hfile]
    have houtput' : written.resolve (engine.request script found output).output ≠ .ok place :=
      fun hresolve => houtput (hchanged.resolve hresolve hne)
    have hunit' : written.resolve (unitPath script) ≠ .ok place :=
      fun hresolve => hunit (hchanged.resolve hresolve hne)
    obtain ⟨spot', hne', hchanged'⟩ := changedAt_of_confined hconfined hfile' houtput'
    refine FileSystem.node?_remove ?_ fun hresolve => hunit' (hchanged'.resolve hresolve hne')
    rw [hchanged'.elsewhere place hne', hfile']

/-! ## A script that is its own unit -/

/-- A compiler that does nothing, and no module opens. -/
def idle : Engine where
  settings := {}
  compiler := ⟨fun _ files => (.ok [], files)⟩
  loader := ⟨fun path files => (.error (.load path "no module"), files), fun _ _ => rfl⟩
  temporary := []

def ownUnit : String := "//#mode complex\n"

theorem declaredFrom_modeComplex (file : Path) (number : Nat) (rest : List String) :
    Mode.declaredFrom file number ("//#mode complex" :: rest) = .ok .complex := by
  have hsplit : Header.splitCommand "//#mode complex" =
      some (Directive.modeCommand, "complex") := by cbv
  have hname : Mode.ofName? (Text.firstWord "complex") = some .complex := by cbv
  simp [Mode.declaredFrom, hsplit, hname]

theorem rootName_main : FileSystem.RootName "main" := by decide

theorem rootName_unit : FileSystem.RootName "main.norm" := by decide

theorem rootName_temporary : FileSystem.RootName "scs-AAAAAA.dll" := by decide

theorem createTemporary_root (hfree : files.node? ["scs-AAAAAA.dll"] = none) (lots : List Lot) :
    files.createTemporary [] "scs-" ".dll" (FileSystem.firstLot :: lots) =
      (.ok (⟨"/scs-AAAAAA.dll"⟩, files.set ["scs-AAAAAA.dll"] (.file [])), lots) := by
  have hname : FileSystem.temporaryName "scs-" ".dll" FileSystem.firstLot = "scs-AAAAAA.dll" := by
    decide
  have hcreate :=
    FileSystem.RootName.createTemporary (hname ▸ rootName_temporary) (hname ▸ hfree) lots
  rwa [hname] at hcreate

section Complete

-- A file with that text, under any name in the root.

variable {name : Text.Utf8.Bytes} (hname : FileSystem.RootName name)
  (hscript : files.node? [name] = some (.file (Text.Utf8.encode ownUnit)))
include hname hscript

theorem located_complete : files.resolve (Place.path [name]) = .ok [name] :=
  FileSystem.resolve_path_of_spelled (hname.spelled hscript)

theorem canonical_complete :
    Source.canonical files (Place.path [name]) = .ok (Place.path [name]) :=
  Source.canonical_of_locate (located_complete hname hscript) hscript
    (FileSystem.locate_path_of_spelled (hname.spelled hscript))

theorem read_complete :
    Source.read files (Place.path [name]) = .ok ownUnit ∧
    Source.header files (Place.path [name]) = .ok ["//#mode complex"] := by
  rw [Source.read_of_resolve (located_complete hname hscript) hscript,
    Source.header_of_resolve (located_complete hname hscript) hscript]
  exact ⟨by cbv, by cbv⟩

theorem resolve_complete (engine : Engine) :
    engine.resolve files (Place.path [name]) = .ok .empty := by
  have hnext : (HeaderScan.start (Place.path [name]) ["//#mode complex"]
      engine.resolver.reference).next files =
        (none, ⟨Place.path [name], engine.resolver.reference, [], 1⟩) := by
    rw [HeaderScan.next_of_skip rfl (Header.meaning_modeComplex _ _ _)]
    exact HeaderScan.next_of_nil rfl
  exact Resolver.resolve_of_completes (canonical_complete hname hscript)
    (read_complete hname hscript).2 (.finished hnext)

theorem kind_complete (hprobe : engine.loader.probe files (Place.path [name]) = none) :
    engine.kind files (Place.path [name]) = .ok .source :=
  ScriptKind.source_of_probe
    (FileSystem.isFile_iff.mpr ⟨_, _, located_complete hname hscript, hscript⟩) hprobe

theorem declared_complete : Mode.declared files (Place.path [name]) = .ok .complex :=
  Mode.declared_of_header (read_complete hname hscript).2 (declaredFrom_modeComplex _ _ _)

end Complete

theorem compile_complete {name : Text.Utf8.Bytes} (hname : FileSystem.RootName name)
    (hscript : session.files.node? [name] = some (.file (Text.Utf8.encode ownUnit)))
    (hprobe : engine.loader.probe session.files (Place.path [name]) = none) (output : Path) :
    engine.compile (Place.path [name]) output session =
      engine.build (Place.path [name]) .empty ownUnit output session :=
  compile_of_normalize (canonical_complete hname hscript) (resolve_complete hname hscript engine)
    (normalize_of_source (kind_complete hname hscript hprobe) (declared_complete hname hscript)
      (read_complete hname hscript).1)

section OwnUnit

theorem path_main : Place.path ["main"] = ⟨"/main"⟩ := rfl

variable (hmain : files.node? ["main"] = some (.file (Text.Utf8.encode ownUnit)))
include hmain

theorem located_ownUnit : files.resolve ⟨"/main"⟩ = .ok ["main"] :=
  path_main ▸ located_complete rootName_main hmain

theorem canonical_ownUnit : Source.canonical files ⟨"/main"⟩ = .ok ⟨"/main"⟩ :=
  path_main ▸ canonical_complete rootName_main hmain

theorem read_ownUnit :
    Source.read files ⟨"/main"⟩ = .ok ownUnit ∧
    Source.header files ⟨"/main"⟩ = .ok ["//#mode complex"] :=
  path_main ▸ read_complete rootName_main hmain

theorem resolve_ownUnit (engine : Engine) : engine.resolve files ⟨"/main"⟩ = .ok .empty :=
  path_main ▸ resolve_complete rootName_main hmain engine

theorem kind_ownUnit (hprobe : engine.loader.probe files ⟨"/main"⟩ = none) :
    engine.kind files ⟨"/main"⟩ = .ok .source :=
  path_main ▸ kind_complete rootName_main hmain (path_main ▸ hprobe)

end OwnUnit

theorem compile_ownUnit
    (hmain : session.files.node? ["main"] = some (.file (Text.Utf8.encode ownUnit)))
    (hprobe : engine.loader.probe session.files ⟨"/main"⟩ = none) (output : Path) :
    engine.compile ⟨"/main"⟩ output session =
      engine.build ⟨"/main"⟩ .empty ownUnit output session :=
  path_main ▸ compile_complete rootName_main hmain (path_main ▸ hprobe) output

/-! ## Something where the unit is written -/

/-- A script, something where its unit is written, and an empty file elsewhere. -/
def unitTaken (node : Node) : FileSystem where
  nodes := [
    (["main"], .file (Text.Utf8.encode ownUnit)), (["main.norm"], node), (["other"], .file [])]
  cwd := []

def before (node : Node) : Session := { files := unitTaken node, names := .counting 0, lots := [] }

variable {node : Node}

theorem idle_confined : idle.compiler.Confined := fun _ _ => .inl ⟨rfl, fun _ => rfl⟩

theorem compile_unitTaken :
    idle.compile ⟨"/main"⟩ ⟨"/out"⟩ (before node) =
      idle.build ⟨"/main"⟩ .empty ownUnit ⟨"/out"⟩ (before node) :=
  compile_ownUnit rfl rfl _

theorem files_unitTaken {spot : Place}
    (hwalk : (unitTaken node).walk .write 40 [] [[], "main.norm"] = .ok spot)
    (hnode : (unitTaken node).node? spot ≠ some .directory) :
    (idle.compile ⟨"/main"⟩ ⟨"/out"⟩ (before node)).2.files =
      ((unitTaken node).set spot (.file (Text.Utf8.encode ownUnit))).remove ⟨"/main.norm"⟩ := by
  have hlocate : (unitTaken node).locate .write ⟨"/main.norm"⟩ = .ok spot := hwalk
  have hwrite : (before node).files.write (unitPath ⟨"/main"⟩) (Text.Utf8.encode ownUnit) =
      .ok ((unitTaken node).set spot (.file (Text.Utf8.encode ownUnit))) := by
    change (unitTaken node).write ⟨"/main.norm"⟩ (Text.Utf8.encode ownUnit) = _
    simp only [FileSystem.write, hlocate]
  rw [compile_unitTaken, build_of_write hwrite]
  rfl

theorem entry_unitTaken {spot : Place} {content : Text.Utf8.Bytes} :
    ((unitTaken node).set spot (.file content)).entry ⟨"/main.norm"⟩ = .ok ["main.norm"] :=
  rootName_unit.entry _

theorem resolve_out_unitTaken : (unitTaken node).resolve ⟨"/out"⟩ = .error .missing := by
  have hwalk : (unitTaken node).walk .use 40 [] [[], "out"] = .error .missing := by cbv
  exact hwalk

/-- With a confined compiler a compilation leaves every file that is neither the output nor the
unit, however it ends. -/
theorem node?_compile (hconfined : engine.compiler.Confined)
    (hfile : session.files.node? place = some (.file content))
    (houtput : session.files.resolve output ≠ .ok place)
    (hunit : ∀ full, Source.canonical session.files script = .ok full →
      session.files.resolve (unitPath full) ≠ .ok place) :
    (engine.compile script output session).2.files.node? place = some (.file content) := by
  rcases compile_cases engine script output session with
    ⟨failure, after, hcompile, hfiles, -⟩ |
    ⟨full, found, unit, after, hlocated, -, hnormalized, hcompile⟩
  · rw [hcompile]
    simpa only [hfiles] using hfile
  · have hfiles : after.files = session.files := by
      have := (files_of_normalize engine full session).1
      rwa [hnormalized] at this
    rw [hcompile]
    refine node?_build hconfined ?_ ?_ ?_
    · rwa [hfiles]
    · rwa [hfiles]
    · rw [hfiles]
      exact hunit full hlocated

theorem node?_compile_unitTaken :
    idle.compiler.Confined ∧
    (before (.link ⟨"/other"⟩)).files.node? ["main"] =
      some (.file (Text.Utf8.encode ownUnit)) ∧
    (idle.compile ⟨"/main"⟩ ⟨"/out"⟩ (before (.link ⟨"/other"⟩))).2.files.node? ["main"] =
      some (.file (Text.Utf8.encode ownUnit)) := by
  have houtput : (before (.link ⟨"/other"⟩)).files.resolve ⟨"/out"⟩ ≠ .ok ["main"] := by
    simp [before, resolve_out_unitTaken]
  have hunit : ∀ full, Source.canonical (before (.link ⟨"/other"⟩)).files ⟨"/main"⟩ = .ok full →
      (before (.link ⟨"/other"⟩)).files.resolve (unitPath full) ≠ .ok ["main"] := by
    intro full hfull
    obtain rfl : ⟨"/main"⟩ = full := Except.ok.inj ((canonical_ownUnit rfl).symm.trans hfull)
    have hwalk : (unitTaken (.link ⟨"/other"⟩)).walk .use 40 [] [[], "main.norm"] =
        .ok ["other"] := by
      cbv
    have hresolve : (before (.link ⟨"/other"⟩)).files.resolve (unitPath ⟨"/main"⟩) =
      .ok ["other"] := hwalk
    simp [hresolve]
  exact ⟨idle_confined, rfl, node?_compile idle_confined rfl houtput hunit⟩

/-- What stands where the unit is written is lost: a file there is removed, and a file that a link
there leads to is written over. -/
theorem compile_overwrites :
    idle.compiler.Confined ∧
    (∀ node, (before node).files.resolve ⟨"/out"⟩ = .error .missing) ∧
    ((before (.file [])).files.node? ["main.norm"] = some (.file []) ∧
      (idle.compile ⟨"/main"⟩ ⟨"/out"⟩ (before (.file []))).2.files.node? ["main.norm"] = none) ∧
    ((before (.link ⟨"/other"⟩)).files.node? ["other"] = some (.file []) ∧
      (idle.compile ⟨"/main"⟩ ⟨"/out"⟩ (before (.link ⟨"/other"⟩))).2.files.node? ["other"] ≠
        some (.file [])) := by
  refine ⟨idle_confined, fun _ => resolve_out_unitTaken, ⟨rfl, ?_⟩, rfl, ?_⟩
  · have hwalk : (unitTaken (.file [])).walk .write 40 [] [[], "main.norm"] =
        .ok ["main.norm"] := by
      cbv
    rw [files_unitTaken hwalk (by decide),
      FileSystem.remove_of_entry entry_unitTaken (FileSystem.node?_set_self (by simp) _) (by simp)]
    exact FileSystem.node?_erase_self (by simp)
  · have hwalk : (unitTaken (.link ⟨"/other"⟩)).walk .write 40 [] [[], "main.norm"] =
        .ok ["other"] := by
      cbv
    have hlink : ((unitTaken (.link ⟨"/other"⟩)).set ["other"]
        (.file (Text.Utf8.encode ownUnit))).node? ["main.norm"] = some (.link ⟨"/other"⟩) :=
      FileSystem.node?_set_of_ne (by simp) _
    rw [files_unitTaken hwalk (by decide),
      FileSystem.remove_of_entry entry_unitTaken hlink (by simp),
      FileSystem.node?_erase_of_ne (by simp), FileSystem.node?_set_self (by simp)]
    have hunit : Text.Utf8.encode ownUnit ≠ [] := by decide
    simpa using hunit

end Engine

end ScriptBuild
