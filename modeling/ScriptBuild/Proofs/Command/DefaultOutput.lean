import ScriptBuild.Command.Execution
import ScriptBuild.Proofs.Engine.CompilationUnit
import ScriptBuild.Proofs.FileSystem.Extension

/-!
# The default output

A script that is compiled without an output is compiled to its own name with the extension `dll`,
in its own directory. Nothing keeps that from being what the build reads. It is read if the script
has that extension itself, if the script includes what has that name, and if a link of that name
leads to what is read; and in no other case.

That an input has the output's name is said of the script's directory: where `here` is the directory
that the path of the script leads to and `name` is its last name there, the input is found as
`renamed name "dll"` in `here`. A canonical input is then spelled just so. Only a link can make two
names one file, since there are no hard links, and only paths through directories that exist can
lead out of the working directory.

**Results.**
* `Settled.of_write`: the working directory is one after a file is written as well.
* `beside_withExtension`: the default output is beside the script.
* `entry_of_beside`: and so it is the entry of its name in the script's directory.
* `spares`: which inputs an output of that name can be the file of.
* `compile_spares_inputs`: what holds of the output whenever the compiler is called.
-/
namespace ScriptBuild

namespace FileSystem

variable {files after : FileSystem} {path : Path} {place : Place} {content : Text.Utf8.Bytes}

theorem Settled.of_write (h : files.Settled place)
    (hwrite : files.write path content = .ok after) (habsolute : path.isAbsolute = true) :
    after.Settled place := by
  obtain ⟨spot, -, hne, hspot, rfl⟩ := write_eq hwrite habsolute
  refine ⟨fun upper hupper hother => ?_, fun target htarget => ?_⟩
  · exact hspot.node?_set (h.above upper hupper hother) (by simp)
  · exact h.noLink target ((changedAt_set hne).node?_of_not_file htarget (by simp))

theorem SameFile.of_write {other written : Path} (h : files.SameFile path other)
    (hwrite : files.write written content = .ok after) (habsolute : written.isAbsolute = true) :
    after.SameFile path other := by
  obtain ⟨place, old, hpath, hother, hfile⟩ := h
  obtain ⟨spot, -, -, hspot, hsame⟩ := exists_spot_of_write hwrite habsolute
  have hnow : ∃ content, after.node? place = some (.file content) := by
    by_cases heq : place = spot
    · exact ⟨content, heq ▸ hspot⟩
    · exact ⟨old, (hsame place heq).trans hfile⟩
  obtain ⟨now, hnow⟩ := hnow
  exact ⟨place, now, resolve_of_write hwrite habsolute hpath,
    resolve_of_write hwrite habsolute hother, hnow⟩

theorem cwd_of_write (h : files.write path content = .ok after) : after.cwd = files.cwd := by
  obtain ⟨spot, -, hchanged⟩ := changedAt_of_write h
  exact hchanged.cwd

end FileSystem

theorem Source.isFile_of_canonical {files : FileSystem} {path full : Path}
    (h : canonical files path = .ok full) : files.isFile path = true := by
  unfold canonical at h
  split at h
  · cases h
  · exact checkFile_iff.mp (by assumption)

namespace Command

variable {files : FileSystem} {script full input output : Path} {found : Resolution}

def Input (full : Path) (found : Resolution) (input : Path) : Prop :=
  input = full ∨ .file input ∈ found.deps ∨ .binary input ∈ found.deps

/-- The output is in the script's directory, under its name with another extension. -/
structure Beside (script output : Path) : Prop where
  parts : ∃ upper name, script.parts = upper ++ [name] ∧ FileSystem.Proper name ∧
    output.parts = upper ++ [Path.renamed name "dll"]
  start : output.isAbsolute = script.isAbsolute

/-- The input is what has the output's name in the directory of the script. -/
def TakesName (files : FileSystem) (script output input : Path) : Prop :=
  ∃ here name, files.entry script = .ok (here ++ [name]) ∧
    files.entry output = .ok (here ++ [Path.renamed name "dll"]) ∧
    files.resolve input = .ok (here ++ [Path.renamed name "dll"]) ∧
    (files.canonical input = .ok input → input = Place.path (here ++ [Path.renamed name "dll"]))

/-- An input is not in the file of the output, unless it has the output's name in the script's
directory or a link has, or the script is at the end of a link. -/
structure Spares (files : FileSystem) (script full : Path) (found : Resolution) (output : Path) :
    Prop where
  /-- An input that is in the output's file has the output's name, or a link of that name leads to
  it. -/
  inputs : ∀ input, Input full found input → files.SameFile output input →
    files.LinkAt output ∨ TakesName files script output input
  /-- The script is in the output's file only if its path is the output's, or one is a link's. -/
  script : files.SameFile output script →
    files.LinkAt output ∨ files.LinkAt script ∨ output = script

theorem fits_of_canonical (located : Source.canonical files script = .ok full) :
    0 ∉ script.octets ∧ script.octets.length < FileSystem.pathLimit := by
  obtain ⟨place, content, hresolve, -⟩ :=
    FileSystem.isFile_iff.mp (Source.isFile_of_canonical located)
  obtain ⟨⟨-, hzero, hshort⟩, -⟩ := (FileSystem.locate_iff (by decide)).mp hresolve
  exact ⟨hzero, hshort⟩

/-- An output beside the script is an entry of the directory that the script is an entry of. -/
theorem entry_of_beside {place : Place} (h : Beside script output) (hzero : 0 ∉ script.octets)
    (hshort : script.octets.length < FileSystem.pathLimit) (hentry : files.entry output = .ok place) :
    ∃ here name, files.entry script = .ok (here ++ [name]) ∧
      place = here ++ [Path.renamed name "dll"] := by
  obtain ⟨upper, name, hscript, hproper, houtput⟩ := h.parts
  obtain ⟨here, last, hparts, rfl, -, -, -, -, hdirectory, hwalk⟩ := FileSystem.entry_iff.mp hentry
  rw [houtput, List.dropLast_concat] at hparts hwalk
  obtain rfl : Path.renamed name "dll" = last := by simpa using hparts
  refine ⟨here, name, FileSystem.entry_iff.mpr ⟨here, name, ?_⟩, rfl⟩
  rw [hscript, List.dropLast_concat]
  exact ⟨rfl, rfl, hproper.visible, hproper.down, hzero, hshort, hdirectory, h.start ▸ hwalk⟩

theorem spares (hcwd : files.Settled files.cwd) (found : Resolution)
    (hbeside : Beside script (script.withExtension "dll")) (hzero : 0 ∉ script.octets)
    (hshort : script.octets.length < FileSystem.pathLimit) :
    Spares files script full found (script.withExtension "dll") where
  inputs input _ := by
    rintro ⟨place, content, houtput, hinput, hfile⟩
    rcases FileSystem.entry_of_file hcwd houtput hfile with hlink | hentry
    · exact .inl hlink
    · obtain ⟨here, name, hscript, rfl⟩ := entry_of_beside hbeside hzero hshort hentry
      refine .inr ⟨here, name, hscript, hentry, hinput, fun hcanonical => ?_⟩
      obtain ⟨place, hplace, hresolve⟩ := FileSystem.exists_place_of_canonical hcanonical
      obtain rfl : place = here ++ [Path.renamed name "dll"] :=
        Except.ok.inj (hresolve.symm.trans hinput)
      exact hplace
  script same := FileSystem.withExtension_eq_of_sameFile hcwd (by decide) same

theorem beside_withExtension (hcwd : files.Settled files.cwd)
    (located : Source.canonical files script = .ok full) :
    Beside script (script.withExtension "dll") := by
  obtain ⟨place, content, hresolve, hfile⟩ :=
    FileSystem.isFile_iff.mp (Source.isFile_of_canonical located)
  obtain ⟨upper, name, hparts, hname⟩ := FileSystem.exists_name_of_file hcwd hresolve hfile
  have hslash : Path.slash ∉ Text.Utf8.encode "dll" := by decide
  obtain ⟨hnew, habsolute, -⟩ := Path.withExtension_of_parts hparts hname hslash
  exact ⟨⟨upper, name, hparts, hname, hnew⟩, habsolute⟩

/-! ## Something of the output's name -/

/-- A script, and something where its default output is. -/
def besideModule (main : String) (node : Node) : FileSystem where
  nodes := [(["main"], .file (Text.Utf8.encode main)), (["main.dll"], node)]
  cwd := []

def withModule (main : String) (node : Node) : Session :=
  ⟨besideModule main node, .counting 0, [], [], {}⟩

/-- The compiler is called for a script without an output, and its output is the file of `input`. -/
def Hits (session : Session) (script input : Path) : Prop :=
  ∃ request given, (perform Engine.idle (.compile script none) session).2.calls =
    session.calls ++ [.compile request given] ∧ given.SameFile request.output input

theorem calls_of_build {session : Session} {unit : String} {given : FileSystem}
    (compiled : Engine.idle.compile script (script.withExtension "dll") session =
      Engine.idle.build full found unit (script.withExtension "dll") session)
    (written : session.files.write (Engine.unitPath full) (Text.Utf8.encode unit) = .ok given) :
    (perform Engine.idle (.compile script none) session).2.calls =
      session.calls ++
        [.compile (Engine.idle.request full found (script.withExtension "dll")) given] := by
  change (Engine.idle.compile script (script.withExtension "dll") session).2.calls = _
  rw [compiled, Engine.build_of_write written]

theorem hits_of_build {session : Session} {unit : String} {given : FileSystem}
    (compiled : Engine.idle.compile script (script.withExtension "dll") session =
      Engine.idle.build full found unit (script.withExtension "dll") session)
    (written : session.files.write (Engine.unitPath full) (Text.Utf8.encode unit) = .ok given)
    (absolute : (Engine.unitPath full).isAbsolute = true)
    (same : session.files.SameFile (script.withExtension "dll") input) :
    Hits session script input :=
  ⟨_, given, calls_of_build compiled written, same.of_write written absolute⟩

theorem rootName_module : FileSystem.RootName "main.dll" := by decide

/-- When a script is compiled without an output and the compiler is called, the output is the
script's name with the extension `dll`. That spares every input, but for one of this very name and
what links lead to. -/
theorem compile_spares_inputs (engine : Engine) (script : Path) (session : Session)
    (working : session.files.Settled session.files.cwd) :
    (perform engine (.compile script none) session).2.calls = session.calls ∨
    ∃ full found request given,
      (perform engine (.compile script none) session).2.calls =
        session.calls ++ [.compile request given] ∧
      Source.canonical session.files script = .ok full ∧
      engine.resolve session.files full = .ok found ∧
      request.output = script.withExtension "dll" ∧ Beside script request.output ∧
      Spares session.files script full found request.output ∧
      Spares given script full found request.output := by
  have hperform : (perform engine (.compile script none) session).2 =
      (engine.compile script (script.withExtension "dll") session).2 := rfl
  rw [hperform]
  rcases engine.compile_wrote script (script.withExtension "dll") session with
    ⟨failure, -, hcalls⟩ | ⟨full, found, unit, given, hlocated, hresolved, hwrite, hcalls, -⟩
  · exact .inl hcalls
  · have habsolute : (Engine.unitPath full).isAbsolute = true :=
      Engine.isAbsolute_unitPath (Source.canonical_of_ok hlocated)
    have hgiven : given.Settled given.cwd := by
      rw [FileSystem.cwd_of_write hwrite]
      exact working.of_write hwrite habsolute
    have hbeside := beside_withExtension working hlocated
    obtain ⟨hzero, hshort⟩ := fits_of_canonical hlocated
    exact .inr ⟨full, found, _, given, hcalls, hlocated, hresolved, rfl, hbeside,
      spares working _ hbeside hzero hshort, spares hgiven _ hbeside hzero hshort⟩

section

variable {main : String} {node : Node}

theorem write_unit (unit : String) :
    (besideModule main node).write (Engine.unitPath ⟨"/main"⟩) (Text.Utf8.encode unit) =
      .ok ((besideModule main node).set ["main.norm"] (.file (Text.Utf8.encode unit))) :=
  Engine.rootName_unit.write (.inl rfl)

theorem resolve_main_besideModule : (besideModule main node).resolve ⟨"/main"⟩ = .ok ["main"] :=
  FileSystem.resolve_path_of_spelled (Engine.rootName_main.spelled rfl)

end

def besideEmpty : Session := withModule Engine.ownUnit (.file [])

theorem compile_spares_inputs_besideEmpty :
    besideEmpty.files.Settled besideEmpty.files.cwd ∧
    ∃ full found request given,
      (perform Engine.idle (.compile ⟨"/main"⟩ none) besideEmpty).2.calls =
        [.compile request given] ∧
      Source.canonical besideEmpty.files ⟨"/main"⟩ = .ok full ∧
      Engine.idle.resolve besideEmpty.files full = .ok found ∧
      request.output = ⟨"/main.dll"⟩ ∧ Beside ⟨"/main"⟩ request.output ∧
      Spares besideEmpty.files ⟨"/main"⟩ full found request.output ∧
      Spares given ⟨"/main"⟩ full found request.output := by
  have hworking : besideEmpty.files.Settled besideEmpty.files.cwd := .root
  have hname : Path.withExtension ⟨"/main"⟩ "dll" = ⟨"/main.dll"⟩ := by decide
  have hcalls : (perform Engine.idle (.compile ⟨"/main"⟩ none) besideEmpty).2.calls =
      besideEmpty.calls ++ [.compile (Engine.idle.request ⟨"/main"⟩ .empty _) _] :=
    calls_of_build (Engine.compile_ownUnit rfl rfl _) (write_unit Engine.ownUnit)
  refine ⟨hworking, ?_⟩
  rcases compile_spares_inputs Engine.idle ⟨"/main"⟩ besideEmpty hworking with
    hnone | ⟨full, found, request, given, hcall, hfull, hfound, houtput, hrest⟩
  · rw [hcalls] at hnone
    simp [besideEmpty, withModule] at hnone
  · exact ⟨full, found, request, given, hcall, hfull, hfound, houtput.trans hname, hrest⟩

def unitFile : Node := .file (Text.Utf8.encode Engine.ownUnit)

theorem resolve_module (main : String) :
    (besideModule main unitFile).resolve ⟨"/main.dll"⟩ = .ok ["main.dll"] :=
  FileSystem.resolve_path_of_spelled (rootName_module.spelled rfl)

/-- A script that has the extension of its output. -/
theorem hits_itself (main : String) :
    Hits (withModule main unitFile) ⟨"/main.dll"⟩ ⟨"/main.dll"⟩ := by
  have hunit : FileSystem.RootName "main.dll.norm" := by decide
  have hname : Path.withExtension ⟨"/main.dll"⟩ "dll" = ⟨"/main.dll"⟩ := by decide
  have hmodule := resolve_module main
  exact hits_of_build (Engine.compile_complete rootName_module rfl rfl _)
    (hunit.write (.inl rfl)) rfl ⟨_, _, hname ▸ hmodule, hmodule, rfl⟩

/-- A script that includes what is where its output goes. -/
def includesModule : String := "//#mode complex\n//#include \"/main.dll\"\n"

theorem hits_included :
    Engine.idle.resolve (besideModule includesModule unitFile) ⟨"/main"⟩ =
      .ok ⟨[.file ⟨"/main.dll"⟩], by simp⟩ ∧
    Hits (withModule includesModule unitFile) ⟨"/main"⟩ ⟨"/main.dll"⟩ := by
  have hcanonical : Source.canonical (besideModule includesModule unitFile) ⟨"/main"⟩ =
      .ok ⟨"/main"⟩ :=
    Source.canonical_of_locate resolve_main_besideModule rfl
      (FileSystem.locate_path_of_spelled (Engine.rootName_main.spelled rfl))
  have hread : Source.read (besideModule includesModule unitFile) ⟨"/main"⟩ =
      .ok includesModule := by
    rw [Source.read_of_resolve resolve_main_besideModule rfl]
    cbv
  have hheader : Source.header (besideModule includesModule unitFile) ⟨"/main"⟩ =
      .ok ["//#mode complex", "//#include \"/main.dll\""] := by
    rw [Source.header_of_resolve resolve_main_besideModule rfl]
    cbv
  have hmeaning : ∀ directory reference, Header.meaning (besideModule includesModule unitFile)
      directory reference "//#include \"/main.dll\"" =
        .ok (.found (.includes ⟨"/main.dll"⟩)) := fun _ _ =>
    Header.meaning_of_spelled (rootName_module.spelled rfl) rfl (by cbv) (by cbv)
  have hincluded : Source.header (besideModule includesModule unitFile) ⟨"/main.dll"⟩ =
      .ok ["//#mode complex"] :=
    (Engine.read_complete rootName_module rfl).2
  have hname : Path.withExtension ⟨"/main"⟩ "dll" = ⟨"/main.dll"⟩ := by decide
  have hmodule := resolve_module includesModule
  refine ⟨Engine.resolve_includesOne hcanonical hheader hmeaning hincluded, ?_⟩
  exact hits_of_build (Engine.compile_includesOne hcanonical hread hheader hmeaning hincluded)
    (write_unit _) rfl ⟨_, _, hname ▸ hmodule, hmodule, rfl⟩

/-- A script that a link leads to, which stands where its output goes. -/
theorem hits_linked :
    Hits (withModule Engine.ownUnit (.link ⟨"/main"⟩)) ⟨"/main"⟩ ⟨"/main"⟩ := by
  have hname : Path.withExtension ⟨"/main"⟩ "dll" = ⟨"/main.dll"⟩ := by decide
  have hmain : (besideModule Engine.ownUnit (.link ⟨"/main"⟩)).resolve ⟨"/main"⟩ = .ok ["main"] :=
    resolve_main_besideModule
  have hlink : (besideModule Engine.ownUnit (.link ⟨"/main"⟩)).resolve ⟨"/main.dll"⟩ =
      .ok ["main"] :=
    FileSystem.resolve_of_locate_write
      (rootName_module.locate_write_of_link Engine.rootName_main rfl (.inr ⟨_, rfl⟩)) rfl
  exact hits_of_build (Engine.compile_ownUnit rfl rfl _) (write_unit _) rfl
    ⟨_, _, hname ▸ hlink, hmain, rfl⟩

/-- Without an output given, the script, what it includes and what a link leads to can each be in
the file that the compiler is to write. -/
theorem compile_hits_inputs :
    (∃ main, Hits (withModule main unitFile) ⟨"/main.dll"⟩ ⟨"/main.dll"⟩) ∧
    (∃ found, Engine.idle.resolve (besideModule includesModule unitFile) ⟨"/main"⟩ = .ok found ∧
      .file ⟨"/main.dll"⟩ ∈ found.deps ∧
      Hits (withModule includesModule unitFile) ⟨"/main"⟩ ⟨"/main.dll"⟩) ∧
    Hits (withModule Engine.ownUnit (.link ⟨"/main"⟩)) ⟨"/main"⟩ ⟨"/main"⟩ :=
  ⟨⟨"", hits_itself _⟩, ⟨_, hits_included.1, by simp, hits_included.2⟩, hits_linked⟩

end Command

end ScriptBuild
