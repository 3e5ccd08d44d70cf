import ScriptBuild.Proofs.FileSystem.WorkingDirectory
import ScriptBuild.Proofs.Resolution.Lockstep
import ScriptBuild.Proofs.Resolution.Soundness
import ScriptBuild.Proofs.Text.Encoding

/-!
# How a script is called

A resolution starts at the canonical path of its script, and from there on goes by absolute paths
only: an include is joined to the directory of its file or to the reference directory, both
absolute, and its full path is absolute whether it exists or not. So the working directory and the
way the script's path is written play a part only in finding the script.

The set of files for the lockstep is the absolute paths. It is closed under includes because the
reference directory is absolute, which is a condition on the settings, and because the directory of
a file with an absolute path is absolute. Kinds are up to the probe, which is asked about a path and
not about where it is asked from (`Probe.Anchored`); a probe that looks at the working directory
could tell two calls apart.

**Results.**
* `includePath?_isAbsolute`: what an include line writes is joined to an absolute path.
* `inStep_seenFrom`: from two working directories, resolutions go in lockstep.
* `resolve_eq_of_canonical`: scripts that are the same file have the same resolution.
-/
namespace ScriptBuild

namespace Header

theorem includePath?_isAbsolute {directory reference path : Path} {line : String}
    (hdirectory : directory.isAbsolute = true) (hreference : reference.isAbsolute = true)
    (h : includePath? directory reference line = some path) : path.isAbsolute = true := by
  unfold includePath? at h
  split at h
  · cases h
  · split at h
    · obtain ⟨argument, -, rfl⟩ := Option.map_eq_some_iff.mp h
      refine Path.isAbsolute_join ?_ _
      cases argument with
      | quoted inner => exact hdirectory
      | bracketed inner => exact hreference
    · cases h

end Header

/-- What a probe says of an absolute path, it says from every working directory: it is asked about a
path, not about where it is asked from. -/
def Probe.Anchored (probe : Probe) : Prop :=
  ∀ files here path, path.isAbsolute = true →
    probe (FileSystem.seenFrom files here) path = probe files path

namespace Resolver

open FileSystem (isAbsolute_directory isAbsolute_fullPath_of_isAbsolute checkFile_seenFrom
  header_seenFrom fullPath_seenFrom)

variable {resolver : Resolver} {files : FileSystem} {file : Path} {header : List String}

/-- Every include line of a file with an absolute path writes one, seen from where it says. -/
theorem isAbsolute_of_includePath? {line : String} {path : Path}
    (hreference : resolver.reference.isAbsolute = true) (hfile : file.isAbsolute = true)
    (read : Source.header files file = .ok header)
    (h : Header.includePath? file.directory resolver.reference line = some path) :
    path.isAbsolute = true :=
  Header.includePath?_isAbsolute (isAbsolute_directory hfile (Source.isFile_of_header read)) hreference h

/-- From another working directory, a resolution goes the same way. -/
theorem inStep_seenFrom (hreference : resolver.reference.isAbsolute = true)
    (hprobe : resolver.probe.Anchored) (files : FileSystem) (here : Place) :
    resolver.InStep files (files.seenFrom here) fun file => file.isAbsolute = true where
  header file hfile := header_seenFrom hfile here
  meaning file header hfile read line _ := Header.meaning_congr fun path hpath =>
    fullPath_seenFrom (isAbsolute_of_includePath? hreference hfile read hpath) here
  kind file hfile := by
    simp only [ScriptKind.of, checkFile_seenFrom hfile, hprobe files here file hfile]
  closed file header hfile read line _ target hmeans := by
    obtain ⟨path, hpath, rfl⟩ := Header.includePath?_of_meaning hmeans
    exact isAbsolute_fullPath_of_isAbsolute
      (isAbsolute_of_includePath? hreference hfile read hpath)

theorem isAbsolute_of_canonical {script root : Path} (h : Source.canonical files script = .ok root) :
    root.isAbsolute = true := by
  obtain ⟨place, rfl, -⟩ := FileSystem.exists_place_of_canonical (Source.canonical_of_ok h)
  exact Place.isAbsolute_path place

/-! ## A script and a link to it -/

/-- A script in a directory, and a link to it beside that. -/
def besideLink : FileSystem where
  nodes := [
    (["lib"], .directory),
    (["lib", "main"], .file (Text.Utf8.encode "//#include \"unit\"\n")),
    (["link"], .link ⟨"lib/main"⟩)]
  cwd := []

theorem spelled_lib : besideLink.Spelled ["lib"] :=
  FileSystem.Spelled.root.push
    ⟨rfl, by decide, by decide, by decide, by decide, by decide, _, rfl, by simp⟩

theorem spelled_libMain : besideLink.Spelled ["lib", "main"] :=
  spelled_lib.push ⟨rfl, by decide, by decide, by decide, by decide, by decide, _, rfl, by simp⟩

theorem walk_up {purpose : FileSystem.Purpose} (hpurpose : purpose ≠ .write) :
    besideLink.walk purpose 40 ["lib"] ["..", "link"] = .ok ["lib", "main"] := by
  have hrefusal : FileSystem.refusal? purpose [] "link" [] = none := by
    cases purpose with
    | use => rfl
    | write => exact absurd rfl hpurpose
    | spell => exact FileSystem.refusal?_spell_eq_none.mpr ⟨by decide, by decide⟩
  have hdown : besideLink.Spelled ([] ++ (["lib", "main"] : Place)) := spelled_libMain
  calc besideLink.walk purpose 40 ["lib"] ["..", "link"]
    _ = besideLink.walk purpose 40 [] ["link"] := FileSystem.walk_of_up rfl
    _ = besideLink.walk purpose 39 [] ((["lib", "main"] : Place) ++ []) := by
      rw [FileSystem.walk_of_link rfl (by decide) (by decide) hrefusal rfl]
      rfl
    _ = besideLink.walk purpose 39 ["lib", "main"] [] := FileSystem.walk_of_spelled hpurpose hdown
    _ = .ok ["lib", "main"] := by rw [FileSystem.walk]

theorem canonical_libMain :
    Source.canonical (besideLink.seenFrom []) ⟨"/lib/main"⟩ = .ok ⟨"/lib/main"⟩ :=
  Source.canonical_of_locate (FileSystem.resolve_path_of_spelled spelled_libMain) rfl
    (FileSystem.locate_path_of_spelled spelled_libMain)

theorem canonical_upLink :
    Source.canonical (besideLink.seenFrom ["lib"]) ⟨"../link"⟩ = .ok ⟨"/lib/main"⟩ := by
  have hresolve : (besideLink.seenFrom ["lib"]).resolve ⟨"../link"⟩ = .ok ["lib", "main"] := by
    refine (FileSystem.locate_iff (by decide)).mpr ⟨⟨rfl, by decide, by decide⟩, ?_⟩
    rw [FileSystem.walk_seenFrom]
    exact walk_up (by decide)
  have hlocate : (besideLink.seenFrom ["lib"]).locate .spell ⟨"../link"⟩ = .ok ["lib", "main"] := by
    have hparts : ((Place.path ["lib"]).join ⟨"../link"⟩).parts = [[], "lib", "..", "link"] := by
      decide
    have hstep : besideLink.PlainStep [] "lib" := spelled_lib [] "lib" List.prefix_rfl
    unfold FileSystem.locate
    rw [if_neg (by decide), if_neg (by decide), if_pos rfl, FileSystem.walk_seenFrom,
      FileSystem.cwd_seenFrom, hparts, FileSystem.walk_of_idle rfl (.inl rfl),
      FileSystem.walk_of_plainStep (by decide) hstep]
    exact walk_up (by decide)
  exact Source.canonical_of_locate hresolve rfl hlocate

/-! ## One resolution for each file -/

/-- Wherever they are called from and however they are written, scripts that are the same file have
the same resolution, or fail in the same way. -/
theorem resolve_eq_of_canonical (hreference : resolver.reference.isAbsolute = true)
    (hprobe : resolver.probe.Anchored) {here there : Place} {script script' root : Path}
    (hscript : Source.canonical (files.seenFrom here) script = .ok root)
    (hscript' : Source.canonical (files.seenFrom there) script' = .ok root) :
    resolver.resolve (files.seenFrom there) script' =
      resolver.resolve (files.seenFrom here) script := by
  have hroot := isAbsolute_of_canonical hscript
  exact (inStep_seenFrom hreference hprobe (files.seenFrom here) there).resolve_of_root hroot
    hscript hscript'

theorem resolve_eq_of_canonical_upLink :
    Source.canonical (besideLink.seenFrom []) ⟨"/lib/main"⟩ = .ok ⟨"/lib/main"⟩ ∧
    Source.canonical (besideLink.seenFrom ["lib"]) ⟨"../link"⟩ = .ok ⟨"/lib/main"⟩ ∧
    sourceOnly.resolve (besideLink.seenFrom ["lib"]) ⟨"../link"⟩ =
      sourceOnly.resolve (besideLink.seenFrom []) ⟨"/lib/main"⟩ :=
  ⟨canonical_libMain, canonical_upLink,
    resolve_eq_of_canonical rfl (fun _ _ _ _ => rfl) canonical_libMain canonical_upLink⟩

end Resolver

end ScriptBuild
