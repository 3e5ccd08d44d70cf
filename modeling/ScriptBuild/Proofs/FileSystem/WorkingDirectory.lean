import ScriptBuild.Proofs.FileSystem.Canonical
import ScriptBuild.Proofs.Script.Reading

/-!
# The working directory

An absolute path leads to the same place from every working directory, so all that is read by it,
and how it is spelled out, is the same. Where an absolute path stands for a file, the directory that
it shows is absolute again: behind the lead there is a part that is a name.

The working directory is a place, and changing it changes nothing else in the tree; `seenFrom` is
that change. Of all operations only the first step of looking a path up asks for it, and only if the
path is relative. So each lemma here is by the definition of an operation, down to that step.

For directories the condition that the path stands for a file is needed: a path with nothing but
idle parts shows the empty path as its directory.

**Results.**
* `locate_seenFrom`: an absolute path leads to the same place from everywhere.
* `header_seenFrom`, `fullPath_seenFrom`: so its header and its full path are the same.
* `isAbsolute_directory`: the directory of a file with an absolute path is absolute.
* `isAbsolute_fullPath_of_isAbsolute`: the full path of an absolute path is absolute.
-/
namespace ScriptBuild

open Text.Utf8 (Bytes)

namespace Path

theorem isAbsolute_join {base : Path} (h : base.isAbsolute = true) (inner : Path) :
    (base.join inner).isAbsolute = true := by
  cases hinner : inner.isAbsolute with
  | true => rwa [join_absolute hinner]
  | false =>
    rw [join, if_neg (by simp [hinner])]
    simpa [isAbsolute] using head_push (by simpa [isAbsolute] using h) inner.octets

theorem absolute_of_isAbsolute {path : Path} (h : path.isAbsolute = true) (here there : Path) :
    absolute there path = absolute here path := by
  simp only [absolute, h, if_true]

theorem parts_dot : (⟨[dot]⟩ : Path).parts = [[dot]] := by
  decide

/-- Where nothing is left of a path but idle parts, all its parts are idle. -/
theorem idle_of_dropIdle {back : Bytes} (h : dropIdle back = []) :
    ∀ part ∈ (⟨back.reverse⟩ : Path).parts, part = [] ∨ part = [Path.dot] := by
  fun_induction dropIdle back with
  | case1 rest ih =>
    have hparts : (⟨(slash :: rest).reverse⟩ : Path).parts =
        (⟨rest.reverse⟩ : Path).parts ++ (⟨[]⟩ : Path).parts := by
      rw [List.reverse_cons, parts_slash]
    intro part hpart
    rcases List.mem_append.mp (hparts ▸ hpart) with hpart | hpart
    · exact ih h part hpart
    · exact .inl (by simpa [parts, Text.cutAll] using hpart)
  | case2 rest ih =>
    have hparts : (⟨(dot :: slash :: rest).reverse⟩ : Path).parts =
        (⟨rest.reverse⟩ : Path).parts ++ (⟨[dot]⟩ : Path).parts := by
      rw [List.reverse_cons, List.reverse_cons, List.append_assoc, List.singleton_append,
        parts_slash]
    intro part hpart
    rcases List.mem_append.mp (hparts ▸ hpart) with hpart | hpart
    · exact ih h part hpart
    · exact .inr (by simpa [parts_dot] using hpart)
  | case3 => simp [parts_dot]
  | case4 back hslash hdot hlast =>
    subst h
    simp [parts, Text.cutAll]

end Path

namespace FileSystem

variable {files : FileSystem} {purpose : Purpose} {place : Place} {path : Path}

/-- The same tree, seen from another working directory. -/
def seenFrom (files : FileSystem) (place : Place) : FileSystem := { files with cwd := place }

@[simp] theorem cwd_seenFrom (files : FileSystem) (place : Place) :
    (files.seenFrom place).cwd = place := rfl

@[simp] theorem node?_seenFrom (files : FileSystem) (place spot : Place) :
    (files.seenFrom place).node? spot = files.node? spot := rfl

/-- A walk from a place does not depend on the working directory. -/
theorem walk_seenFrom (files : FileSystem) (place : Place) (purpose : Purpose) (links : Nat)
    (here : Place) (parts : List Bytes) :
    (files.seenFrom place).walk purpose links here parts = files.walk purpose links here parts := by
  fun_induction walk files purpose links here parts with
  | case1 links here => rw [walk]
  | case10 links here part rest hdir hvisible hdown hrefusal hnone hname hwrite =>
    rw [walk]
    simp only [node?_seenFrom, hdir, if_neg hvisible, if_neg hdown, hrefusal, hnone, if_neg hname,
      if_neg hwrite]
  | _ =>
    rw [walk]
    simp_all

theorem locate_seenFrom (h : path.isAbsolute = true) (place : Place) :
    (files.seenFrom place).locate purpose path = files.locate purpose path := by
  simp only [locate, walk_seenFrom, Path.join_absolute h, h, if_true]

theorem canonical_seenFrom (h : path.isAbsolute = true) (place : Place) :
    (files.seenFrom place).canonical path = files.canonical path := by
  simp only [canonical, locate_seenFrom h]

theorem isFile_seenFrom (h : path.isAbsolute = true) (place : Place) :
    (files.seenFrom place).isFile path = files.isFile path := by
  simp only [isFile, find?, resolve, locate_seenFrom h, node?_seenFrom]

theorem checkFile_seenFrom (h : path.isAbsolute = true) (place : Place) :
    Source.checkFile (files.seenFrom place) path = Source.checkFile files path := by
  simp only [Source.checkFile, isFile_seenFrom h]

theorem header_seenFrom (h : path.isAbsolute = true) (place : Place) :
    Source.header (files.seenFrom place) path = Source.header files path := by
  simp only [Source.header, Source.read, checkFile_seenFrom h, read, resolve, locate_seenFrom h,
    node?_seenFrom]

/-- Made absolute as it is written, an absolute path has no use for the working directory. -/
theorem fullPath_seenFrom (h : path.isAbsolute = true) (place : Place) :
    (files.seenFrom place).fullPath path = files.fullPath path := by
  simp only [fullPath, canonical_seenFrom h, Path.absolute_of_isAbsolute h files.cwd.path]

theorem isAbsolute_fullPath_of_isAbsolute (h : path.isAbsolute = true) :
    (files.fullPath path).isAbsolute = true := by
  unfold fullPath
  cases hcanonical : files.canonical path with
  | ok full =>
    obtain ⟨place, rfl, -⟩ := exists_place_of_canonical hcanonical
    exact Place.isAbsolute_path place
  | error cause =>
    exact Path.isAbsolute_absolute (Place.isAbsolute_path _) (Path.nonempty_of_isAbsolute h)

theorem walk_of_idles {links : Nat} {here : Place} {parts : List Bytes}
    (hdir : files.node? here = some .directory) (h : ∀ part ∈ parts, part = [] ∨ part = [Path.dot]) :
    files.walk purpose links here parts = .ok here := by
  induction parts with
  | nil => rw [walk]
  | cons part rest ih =>
    rw [walk_of_idle hdir (h part List.mem_cons_self)]
    exact ih fun other hother => h other (List.mem_cons_of_mem _ hother)

theorem isAbsolute_directory (h : path.isAbsolute = true) (hfile : files.isFile path = true) :
    path.directory.isAbsolute = true := by
  obtain ⟨rest, hoctets⟩ : ∃ rest, path.octets = Path.slash :: rest := by
    simpa [Path.isAbsolute, List.head?_eq_some_iff] using h
  have hlead : Path.lead path.octets = [Path.slash] := by
    rw [hoctets]
    rfl
  have hdrop : path.octets.drop (Path.lead path.octets).length = rest := by
    rw [hlead, hoctets]
    rfl
  have hlast : ∃ name front, path.lastPart = some (name, front) := by
    unfold Path.lastPart
    simp only [hdrop]
    cases hback : Path.dropIdle rest.reverse with
    | cons c back => exact ⟨_, _, rfl⟩
    | nil =>
      -- Nothing but idle parts leads to the root, and that is a directory.
      exfalso
      have hidle := Path.idle_of_dropIdle hback
      obtain ⟨place, content, hresolve, hnode⟩ := isFile_iff.mp hfile
      obtain ⟨-, hwalk⟩ := (locate_iff (by decide)).mp hresolve
      have hparts : path.parts = [] :: (⟨rest⟩ : Path).parts := by
        obtain rfl : path = ⟨[] ++ Path.slash :: rest⟩ := by rw [List.nil_append, ← hoctets]
        rw [Path.parts_slash]
        rfl
      rw [h, if_pos rfl, hparts, walk_of_idles rfl ?_] at hwalk
      · cases hwalk
        simp at hnode
      · intro part hpart
        rcases List.mem_cons.mp hpart with rfl | hpart
        · exact .inl rfl
        · exact hidle part (by simpa using hpart)
  obtain ⟨name, front, hlast⟩ := hlast
  simp [Path.directory, Path.parent?, hlast, hlead, Path.isAbsolute]

end FileSystem

end ScriptBuild
