import ScriptBuild.FileSystem

/-!
# Walks, step by step

What each kind of name does to a walk down the tree, and what follows for walks as a whole.

A walk is for using what is there, for writing, or for spelling out, and the three differ in what
they refuse and in what they do at the last name. The equations here are by the kind of the next
part: one that stays, one that goes up, a link, a plain name. Nothing later opens the definition,
but goes by these.

The order of the recursion is the number of links left, and then the number of parts. Following a
link puts more parts in front, but takes a link; so walks end, and every proof on walks is by that
order. What a link leads to is looked at from where the link stands.

**Results.**
* `locate_iff`: looking a path up is walking along its parts.
* `walk_append`: behind a path that leads somewhere, the walk goes on from there.
* `walk_use_of_walk`: what is written over, or spelled out, is what the path denotes.
* `SameShape.locate`: what is in the files has no part in where a path leads.
-/
namespace ScriptBuild

open Text.Utf8 (Bytes)

/-- What a walk sees of a node: of a file, only that it is one. -/
def Node.shape : Node → Node
  | .file _ => .file []
  | node => node

theorem Node.shape_eq_file {node : Node} {content : Bytes} :
    node.shape = .file content ↔ content = [] ∧ ∃ old, node = .file old := by
  cases node <;> simp [shape, eq_comm]

namespace FileSystem

variable {files after : FileSystem} {purpose : Purpose} {links : Nat} {here place : Place}
  {parts rest : List Bytes}

/-! ## One step -/

theorem walk_of_idle {part : Bytes} (hdir : files.node? here = some .directory)
    (hidle : part = [] ∨ part = [Path.dot]) :
    files.walk purpose links here (part :: rest) = files.walk purpose links here rest := by
  rw [walk]
  simp [hdir, hidle]

theorem walk_of_up (hdir : files.node? here = some .directory) :
    files.walk purpose links here ([Path.dot, Path.dot] :: rest) = files.walk purpose links here.dropLast rest := by
  rw [walk]
  simp [hdir]

theorem walk_of_link {part : Bytes} {target : Path} (hdir : files.node? here = some .directory)
    (hvisible : ¬(part = [] ∨ part = [Path.dot])) (hdown : part ≠ [Path.dot, Path.dot])
    (hrefusal : refusal? purpose here part rest = none)
    (hnode : files.node? (here ++ [part]) = some (.link target)) :
    files.walk purpose (links + 1) here (part :: rest) =
      files.walk purpose links (if target.isAbsolute then [] else here) (target.parts ++ rest) := by
  rw [walk]
  simp [hdir, hvisible, hdown, hrefusal, hnode]

theorem walk_of_node {part : Bytes} {node : Node} (hdir : files.node? here = some .directory)
    (hvisible : ¬(part = [] ∨ part = [Path.dot])) (hdown : part ≠ [Path.dot, Path.dot])
    (hrefusal : refusal? purpose here part rest = none)
    (hnode : files.node? (here ++ [part]) = some node) (hlink : ∀ target, node ≠ .link target) :
    files.walk purpose links here (part :: rest) =
      files.walk purpose links (here ++ [part]) rest := by
  rw [walk]
  cases node with
  | link target => exact absurd rfl (hlink target)
  | _ => simp [hdir, hvisible, hdown, hrefusal, hnode]

/-! ## Whole walks -/

/-- Looking a path up is walking along its parts, if the text is fit for it. -/
theorem locate_iff {path : Path} (hpurpose : purpose ≠ .spell) :
    files.locate purpose path = .ok place ↔
      (path.octets.isEmpty = false ∧ 0 ∉ path.octets ∧
        path.octets.length < pathLimit) ∧
      files.walk purpose linkLimit (if path.isAbsolute then [] else files.cwd) path.parts =
        .ok place := by
  unfold locate
  rw [if_neg hpurpose]
  split
  · rename_i hempty
    simp [hempty]
  · split
    · rename_i hzero
      simp only [List.contains_eq_mem, decide_eq_true_eq] at hzero
      simp [hzero]
    · split
      · rename_i hlong
        simp [Nat.not_lt.mpr hlong]
      · simp_all

theorem walk_append (h : files.walk .use links here parts = .ok place) :
    ∃ left, files.walk .use links here (parts ++ rest) = files.walk .use left place rest := by
  fun_induction walk files .use links here parts with
  | case1 links here =>
    cases h
    exact ⟨links, rfl⟩
  | case5 links here part parts hdir hidle ih =>
    obtain ⟨left, hleft⟩ := ih h
    exact ⟨left, (walk_of_idle hdir hidle).trans hleft⟩
  | case6 links here parts hdir hvisible ih =>
    obtain ⟨left, hleft⟩ := ih h
    exact ⟨left, (walk_of_up hdir).trans hleft⟩
  | case9 links here part parts hdir hvisible hdown hrefusal hnode hname hwrite =>
    exact absurd hwrite.1 (by decide)
  | case12 here part parts hdir hvisible hdown hrefusal target hnode links ih =>
    obtain ⟨left, hleft⟩ := ih (by simpa using h)
    refine ⟨left, (walk_of_link hdir hvisible hdown rfl hnode).trans ?_⟩
    simpa using hleft
  | case13 links here part parts hdir hvisible hdown hrefusal node hlink hnode ih =>
    obtain ⟨left, hleft⟩ := ih h
    exact ⟨left, (walk_of_node hdir hvisible hdown rfl hnode hlink).trans hleft⟩
  | _ => cases h

/-- A walk that comes to what exists is a walk for using it. -/
theorem walk_use_of_walk (h : files.walk purpose links here parts = .ok place)
    (hnode : purpose = .write → (files.node? place).isSome) :
    files.walk .use links here parts = .ok place := by
  fun_induction walk files purpose links here parts with
  | case1 links here =>
    cases h
    rw [walk]
  | case5 links here part parts hdir hidle ih => exact (walk_of_idle hdir hidle).trans (ih h)
  | case6 links here parts hdir hvisible ih => exact (walk_of_up hdir).trans (ih h)
  | case9 links here part parts hdir hvisible hdown hrefusal hnone hname hwrite =>
    cases h
    simpa [hnone] using hnode hwrite.1
  | case12 here part parts hdir hvisible hdown hrefusal target hlink links ih =>
    rw [walk_of_link hdir hvisible hdown rfl hlink]
    simpa using ih (by simpa using h)
  | case13 links here part parts hdir hvisible hdown hrefusal node hlink hsome ih =>
    exact (walk_of_node hdir hvisible hdown rfl hsome hlink).trans (ih h)
  | _ => cases h

/-! ## Trees of the same shape -/

/-- The same tree, up to what is in its files, seen from the same working directory. -/
structure SameShape (files after : FileSystem) : Prop where
  cwd : after.cwd = files.cwd
  shape : ∀ place, (after.node? place).map Node.shape = (files.node? place).map Node.shape

namespace SameShape

theorem symm (h : SameShape files after) : SameShape after files where
  cwd := h.cwd.symm
  shape place := (h.shape place).symm

theorem none (h : SameShape files after) (hnode : files.node? place = none) :
    after.node? place = none := by
  simpa [hnode] using h.shape place

theorem file {content : Bytes} (h : SameShape files after)
    (hnode : files.node? place = some (.file content)) :
    ∃ content', after.node? place = some (.file content') := by
  have hshape := h.shape place
  rw [hnode] at hshape
  obtain ⟨node, hnode', hfile⟩ := Option.map_eq_some_iff.mp hshape
  obtain ⟨-, old, rfl⟩ := Node.shape_eq_file.mp hfile
  exact ⟨old, hnode'⟩

theorem node {node : Node} (h : SameShape files after) (hnode : files.node? place = some node)
    (hfile : ∀ content, node ≠ .file content) : after.node? place = some node := by
  have hshape := h.shape place
  rw [hnode] at hshape
  obtain ⟨node', hnode', heq⟩ := Option.map_eq_some_iff.mp hshape
  cases node with
  | file content => exact absurd rfl (hfile content)
  | _ => cases node' <;> simp_all [Node.shape]

theorem walk (h : SameShape files after) (purpose : Purpose) (links : Nat) (here : Place)
    (parts : List Bytes) :
    after.walk purpose links here parts = files.walk purpose links here parts := by
  fun_induction FileSystem.walk files purpose links here parts with
  | case1 links here => rw [FileSystem.walk]
  | case2 links here part rest hdir =>
    rw [FileSystem.walk]
    simp [h.none hdir]
  | case3 links here part rest content hdir =>
    obtain ⟨content', hdir'⟩ := h.file hdir
    rw [FileSystem.walk]
    simp [hdir']
  | case4 links here part rest target hdir =>
    rw [FileSystem.walk]
    simp [h.node hdir]
  | case5 links here part rest hdir hidle ih =>
    exact (walk_of_idle (h.node hdir (by simp)) hidle).trans ih
  | case6 links here rest hdir hidle ih => exact (walk_of_up (h.node hdir (by simp))).trans ih
  | case7 links here part rest hdir hvisible hdown error hrefusal =>
    rw [FileSystem.walk]
    simp [h.node hdir, hvisible, hdown, hrefusal]
  | case8 links here part rest hdir hvisible hdown hrefusal hnone hname =>
    rw [FileSystem.walk]
    simp [h.node hdir, hvisible, hdown, hrefusal, h.none hnone, hname]
  | case9 links here part rest hdir hvisible hdown hrefusal hnone hname hwrite =>
    rw [FileSystem.walk]
    simp only [h.node hdir (by simp), if_neg hvisible, if_neg hdown, hrefusal, h.none hnone,
      if_neg hname, if_pos hwrite]
  | case10 links here part rest hdir hvisible hdown hrefusal hnone hname hwrite =>
    rw [FileSystem.walk]
    simp only [h.node hdir (by simp), if_neg hvisible, if_neg hdown, hrefusal, h.none hnone,
      if_neg hname, if_neg hwrite]
  | case11 here part rest hdir hvisible hdown hrefusal target hlink =>
    rw [FileSystem.walk]
    simp [h.node hdir, hvisible, hdown, hrefusal, h.node hlink]
  | case12 here part rest hdir hvisible hdown hrefusal target hlink links ih =>
    rw [walk_of_link (h.node hdir (by simp)) hvisible hdown hrefusal (h.node hlink (by simp))]
    simpa using ih
  | case13 links here part rest hdir hvisible hdown hrefusal node hlink hnode ih =>
    have hdir' := h.node hdir (by simp)
    rw [← ih]
    cases node with
    | file content =>
      obtain ⟨content', hnode'⟩ := h.file hnode
      exact walk_of_node hdir' hvisible hdown hrefusal hnode' (by simp)
    | directory =>
      exact walk_of_node hdir' hvisible hdown hrefusal (h.node hnode (by simp)) (by simp)
    | link target => exact absurd rfl (hlink target)

theorem locate (h : SameShape files after) (purpose : Purpose) (path : Path) :
    after.locate purpose path = files.locate purpose path := by
  simp only [FileSystem.locate, h.cwd, h.walk]

theorem entry (h : SameShape files after) (path : Path) : after.entry path = files.entry path := by
  have hdir : ∀ here, after.node? here = some .directory ↔ files.node? here = some .directory :=
    fun here => ⟨fun hnode => h.symm.node hnode (by simp), fun hnode => h.node hnode (by simp)⟩
  simp only [FileSystem.entry, h.cwd, h.walk, hdir]

end SameShape

end FileSystem

end ScriptBuild
