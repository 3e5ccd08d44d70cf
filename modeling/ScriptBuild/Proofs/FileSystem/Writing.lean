import ScriptBuild.Proofs.FileSystem.Frame

/-!
# What is read after writing

Behind the last link on the way to what is written there is a file or nothing: a walk follows every
link it meets. So wherever a path led before the writing it still leads, to the same file or to what
was written over it, and the path that was written leads to what was written.

`Settled` is what carries the induction: on the way down to a place there are directories, and the
place itself is no link. A walk from the root keeps it, since it leaves a link by going to its
target. Without it a walk from somewhere inside could start at a link.

The path that is written has to be absolute here, since a relative one would need a settled working
directory; the paths that are read may be relative. Nothing is said of spelling out after a write. A
write changes the content of a file that is there, or adds one, so no walk ends earlier than it did.
It may go on now where it ended in nothing, and come to what was written.

**Results.**
* `settled_of_walk`: a walk from the root ends at no link.
* `walk_set`: what becomes of walks when a file is put where there is none or another.
* `read_of_write`, `read_of_write_of_eq`: what is read where something was written.
* `read_of_write_of_ne`: what is read everywhere else.
-/
namespace ScriptBuild.FileSystem

open Text.Utf8 (Bytes)

variable {files after : FileSystem} {purpose : Purpose} {links : Nat} {here place spot : Place}
  {parts : List Bytes} {path other : Path} {content old : Bytes}

theorem read_iff : files.read path = .ok content ↔
    ∃ place, files.resolve path = .ok place ∧ files.node? place = some (.file content) := by
  unfold read
  constructor
  · intro h
    split at h
    · cases h
    · rename_i place hresolve
      split at h
      · cases h
        exact ⟨place, hresolve, by assumption⟩
      · cases h
      · cases h
  · rintro ⟨place, hresolve, hnode⟩
    simp [hresolve, hnode]

/-! ## Where a walk can end -/

/-- Directories lead to a place, and it is no link. -/
structure Settled (files : FileSystem) (place : Place) : Prop where
  above : ∀ upper, upper <+: place → upper ≠ place → files.node? upper = some .directory
  noLink : ∀ target, files.node? place ≠ some (.link target)

namespace Settled

theorem of_directories (h : ∀ upper, upper <+: here → files.node? upper = some .directory) :
    files.Settled here where
  above upper hupper _ := h upper hupper
  noLink target := by simp [h here List.prefix_rfl]

theorem directories (h : files.Settled here) (hdir : files.node? here = some .directory) :
    ∀ upper, upper <+: here → files.node? upper = some .directory := by
  intro upper hupper
  by_cases heq : upper = here
  · rw [heq, hdir]
  · exact h.above upper hupper heq

theorem root : files.Settled [] :=
  .of_directories fun upper hupper => by simp [List.prefix_nil.mp hupper]

theorem down {name : Bytes} (h : files.Settled here) (hdir : files.node? here = some .directory)
    (hlink : ∀ target, files.node? (here ++ [name]) ≠ some (.link target)) :
    files.Settled (here ++ [name]) where
  above upper hupper hne := by
    rcases List.prefix_concat_iff.mp hupper with heq | hupper
    · exact absurd heq hne
    · exact h.directories hdir upper hupper
  noLink := hlink

end Settled

/-- A walk from the root ends at no link. -/
theorem settled_of_walk (h : files.walk purpose links here parts = .ok place)
    (hhere : files.Settled here) : files.Settled place := by
  fun_induction FileSystem.walk files purpose links here parts with
  | case1 links here =>
    cases h
    exact hhere
  | case5 links here part rest hdir hidle ih => exact ih h hhere
  | case6 links here rest hdir hidle ih =>
    -- Going up only leads to a place above, and there are directories.
    refine ih h (.of_directories fun upper hupper => ?_)
    exact hhere.directories hdir upper (hupper.trans (List.dropLast_prefix _))
  | case9 links here part rest hdir hvisible hdown hrefusal hnone hname hwrite =>
    cases h
    exact hhere.down hdir fun target => by simp [hnone]
  | case12 here part rest hdir hvisible hdown hrefusal target hlink links ih =>
    refine ih (by simpa using h) ?_
    split
    · exact .root
    · exact hhere
  | case13 links here part rest hdir hvisible hdown hrefusal node hlink hnode ih =>
    refine ih h (hhere.down hdir fun target heq => ?_)
    exact hlink target (Option.some.inj (hnode.symm.trans heq))
  | _ => cases h

/-! ## A file where there is none or another -/

/-- Nothing is at a place, or a file. -/
def TakesFile (files : FileSystem) (spot : Place) : Prop :=
  files.node? spot = none ∨ ∃ old, files.node? spot = some (.file old)

theorem TakesFile.node?_set {node : Node} (h : files.TakesFile spot)
    (hnode : files.node? place = some node) (hfile : ∀ content, node ≠ .file content) :
    (files.set spot (.file content)).node? place = some node := by
  have hne : place ≠ spot := by
    rintro rfl
    rcases h with hnone | ⟨old, hold⟩
    · simp [hnone] at hnode
    · exact hfile old (Option.some.inj (hnode.symm.trans hold))
  rw [node?_set_of_ne hne, hnode]

theorem node?_set_noLink {node : Node} (hne : spot ≠ []) (content : Bytes)
    (hnode : files.node? place = some node) (hlink : ∀ target, node ≠ .link target) :
    ∃ node', (files.set spot (.file content)).node? place = some node' ∧
      ∀ target, node' ≠ .link target := by
  by_cases heq : place = spot
  · subst heq
    exact ⟨.file content, node?_set_self hne _, by simp⟩
  · exact ⟨node, by rw [node?_set_of_ne heq, hnode], hlink⟩

/-- A walk to what exists still comes there, and the walk to what is written comes there now. -/
theorem walk_set (hspot : files.TakesFile spot) (hne : spot ≠ [])
    (hplace : purpose = .use ∨ place = spot)
    (h : files.walk purpose links here parts = .ok place) :
    (files.set spot (.file content)).walk .use links here parts = .ok place := by
  fun_induction FileSystem.walk files purpose links here parts with
  | case1 links here =>
    cases h
    rw [FileSystem.walk]
  | case5 links here part rest hdir hidle ih =>
    exact (walk_of_idle (hspot.node?_set hdir (by simp)) hidle).trans (ih h)
  | case6 links here rest hdir hidle ih =>
    exact (walk_of_up (hspot.node?_set hdir (by simp))).trans (ih h)
  | case9 links here part rest hdir hvisible hdown hrefusal hnone hname hwrite =>
    -- The walk ended where nothing was. Now the file is there, and the walk goes on to it.
    obtain ⟨hpurpose, rfl⟩ := hwrite
    obtain rfl : place = spot := hplace.resolve_left (by simp [hpurpose])
    cases h
    rw [walk_of_node (hspot.node?_set hdir (by simp)) hvisible hdown rfl (node?_set_self hne _)
      (by simp), FileSystem.walk]
  | case12 here part rest hdir hvisible hdown hrefusal target hlink links ih =>
    rw [walk_of_link (hspot.node?_set hdir (by simp)) hvisible hdown rfl
      (hspot.node?_set hlink (by simp))]
    simpa using ih (by simpa using h)
  | case13 links here part rest hdir hvisible hdown hrefusal node hlink hnode ih =>
    obtain ⟨node', hnode', hlink'⟩ := node?_set_noLink hne content hnode hlink
    exact (walk_of_node (hspot.node?_set hdir (by simp)) hvisible hdown rfl hnode' hlink').trans
      (ih h)
  | _ => cases h

theorem resolve_set (hspot : files.TakesFile spot) (hne : spot ≠ [])
    (hresolve : files.resolve other = .ok place) :
    (files.set spot (.file content)).resolve other = .ok place := by
  obtain ⟨hfit, hwalk⟩ := (locate_iff (by decide)).mp hresolve
  exact (locate_iff (by decide)).mpr ⟨hfit, walk_set hspot hne (.inl rfl) hwalk⟩

theorem resolve_set_self (hspot : files.TakesFile spot) (hne : spot ≠ [])
    (hlocate : files.locate .write path = .ok spot) :
    (files.set spot (.file content)).resolve path = .ok spot := by
  obtain ⟨hfit, hwalk⟩ := (locate_iff (by decide)).mp hlocate
  exact (locate_iff (by decide)).mpr ⟨hfit, walk_set hspot hne (.inr rfl) hwalk⟩

/-! ## Writing -/

theorem write_eq (h : files.write path content = .ok after) (habsolute : path.isAbsolute = true) :
    ∃ spot, files.locate .write path = .ok spot ∧ spot ≠ [] ∧ files.TakesFile spot ∧
      after = files.set spot (.file content) := by
  unfold write at h
  cases hlocate : files.locate .write path with
  | error cause => simp [hlocate] at h
  | ok spot =>
    rw [hlocate] at h
    have hwalk := ((locate_iff (by decide)).mp hlocate).2
    rw [if_pos habsolute] at hwalk
    have hlink := (settled_of_walk hwalk .root).noLink
    refine ⟨spot, rfl, ?_, ?_, ?_⟩
    · rintro rfl
      simp at h
    · cases hnode : files.node? spot with
      | none => exact .inl hnode
      | some node =>
        cases node with
        | file old => exact .inr ⟨old, hnode⟩
        | directory => simp [hnode] at h
        | link target => exact absurd hnode (hlink target)
    · simp only at h
      split at h
      · cases h
      · exact (Except.ok.inj h).symm

theorem resolve_of_write (h : files.write path content = .ok after)
    (habsolute : path.isAbsolute = true) (hresolve : files.resolve other = .ok place) :
    after.resolve other = .ok place := by
  obtain ⟨spot, -, hne, hspot, rfl⟩ := write_eq h habsolute
  exact resolve_set hspot hne hresolve

theorem exists_spot_of_write (h : files.write path content = .ok after)
    (habsolute : path.isAbsolute = true) :
    ∃ spot, files.locate .write path = .ok spot ∧ after.resolve path = .ok spot ∧
      after.node? spot = some (.file content) ∧
      ∀ place, place ≠ spot → after.node? place = files.node? place := by
  obtain ⟨spot, hlocate, hne, hspot, rfl⟩ := write_eq h habsolute
  exact ⟨spot, hlocate, resolve_set_self hspot hne hlocate, node?_set_self hne _,
    fun place hother => node?_set_of_ne hother _⟩

theorem read_of_write (h : files.write path content = .ok after)
    (habsolute : path.isAbsolute = true) : after.read path = .ok content := by
  obtain ⟨spot, -, hresolve, hnode, -⟩ := exists_spot_of_write h habsolute
  exact read_iff.mpr ⟨spot, hresolve, hnode⟩

/-- Every path that led to the file that is written leads to what is written. -/
theorem read_of_write_of_eq (h : files.write path content = .ok after)
    (habsolute : path.isAbsolute = true) (hresolve : files.resolve other = .ok place)
    (heq : files.resolve other = files.resolve path) : after.read other = .ok content := by
  obtain ⟨spot, -, hspot, hnode, -⟩ := exists_spot_of_write h habsolute
  have hother : after.resolve other = .ok place := resolve_of_write h habsolute hresolve
  have hpath : after.resolve path = .ok place :=
    resolve_of_write h habsolute (heq.symm.trans hresolve)
  obtain rfl : spot = place := Except.ok.inj (hspot.symm.trans hpath)
  exact read_iff.mpr ⟨spot, hother, hnode⟩

/-- Every other path leads to what it led to. -/
theorem read_of_write_of_ne (h : files.write path content = .ok after)
    (habsolute : path.isAbsolute = true) (hread : files.read other = .ok old)
    (hne : files.resolve other ≠ files.resolve path) : after.read other = .ok old := by
  obtain ⟨spot, hlocate, -, -, helsewhere⟩ := exists_spot_of_write h habsolute
  obtain ⟨place, hresolve, hnode⟩ := read_iff.mp hread
  have hplace : place ≠ spot := by
    rintro rfl
    have hpath := resolve_of_locate_write hlocate (by simp [hnode])
    exact hne (hresolve.trans hpath.symm)
  refine read_iff.mpr ⟨place, resolve_of_write h habsolute hresolve, ?_⟩
  rw [helsewhere place hplace, hnode]

end ScriptBuild.FileSystem
