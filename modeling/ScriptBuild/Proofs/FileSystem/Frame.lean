import ScriptBuild.Proofs.FileSystem.Walk

/-!
# What a change at one place leaves as it is

Writing and removing change one place, where a file or nothing is afterwards. A path that leads
elsewhere afterwards did so before, because no walk goes on from a file or from nothing.

`ChangedAt` leaves open whether anything changed at the place, and which of the two happened if so.
That is what writing, removing, and a program that does either have in common, and it is all that
the lemmas on walks need. A change to a directory or a link is not covered, since paths that lead
through it would lead elsewhere.

A frame lemma goes from the tree afterwards to the tree before. The other direction has an
exception, because a path may have led to what was removed; it is there for changes that can be
undone (`Proofs.FileSystem.Removal`).

**Results.**
* `ChangedAt.resolve`: a path that leads elsewhere afterwards led there before.
* `resolve_of_locate_write`, `resolve_of_entry`: what is written over or removed is what the path
  denoted.
* `changedAt_of_write`: writing changes one place.
* `entry_iff`: an entry is a name in a directory.
* `node?_remove`: removing leaves a file as it is, unless the path denoted it.
-/
namespace ScriptBuild.FileSystem

open Text.Utf8 (Bytes)

variable {files after : FileSystem} {purpose : Purpose} {links : Nat} {here place spot : Place}
  {parts : List Bytes} {path : Path} {content : Bytes}

/-- Only at one place can `after` differ from `files`. If it does, a file is there or nothing. -/
structure ChangedAt (files after : FileSystem) (spot : Place) : Prop where
  cwd : after.cwd = files.cwd
  elsewhere : ∀ place, place ≠ spot → after.node? place = files.node? place
  spot : after.node? spot = files.node? spot ∨ after.node? spot = none ∨
    ∃ content, after.node? spot = some (.file content)

namespace ChangedAt

theorem of_same (hcwd : after.cwd = files.cwd)
    (hsame : ∀ place, after.node? place = files.node? place) : ChangedAt files after spot where
  cwd := hcwd
  elsewhere place _ := hsame place
  spot := .inl (hsame spot)

theorem node?_of_not_file {node : Node} (h : ChangedAt files after spot)
    (hnode : after.node? place = some node) (hfile : ∀ content, node ≠ .file content) :
    files.node? place = some node := by
  by_cases hne : place = spot
  · subst hne
    rcases h.spot with hsame | hnone | ⟨content, hcontent⟩
    · rw [← hsame, hnode]
    · simp [hnone] at hnode
    · rw [hcontent] at hnode
      exact absurd (Option.some.inj hnode).symm (hfile content)
  · rw [← h.elsewhere place hne, hnode]

/-- A walk that goes on from a file does not get anywhere. -/
theorem eq_of_walk_file (hfile : after.node? spot = some (.file content))
    (hwalk : after.walk purpose links spot parts = .ok place) : place = spot := by
  cases parts with
  | nil => simpa [FileSystem.walk, eq_comm] using hwalk
  | cons part parts => simp [FileSystem.walk, hfile] at hwalk

theorem walk (h : ChangedAt files after spot)
    (hwalk : after.walk purpose links here parts = .ok place) (hne : place ≠ spot) :
    files.walk purpose links here parts = .ok place := by
  fun_induction FileSystem.walk after purpose links here parts with
  | case1 links here =>
    cases hwalk
    rw [FileSystem.walk]
  | case5 links here part parts hdir hidle ih =>
    exact (walk_of_idle (h.node?_of_not_file hdir (by simp)) hidle).trans (ih hwalk)
  | case6 links here parts hdir hvisible ih =>
    exact (walk_of_up (h.node?_of_not_file hdir (by simp))).trans (ih hwalk)
  | case9 links here part parts hdir hvisible hdown hrefusal hnode hname hwrite =>
    cases hwalk
    obtain ⟨rfl, rfl⟩ := hwrite
    have hdir' := h.node?_of_not_file hdir (by simp)
    have hnode' := h.elsewhere _ hne ▸ hnode
    rw [FileSystem.walk]
    simp [hdir', hvisible, hdown, hrefusal, hnode', hname]
  | case12 here part parts hdir hvisible hdown hrefusal target hnode links ih =>
    have hdir' := h.node?_of_not_file hdir (by simp)
    have hnode' := h.node?_of_not_file hnode (by simp)
    rw [walk_of_link hdir' hvisible hdown hrefusal hnode']
    simpa using ih (by simpa using hwalk)
  | case13 links here part parts hdir hvisible hdown hrefusal node hlink hnode ih =>
    have hdir' := h.node?_of_not_file hdir (by simp)
    have hnode' : files.node? (here ++ [part]) = some node := by
      cases node with
      | file content =>
        have hspot : here ++ [part] ≠ spot := by
          rintro rfl
          exact hne (eq_of_walk_file hnode hwalk)
        rw [← h.elsewhere _ hspot, hnode]
      | _ => exact h.node?_of_not_file hnode (by simp)
    exact (walk_of_node hdir' hvisible hdown hrefusal hnode' hlink).trans (ih hwalk)
  | _ => cases hwalk

theorem locate (h : ChangedAt files after spot) (hpurpose : purpose ≠ .spell)
    (hlocate : after.locate purpose path = .ok place) (hne : place ≠ spot) :
    files.locate purpose path = .ok place := by
  obtain ⟨hfit, hwalk⟩ := (locate_iff hpurpose).mp hlocate
  rw [h.cwd] at hwalk
  exact (locate_iff hpurpose).mpr ⟨hfit, h.walk hwalk hne⟩

theorem resolve (h : ChangedAt files after spot) (hresolve : after.resolve path = .ok place)
    (hne : place ≠ spot) : files.resolve path = .ok place :=
  h.locate (by decide) hresolve hne

end ChangedAt

/-! ## Writing and removing -/

/-- What is written over is what the path denoted. -/
theorem resolve_of_locate_write (h : files.locate .write path = .ok place)
    (hnode : (files.node? place).isSome) : files.resolve path = .ok place := by
  obtain ⟨hfit, hwalk⟩ := (locate_iff (by decide)).mp h
  exact (locate_iff (by decide)).mpr ⟨hfit, walk_use_of_walk hwalk fun _ => hnode⟩

theorem changedAt_set (hne : spot ≠ []) :
    ChangedAt files (files.set spot (.file content)) spot where
  cwd := rfl
  elsewhere _ hother := node?_set_of_ne hother _
  spot := .inr (.inr ⟨content, node?_set_self hne _⟩)

/-- Writing changes one place. -/
theorem changedAt_of_write (h : files.write path content = .ok after) :
    ∃ spot, files.locate .write path = .ok spot ∧ ChangedAt files after spot := by
  unfold write at h
  cases hlocate : files.locate .write path with
  | error cause => simp [hlocate] at h
  | ok spot =>
    rw [hlocate] at h
    refine ⟨spot, rfl, ?_⟩
    have hne : spot ≠ [] := by
      rintro rfl
      simp at h
    cases hnode : files.node? spot with
    | none =>
      obtain rfl : files.set spot (.file content) = after := by simpa [hnode] using h
      exact changedAt_set hne
    | some node =>
      cases node with
      | directory => simp [hnode] at h
      | _ =>
        obtain rfl : files.set spot (.file content) = after := by simpa [hnode] using h
        exact changedAt_set hne

theorem entry_iff : files.entry path = .ok place ↔
    ∃ here name, path.parts = path.parts.dropLast ++ [name] ∧ place = here ++ [name] ∧
      ¬(name = [] ∨ name = [Path.dot]) ∧ name ≠ [Path.dot, Path.dot] ∧ 0 ∉ path.octets ∧
      path.octets.length < pathLimit ∧ files.node? here = some .directory ∧
      files.walk .use linkLimit (if path.isAbsolute then [] else files.cwd) path.parts.dropLast =
        .ok here := by
  constructor
  · intro h
    unfold entry at h
    split at h
    · cases h
    · rename_i name hlast
      split at h
      · cases h
      · rename_i hzero
        split at h
        · cases h
        · rename_i hshort
          split at h
          · cases h
          · rename_i hname
            split at h
            · rename_i here hwalk
              split at h
              · rename_i hdir
                cases h
                obtain ⟨front, hfront⟩ := List.getLast?_eq_some_iff.mp hlast
                simp only [not_or] at hname
                exact ⟨here, name, by simp [hfront], rfl, not_or.mpr ⟨hname.1, hname.2.1⟩,
                  hname.2.2, by simpa using hzero, Nat.lt_of_not_le hshort, hdir, hwalk⟩
              · cases h
            · cases h
  · rintro ⟨here, name, hparts, rfl, hvisible, hdown, hzero, hshort, hdir, hwalk⟩
    have hlast : path.parts.getLast? = some name := by rw [hparts, List.getLast?_concat]
    have hname : ¬(name = [] ∨ name = [Path.dot] ∨ name = [Path.dot, Path.dot]) := by
      simp only [not_or] at hvisible ⊢
      exact ⟨hvisible.1, hvisible.2, hdown⟩
    unfold entry
    simp only [hlast]
    rw [if_neg (by simpa using hzero), if_neg (Nat.not_le.mpr hshort), if_neg hname, hwalk]
    simp only
    rw [if_pos hdir]

/-- A file that is removed is what the path denoted. -/
theorem resolve_of_entry (h : files.entry path = .ok place)
    (hfile : files.node? place = some (.file content)) : files.resolve path = .ok place := by
  obtain ⟨here, name, hparts, rfl, hvisible, hdown, hzero, hshort, hdir, hwalk⟩ :=
    entry_iff.mp h
  have hempty : path.octets.isEmpty = false := by
    cases hoctets : path.octets with
    | cons octet rest => rfl
    | nil =>
      -- The empty path has one empty part.
      have hname : name = [] := by simpa [Path.parts, hoctets, Text.cutAll] using hparts
      exact absurd (.inl hname) hvisible
  obtain ⟨left, hleft⟩ : ∃ left, files.walk .use linkLimit
      (if path.isAbsolute then [] else files.cwd) (path.parts.dropLast ++ [name]) =
        files.walk .use left here [name] := walk_append hwalk
  refine (locate_iff (by decide)).mpr ⟨⟨hempty, hzero, hshort⟩, ?_⟩
  rw [hparts, hleft, walk_of_node hdir hvisible hdown rfl hfile (by simp), walk]

theorem remove_of_entry {node : Node} (h : files.entry path = .ok place)
    (hnode : files.node? place = some node) (hdir : node ≠ .directory) :
    files.remove path = files.erase place := by
  unfold remove
  cases node with
  | directory => exact absurd rfl hdir
  | _ => simp [h, hnode]

theorem node?_remove (hfile : files.node? place = some (.file content))
    (hother : files.resolve path ≠ .ok place) :
    (files.remove path).node? place = some (.file content) := by
  cases hentry : files.entry path with
  | error cause => simpa [remove, hentry] using hfile
  | ok spot =>
    have hne : place ≠ spot := by
      rintro rfl
      exact hother (resolve_of_entry hentry hfile)
    unfold remove
    simp only [hentry]
    split
    · rwa [node?_erase_of_ne hne]
    · rwa [node?_erase_of_ne hne]
    · exact hfile

end ScriptBuild.FileSystem
