import ScriptBuild.FileSystem.Temporary
import ScriptBuild.Proofs.FileSystem.Canonical
import ScriptBuild.Proofs.FileSystem.Writing

/-!
# What is made and removed again

A file that is made where nothing stood, and removed by the path it was made by, leaves the tree as
it was. What comes in between may change files, but neither a directory nor a link: then the path
still names the entry it named when the file was made.

Trees are the same if every place has the same node and the working directory is the same (`Same`);
in which order the entries were made is not seen. Nothing that is defined for trees tells two such
apart.

What is used of a path between making and removing is its entry: the directory that the path without
its last name leads to, and that name. Files play no part on the way there. So an entry stays
through any change of files, while what a path leads to may well change, and everything that is
removed here is removed as an entry.

A path whose last name is a sign for staying or for going up has no entry, and neither has one with
a slash at its end; `Proper` excludes the names, and units and temporary files have names that end
in letters.

**Results.**
* `ChangedAt.symm`: a change of a file can be seen from either side.
* `exists_directory_of_walk`: a walk comes to the directory that its last name is looked up in.
* `entry_of_locate`: a path leads to its own entry, unless a link stands there.
* `same_remove`: removing a file that was made where nothing stood gives back the tree.
* `changedAt_remove_of_ne`: so it does but for a file that was written meanwhile.
-/
namespace ScriptBuild

open Text.Utf8 (Bytes)

namespace Text

/-- What is added goes to the last part, if no separator is in it. -/
theorem exists_last_of_cutAll_append {α : Type} [DecidableEq α] {sep : α} {suffix : List α}
    (h : sep ∉ suffix) (cs : List α) :
    ∃ front last, cutAll sep cs = front ++ [last] ∧
      cutAll sep (cs ++ suffix) = front ++ [last ++ suffix] := by
  induction cs with
  | nil =>
    refine ⟨[], [], rfl, ?_⟩
    simpa [cutAll_eq_splitOn] using List.splitOn_eq_singleton h
  | cons c cs ih =>
    obtain ⟨front, last, hcs, happend⟩ := ih
    have hcons : ∀ rest, cutAll sep (c :: rest) = consPart sep c (cutAll sep rest) := fun _ => rfl
    rw [List.cons_append, hcons, hcons, hcs, happend]
    by_cases hc : c = sep
    · exact ⟨[] :: front, last, by simp [consPart, hc], by simp [consPart, hc]⟩
    · cases front with
      | nil => exact ⟨[], c :: last, by simp [consPart, hc], by simp [consPart, hc]⟩
      | cons part front =>
        exact ⟨(c :: part) :: front, last, by simp [consPart, hc], by simp [consPart, hc]⟩

end Text

theorem Path.parts_append {suffix : Bytes} (h : Path.slash ∉ suffix) (path : Path) :
    ∃ front last, (path.append suffix).parts = front ++ [last ++ suffix] := by
  obtain ⟨front, last, -, happend⟩ := Text.exists_last_of_cutAll_append h path.octets
  exact ⟨front, last, happend⟩

theorem Place.path_append (place : Place) (name suffix : Bytes) :
    Place.path (place ++ [name ++ suffix]) = (Place.path (place ++ [name])).append suffix := by
  have hlast : [Path.slash].intercalate (place ++ [name ++ suffix]) =
      [Path.slash].intercalate (place ++ [name]) ++ suffix := by
    induction place with
    | nil => simp
    | cons part place ih =>
      cases place with
      | nil => simp [List.intercalate_cons_cons]
      | cons other place =>
        simp only [List.cons_append, List.intercalate_cons_cons, List.append_assoc] at ih ⊢
        rw [ih]
  simp [Place.path, Path.append, hlast]

namespace FileSystem

variable {files between after : FileSystem} {purpose : Purpose} {links : Nat}
  {here place spot : Place} {parts rest front : List Bytes} {path : Path} {name : Bytes}
  {content : Bytes}

/-- The same tree, seen from the same working directory. -/
structure Same (files after : FileSystem) : Prop where
  cwd : after.cwd = files.cwd
  tree : ∀ place, after.node? place = files.node? place

namespace Same

theorem refl (files : FileSystem) : Same files files := ⟨rfl, fun _ => rfl⟩

theorem changedAt (h : Same files after) : ChangedAt files after spot := .of_same h.cwd h.tree

end Same

/-- The same tree, but for the file that a path is for when it is written. -/
def SameBut (files after : FileSystem) (path : Path) : Prop :=
  Same files after ∨ ∃ spot, files.locate .write path = .ok spot ∧ files.TakesFile spot ∧
    ChangedAt files after spot

/-- Nothing stands at a path, not even a link. -/
def Vacant (files : FileSystem) (path : Path) : Prop :=
  ∀ place, files.entry path = .ok place → files.node? place = none

/-! ## There and back -/

theorem TakesFile.ne_directory (h : files.TakesFile spot) : files.node? spot ≠ some .directory := by
  rcases h with hnone | ⟨old, hold⟩
  · simp [hnone]
  · simp [hold]

theorem TakesFile.ne_root (h : files.TakesFile spot) : spot ≠ [] := by
  rintro rfl
  exact h.ne_directory rfl

namespace ChangedAt

theorem takesFile (h : ChangedAt files after spot) (hspot : files.TakesFile spot) :
    after.TakesFile spot := by
  rcases h.spot with hsame | hnone | hfile
  · simpa only [TakesFile, hsame] using hspot
  · exact .inl hnone
  · exact .inr hfile

theorem symm (h : ChangedAt files after spot) (hspot : files.TakesFile spot) :
    ChangedAt after files spot where
  cwd := h.cwd.symm
  elsewhere place hne := (h.elsewhere place hne).symm
  spot := .inr hspot

theorem trans (h : ChangedAt files between spot) (h' : ChangedAt between after spot) :
    ChangedAt files after spot where
  cwd := h'.cwd.trans h.cwd
  elsewhere place hne := (h'.elsewhere place hne).trans (h.elsewhere place hne)
  spot := by
    rcases h'.spot with hsame | hchanged
    · rw [hsame]
      exact h.spot
    · exact .inr hchanged

theorem locate_spell (h : ChangedAt files after spot)
    (hlocate : after.locate .spell path = .ok place) (hne : place ≠ spot) :
    files.locate .spell path = .ok place := by
  unfold FileSystem.locate at hlocate ⊢
  rw [if_pos rfl, h.cwd] at hlocate
  rw [if_pos rfl]
  split at hlocate
  · cases hlocate
  · rw [if_neg ‹_›]
    split at hlocate
    · cases hlocate
    · rw [if_neg ‹_›]
      exact h.walk hlocate hne

/-- Only directories and links lead to an entry, so it is there before and afterwards. -/
theorem entry (h : ChangedAt files after spot) (hspot : after.node? spot ≠ some .directory)
    (hentry : after.entry path = .ok place) : files.entry path = .ok place := by
  obtain ⟨here, name, hparts, hplace, hvisible, hdown, hzero, hshort, hdir, hwalk⟩ :=
    entry_iff.mp hentry
  have hne : here ≠ spot := by
    rintro rfl
    exact hspot hdir
  rw [h.cwd] at hwalk
  exact entry_iff.mpr ⟨here, name, hparts, hplace, hvisible, hdown, hzero, hshort,
    h.elsewhere here hne ▸ hdir, h.walk hwalk hne⟩

end ChangedAt

theorem Vacant.of_changedAt (h : files.Vacant path) (hchanged : ChangedAt files after spot)
    (hspot : files.TakesFile spot) (hne : files.entry path ≠ .ok spot) : after.Vacant path := by
  intro place hentry
  have hentry' := hchanged.entry (hchanged.takesFile hspot).ne_directory hentry
  have hplace : place ≠ spot := by
    rintro rfl
    exact hne hentry'
  rw [hchanged.elsewhere place hplace, h place hentry']

theorem Same.sameShape (h : Same files after) : SameShape files after where
  cwd := h.cwd
  shape place := congrArg _ (h.tree place)

theorem Vacant.of_same (h : files.Vacant path) (hsame : Same files after) : after.Vacant path := by
  intro place hentry
  rw [hsame.tree, h place (hsame.sameShape.entry path ▸ hentry)]

/-! ## Where a file is written -/

theorem refusal?_of_walk {part : Bytes} (hdir : files.node? here = some .directory)
    (hvisible : ¬(part = [] ∨ part = [Path.dot])) (hdown : part ≠ [Path.dot, Path.dot])
    (hwalk : files.walk purpose links here (part :: rest) = .ok place) :
    refusal? purpose here part rest = none := by
  rw [walk] at hwalk
  simp only [hdir, if_neg hvisible, if_neg hdown] at hwalk
  split at hwalk
  · cases hwalk
  · assumption

theorem directory_of_walk {part : Bytes}
    (hwalk : files.walk purpose links here (part :: rest) = .ok place) :
    files.node? here = some .directory := by
  rw [walk] at hwalk
  split at hwalk
  · cases hwalk
  · cases hwalk
  · cases hwalk
  · assumption

theorem exists_directory_of_walk
    (hwalk : files.walk purpose links here (front ++ [name]) = .ok place) :
    ∃ upper left, files.walk .use links here front = .ok upper ∧
      files.node? upper = some .directory ∧ files.walk purpose left upper [name] = .ok place := by
  fun_induction walk files .use links here front with
  | case1 links here => exact ⟨here, links, rfl, directory_of_walk hwalk, hwalk⟩
  | case5 links here part front hdir hidle ih =>
    exact ih ((walk_of_idle hdir hidle).symm.trans hwalk)
  | case6 links here front hdir hvisible ih => exact ih ((walk_of_up hdir).symm.trans hwalk)
  | case12 here part front hdir hvisible hdown hrefusal target hlink links ih =>
    have hrefusal : refusal? purpose here part (front ++ [name]) = none :=
      refusal?_of_walk hdir hvisible hdown hwalk
    rw [List.cons_append, walk_of_link hdir hvisible hdown hrefusal hlink] at hwalk
    simpa using ih (by simpa using hwalk)
  | case13 links here part front hdir hvisible hdown hrefusal node hlink hnode ih =>
    have hrefusal : refusal? purpose here part (front ++ [name]) = none :=
      refusal?_of_walk hdir hvisible hdown hwalk
    exact ih ((walk_of_node hdir hvisible hdown hrefusal hnode hlink).symm.trans hwalk)
  -- Where the walk for using fails, this one has failed too.
  | case2 links here part front hdir => simp [walk, hdir] at hwalk
  | case3 links here part front content hdir => simp [walk, hdir] at hwalk
  | case4 links here part front target hdir => simp [walk, hdir] at hwalk
  | case7 links here part front hdir hvisible hdown error hrefusal => cases hrefusal
  | case8 links here part front hdir hvisible hdown hrefusal hnone hname =>
    have hrefusal : refusal? purpose here part (front ++ [name]) = none :=
      refusal?_of_walk hdir hvisible hdown hwalk
    simp [walk, hdir, hvisible, hdown, hrefusal, hnone, hname] at hwalk
  | case9 links here part front hdir hvisible hdown hrefusal hnone hname hpurpose =>
    exact absurd hpurpose.1 (by decide)
  | case10 links here part front hdir hvisible hdown hrefusal hnone hname hpurpose =>
    have hrefusal : refusal? purpose here part (front ++ [name]) = none :=
      refusal?_of_walk hdir hvisible hdown hwalk
    simp [walk, hdir, hvisible, hdown, hrefusal, hnone, hname] at hwalk
  | case11 here part front hdir hvisible hdown hrefusal target hlink =>
    have hrefusal : refusal? purpose here part (front ++ [name]) = none :=
      refusal?_of_walk hdir hvisible hdown hwalk
    simp [walk, hdir, hvisible, hdown, hrefusal, hlink] at hwalk

/-- A name can be in a directory. -/
structure Proper (name : Bytes) : Prop where
  visible : ¬(name = [] ∨ name = [Path.dot])
  down : name ≠ [Path.dot, Path.dot]

theorem Proper.of_length (h : 2 < name.length) : Proper name where
  visible := by
    rintro (rfl | rfl)
    · exact absurd h (by decide)
    · exact absurd h (by decide)
  down := by
    rintro rfl
    exact absurd h (by decide)

theorem name_of_entry {suffix : Bytes} (hentry : files.entry (path.append suffix) = .ok place)
    (hslash : Path.slash ∉ suffix) : ∃ here last, place = here ++ [last ++ suffix] := by
  obtain ⟨here, name, hparts, rfl, -⟩ := entry_iff.mp hentry
  obtain ⟨front, last, happend⟩ := Path.parts_append hslash path
  rw [happend, List.dropLast_concat] at hparts
  obtain rfl : last ++ suffix = name := by simpa using hparts
  exact ⟨here, last, rfl⟩

/-- A path leads to its own entry, unless a link stands there. -/
theorem entry_of_locate (hpurpose : purpose ≠ .spell)
    (hlocate : files.locate purpose path = .ok place)
    (hparts : path.parts = front ++ [name]) (hname : Proper name) :
    ∃ spot, files.entry path = .ok spot ∧
      ((∀ target, files.node? spot ≠ some (.link target)) → place = spot) := by
  obtain ⟨⟨-, hzero, hshort⟩, hwalk⟩ := (locate_iff hpurpose).mp hlocate
  rw [hparts] at hwalk
  obtain ⟨upper, left, huse, hdir, hlast⟩ := exists_directory_of_walk hwalk
  refine ⟨upper ++ [name], entry_iff.mpr ⟨upper, name, ?_⟩, fun hlink => ?_⟩
  · rw [hparts, List.dropLast_concat]
    exact ⟨rfl, rfl, hname.visible, hname.down, hzero, hshort, hdir, huse⟩
  · rw [walk] at hlast
    simp only [hdir, if_neg hname.visible, if_neg hname.down] at hlast
    split at hlast
    · cases hlast
    · split at hlast
      · split at hlast
        · cases hlast
        · split at hlast
          · exact (Except.ok.inj hlast).symm
          · cases hlast
      · exact absurd ‹_› (hlink _)
      · simpa [walk, eq_comm] using hlast

/-- What is written at a path where nothing stands is there as its entry. -/
theorem changedAt_of_vacant (h : files.write path content = .ok after) (hvacant : files.Vacant path)
    (hparts : path.parts = front ++ [name]) (hname : Proper name) :
    ∃ spot, files.entry path = .ok spot ∧ files.node? spot = none ∧ ChangedAt files after spot := by
  obtain ⟨place, hlocate, hchanged⟩ := changedAt_of_write h
  obtain ⟨spot, hentry, hspot⟩ := entry_of_locate (by decide) hlocate hparts hname
  have hfree : files.node? spot = none := hvacant spot hentry
  obtain rfl : place = spot := hspot fun target => by simp [hfree]
  exact ⟨place, hentry, hfree, hchanged⟩

theorem SameBut.changedAt (h : SameBut files after path) (hentry : files.entry path = .ok spot)
    (hspot : files.TakesFile spot) : ChangedAt files after spot := by
  rcases h with hsame | ⟨place, hlocate, -, hchanged⟩
  · exact hsame.changedAt
  · obtain ⟨here, name, hparts, -, hvisible, hdown, -⟩ := entry_iff.mp hentry
    obtain ⟨spot', hentry', hplace⟩ := entry_of_locate (by decide) hlocate hparts ⟨hvisible, hdown⟩
    obtain rfl : spot = spot' := Except.ok.inj (hentry.symm.trans hentry')
    have hlink : ∀ target, files.node? spot ≠ some (.link target) := by
      intro target
      rcases hspot with hnone | ⟨old, hold⟩
      · simp [hnone]
      · simp [hold]
    exact hplace hlink ▸ hchanged

/-! ## Removing -/

theorem remove_of_vacant (h : files.Vacant path) : files.remove path = files := by
  unfold remove
  split
  · rfl
  · rename_i place hentry
    simp [h place hentry]

/-- Removing a file, or nothing, changes one place, and nothing is there afterwards. -/
theorem changedAt_remove (hentry : files.entry path = .ok spot) (hspot : files.TakesFile spot) :
    ChangedAt files (files.remove path) spot ∧ (files.remove path).node? spot = none := by
  rcases hspot with hnone | ⟨old, hold⟩
  · have hvacant : files.Vacant path := by
      intro place hplace
      obtain rfl : spot = place := Except.ok.inj (hentry.symm.trans hplace)
      exact hnone
    rw [remove_of_vacant hvacant]
    exact ⟨.of_same rfl fun _ => rfl, hnone⟩
  · have hne : spot ≠ [] := TakesFile.ne_root (.inr ⟨old, hold⟩)
    rw [remove_of_entry hentry hold (by simp)]
    exact ⟨⟨rfl, fun place hother => node?_erase_of_ne hother, .inr (.inl (node?_erase_self hne))⟩,
      node?_erase_self hne⟩

/-- Removing a file that was made where nothing stood gives back the tree. -/
theorem same_remove (hentry : files.entry path = .ok spot) (hfree : files.node? spot = none)
    (hchanged : ChangedAt files after spot) : Same files (after.remove path) := by
  have hspot : after.TakesFile spot := hchanged.takesFile (.inl hfree)
  have hentry' : after.entry path = .ok spot :=
    (hchanged.symm (.inl hfree)).entry (by simp [hfree]) hentry
  obtain ⟨hremoved, hnone⟩ := changedAt_remove hentry' hspot
  have hwhole := hchanged.trans hremoved
  refine ⟨hwhole.cwd, fun place => ?_⟩
  by_cases hne : place = spot
  · rw [hne, hnone, hfree]
  · exact hwhole.elsewhere place hne

/-- So it does if another file was written meanwhile, but for that file. -/
theorem changedAt_remove_of_ne {other : Place} (hentry : files.entry path = .ok spot)
    (hfree : files.node? spot = none) (hmade : ChangedAt files between spot)
    (hchanged : ChangedAt between after other) (hother : between.TakesFile other)
    (hne : other ≠ spot) : ChangedAt files (after.remove path) other := by
  have hbetween : between.entry path = .ok spot :=
    (hmade.symm (.inl hfree)).entry (by simp [hfree]) hentry
  have hafter : after.entry path = .ok spot :=
    (hchanged.symm hother).entry hother.ne_directory hbetween
  have hspot : after.TakesFile spot := by
    have := hmade.takesFile (.inl hfree)
    simpa only [TakesFile, hchanged.elsewhere spot hne.symm] using this
  obtain ⟨hremoved, hnone⟩ := changedAt_remove hafter hspot
  refine ⟨hremoved.cwd.trans (hchanged.cwd.trans hmade.cwd), fun place hplace => ?_, ?_⟩
  · by_cases heq : place = spot
    · rw [heq, hnone, hfree]
    · rw [hremoved.elsewhere place heq, hchanged.elsewhere place hplace,
        hmade.elsewhere place heq]
  · rw [hremoved.elsewhere other hne, ← hmade.elsewhere other hne]
    exact hchanged.spot

end FileSystem

end ScriptBuild
