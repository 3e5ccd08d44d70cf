import ScriptBuild.Proofs.FileSystem.Addition

/-!
# Idle parts

An empty part or a dot in a path stays where it is, if that is a directory. So leaving such parts
out takes nothing from a walk that comes to its end, and a path that is made absolute as it is
written leads where it led, if it led anywhere.

A path that could not be spelled out before a file was made can lead to that file afterwards, but
then what is made of it as it is written leads there too. So where that was another file, the full
path stays.

The two ways of making a path absolute do not agree on what they keep. Spelling out follows links
and goes up, and asks for everything to be there; making absolute as it is written only puts the
working directory in front and drops idle parts, so it never fails and may give a path that leads
elsewhere or nowhere. What is shown is that where the second leads anywhere, it leads where the
first does. The converse fails at a slash behind a file's name.

The induction is on the walk, part by part. A part that is left out has to be one at which the walk
stays, so the walk is in a directory then, and goes on with the same links left.

**Results.**
* `walk_of_leavesOut`: a walk that comes to its end does so without its idle parts.
* `names_absolute`: making a path absolute as it is written leaves out idle parts only.
* `fullPath_of_made_of_isFile`: a full path that is a file stays that when another file is made.
-/
namespace ScriptBuild

open Text.Utf8 (Bytes)

namespace Path

theorem names_slash (front back : Bytes) :
    (⟨front ++ slash :: back⟩ : Path).names = (⟨front⟩ : Path).names ++ (⟨back⟩ : Path).names := by
  simp only [names, parts_slash, List.filter_append]

theorem names_empty : (⟨[]⟩ : Path).names = [] := by
  decide

theorem names_push (base inner : Bytes) :
    (⟨push base inner⟩ : Path).names = (⟨base⟩ : Path).names ++ (⟨inner⟩ : Path).names := by
  by_cases hempty : base = []
  · subst hempty
    simp [push, names_empty]
  · by_cases hslash : base.getLast? = some slash
    · obtain ⟨front, rfl⟩ := List.getLast?_eq_some_iff.mp hslash
      have hpush : push (front ++ [slash]) inner = front ++ slash :: inner := by simp [push]
      rw [hpush, names_slash, names_slash, names_empty, List.append_nil]
    · have hpush : push base inner = base ++ slash :: inner := by simp [push, hempty, hslash]
      rw [hpush, names_slash]

theorem names_of_mem_names {path : Path} {name : Bytes} (h : name ∈ path.names) :
    (⟨name⟩ : Path).names = [name] := by
  obtain ⟨hpart, hvisible⟩ := List.mem_filter.mp h
  have hparts : (⟨name⟩ : Path).parts = [name] := by
    rw [parts, Text.cutAll_eq_splitOn]
    exact List.splitOn_eq_singleton (slash_notMem_of_mem_parts hpart)
  rw [names, hparts]
  exact List.filter_eq_self.mpr fun part hpart => List.mem_singleton.mp hpart ▸ hvisible

theorem names_foldl_push {path : Path} {names : List Bytes} (h : names ⊆ path.names)
    (start : Bytes) :
    (⟨names.foldl push start⟩ : Path).names = (⟨start⟩ : Path).names ++ names := by
  induction names generalizing start with
  | nil => simp
  | cons name rest ih =>
    rw [List.foldl_cons, ih (List.subset_of_cons_subset h), names_push,
      names_of_mem_names (h List.mem_cons_self), List.append_assoc, List.singleton_append]

/-- Making a path absolute as it is written leaves out idle parts only. -/
theorem names_absolute {cwd path : Path} (hpath : path.octets.isEmpty = false) :
    (absolute cwd path).names = (cwd.join path).names := by
  have hclose : ∀ full : Bytes,
      (⟨if path.octets.getLast? == some slash then push full [] else full⟩ : Path).names =
        (⟨full⟩ : Path).names := by
    intro full
    split
    · simp [names_push, names_empty]
    · rfl
  unfold absolute
  rw [if_neg (by simp [hpath])]
  refine (hclose _).trans ((names_foldl_push (List.Subset.refl path.names) _).trans ?_)
  cases habsolute : path.isAbsolute with
  | true =>
    rw [join_absolute habsolute, if_pos rfl]
    split <;> rfl
  | false =>
    rw [if_neg (by simp), join, if_neg (by simp [habsolute]), names_push]

end Path

namespace FileSystem

variable {files after : FileSystem} {purpose : Purpose} {links : Nat} {here place spot : Place}
  {parts kept rest : List Bytes} {path : Path}

/-- The parts that are left when some idle ones are left out. -/
inductive LeavesOut : List Bytes → List Bytes → Prop
  | nil : LeavesOut [] []
  | keep (part : Bytes) {rest kept : List Bytes} (later : LeavesOut rest kept) :
      LeavesOut (part :: rest) (part :: kept)
  | drop {part : Bytes} {rest kept : List Bytes} (idle : part = [] ∨ part = [Path.dot])
      (later : LeavesOut rest kept) : LeavesOut (part :: rest) kept

namespace LeavesOut

theorem append (front : List Bytes) (h : LeavesOut rest kept) :
    LeavesOut (front ++ rest) (front ++ kept) := by
  induction front with
  | nil => exact h
  | cons part front ih => exact .keep part ih

theorem filter (parts : List Bytes) :
    LeavesOut parts (parts.filter fun part => part != [] && part != [Path.dot]) := by
  induction parts with
  | nil => exact .nil
  | cons part rest ih =>
    by_cases hidle : part = [] ∨ part = [Path.dot]
    · rw [List.filter_cons_of_neg (by simpa [← not_or] using hidle)]
      exact .drop hidle ih
    · rw [List.filter_cons_of_pos (by simpa [not_or] using hidle)]
      exact .keep part ih

end LeavesOut

/-- A walk that comes to its end does so without its idle parts. -/
theorem walk_of_leavesOut (h : LeavesOut parts kept)
    (hwalk : files.walk .use links here parts = .ok place) :
    files.walk .use links here kept = .ok place := by
  fun_induction walk files .use links here parts generalizing kept with
  | case1 links here =>
    cases h
    cases hwalk
    rw [walk]
  | case5 links here part rest hdir hidle ih =>
    cases h with
    | keep part later => exact (walk_of_idle hdir hidle).trans (ih later hwalk)
    | drop idle later => exact ih later hwalk
  | case6 links here rest hdir hvisible ih =>
    cases h with
    | keep part later => exact (walk_of_up hdir).trans (ih later hwalk)
    | drop idle later => exact absurd idle hvisible
  | case9 links here part rest hdir hvisible hdown hrefusal hnone hname hwrite =>
    exact absurd hwrite.1 (by decide)
  | case12 here part rest hdir hvisible hdown hrefusal target hnode links ih =>
    cases h with
    | keep part later =>
      rw [walk_of_link hdir hvisible hdown rfl hnode]
      simpa using ih (later.append target.parts) (by simpa using hwalk)
    | drop idle later => exact absurd idle hvisible
  | case13 links here part rest hdir hvisible hdown hrefusal node hlink hnode ih =>
    cases h with
    | keep part later =>
      exact (walk_of_node hdir hvisible hdown rfl hnode hlink).trans (ih later hwalk)
    | drop idle later => exact absurd idle hvisible
  | _ => cases hwalk

/-- What is made of a path as it is written leads where the path can be spelled out to, if it leads
anywhere. -/
theorem resolve_absolute_of_locate_spell (hspell : files.locate .spell path = .ok spot)
    (hresolve : files.resolve (Path.absolute files.cwd.path path) = .ok place) : place = spot := by
  unfold locate at hspell
  split at hspell
  · cases hspell
  · rename_i hempty
    split at hspell
    · cases hspell
    · rw [if_pos rfl] at hspell
      have hpath : path.octets.isEmpty = false := by simpa using hempty
      obtain ⟨-, hwalk⟩ := (locate_iff (by decide)).mp hresolve
      rw [if_pos (Path.isAbsolute_absolute (Place.isAbsolute_path _) hpath)] at hwalk
      have hspot := walk_of_leavesOut (.filter _) (walk_use_of_walk hspell (by simp))
      have hplace := walk_of_leavesOut (.filter _) hwalk
      have hnames : (Path.absolute files.cwd.path path).names =
          (files.cwd.path.join path).names := Path.names_absolute hpath
      unfold Path.names at hnames
      rw [hnames] at hplace
      exact Except.ok.inj (hplace.symm.trans hspot)

/-- A full path that is a file stays that when another file is made. -/
theorem fullPath_of_made_of_isFile (hfree : files.node? spot = none)
    (hmade : ChangedAt files after spot) (hfile : files.isFile (files.fullPath path) = true) :
    after.fullPath path = files.fullPath path := by
  refine fullPath_of_made hfree hmade fun hspell => ?_
  have hback : ChangedAt after files spot := hmade.symm (.inl hfree)
  cases hlocate : files.locate .spell path with
  | ok place =>
    have hne : place ≠ spot := by
      rintro rfl
      simpa [hfree] using isSome_of_spelled (spelled_of_locate hlocate)
    exact hne (Except.ok.inj ((hback.locate_spell hlocate hne).symm.trans hspell))
  | error cause =>
    -- Then the full path is what is made of it as it is written, and that leads to the new file too.
    obtain ⟨place, content, hresolve, hnode⟩ := isFile_iff.mp hfile
    have hne : place ≠ spot := by
      rintro rfl
      simp [hfree] at hnode
    have hfull : files.fullPath path = Path.absolute after.cwd.path path := by
      simp [fullPath, canonical, hlocate, Except.map, hmade.cwd]
    exact hne (resolve_absolute_of_locate_spell hspell (hback.resolve (hfull ▸ hresolve) hne))

end FileSystem

end ScriptBuild
