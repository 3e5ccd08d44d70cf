import ScriptBuild.Proofs.FileSystem.Walk
import ScriptBuild.Proofs.Text.Cutting

/-!
# Canonical paths

The canonical path of what exists leads back to where it came from: it goes down from the root by
plain names, through directories only, and meets no link. `Spelled` says this of a place.

Spelling out is a walk of its own kind: it refuses names by the length of what has been spelled so
far, not by their own length, and it wants everything to be there. The induction is on that walk,
and the invariant is that the place reached is spelled: a link sends it elsewhere, a plain step adds
one, and going up takes one off. So a canonical path needs no links when it is walked, and no
working directory.

What is spelled out can still be unfit to be used: nothing keeps a path with a slash behind a file's
name from being asked for, and that is refused. Such a path has no canonical form, though it may
denote a file once it is made absolute as it is written.

**Results.**
* `parts_path`: the parts of a canonical path are the names of its place.
* `spelled_of_walk`: a path is only spelled out by places that are spelled.
* `resolve_path_of_spelled`: the canonical path of a spelled place denotes it.
* `canonical_of_canonical`: the canonical path of a canonical path is itself.
* `exists_place_of_canonical`: a canonical path is that of the place it leads to.
* `resolve_of_locate_spell`: a path that denotes a place is spelled out as that.
* `isAbsolute_fullPath`: every full path is absolute.
-/
namespace ScriptBuild

open Text.Utf8 (Bytes)

namespace Path

theorem nonempty_of_isAbsolute {path : Path} (h : path.isAbsolute = true) :
    path.octets.isEmpty = false := by
  unfold isAbsolute at h
  cases hoctets : path.octets with
  | nil => simp [hoctets] at h
  | cons octet rest => rfl

theorem head_push {base : Bytes} (h : base.head? = some slash) (inner : Bytes) :
    (push base inner).head? = some slash := by
  unfold push
  split <;> simp [h]

theorem head_foldl_push {base : Bytes} (h : base.head? = some slash) (names : List Bytes) :
    (names.foldl push base).head? = some slash := by
  induction names generalizing base with
  | nil => exact h
  | cons name names ih => exact ih (head_push h name)

theorem isAbsolute_absolute {cwd path : Path} (hcwd : cwd.isAbsolute = true)
    (hpath : path.octets.isEmpty = false) : (absolute cwd path).isAbsolute = true := by
  have hpush : ∀ {start : Bytes}, start.head? = some slash → ∀ (names : List Bytes),
      (⟨if path.octets.getLast? == some slash then push (names.foldl push start) []
        else names.foldl push start⟩ : Path).isAbsolute = true := by
    intro start hstart names
    have hfull := head_foldl_push hstart names
    simp only [isAbsolute, beq_iff_eq]
    split
    · exact head_push hfull []
    · exact hfull
  unfold absolute
  rw [if_neg (by simp [hpath])]
  refine hpush ?_ _
  split
  · split <;> rfl
  · simpa [isAbsolute] using hcwd

theorem slash_notMem_of_mem_parts {path : Path} {part : Bytes} (h : part ∈ path.parts) :
    slash ∉ part :=
  Text.notMem_of_mem_cutAll h

theorem parts_slash {front back : Bytes} :
    (⟨front ++ slash :: back⟩ : Path).parts =
      (⟨front⟩ : Path).parts ++ (⟨back⟩ : Path).parts := by
  simp only [parts, Text.cutAll_eq_splitOn, List.splitOn]
  rw [List.splitOnP_append_cons front back (by simp)]

theorem getLast?_parts {path : Path} (h : path.octets.getLast? = some slash) :
    path.parts.getLast? = some [] := by
  obtain ⟨front, hfront⟩ := List.getLast?_eq_some_iff.mp h
  obtain rfl : path = ⟨front ++ slash :: []⟩ := by rw [← hfront]
  rw [parts_slash]
  simp [parts, Text.cutAll]

theorem parts_join {base inner : Path} (hrelative : inner.isAbsolute = false)
    (hbase : base.octets.isEmpty = false) (hlast : base.octets.getLast? ≠ some slash) :
    (base.join inner).parts = base.parts ++ inner.parts := by
  have hjoin : base.join inner = ⟨base.octets ++ slash :: inner.octets⟩ := by
    simp [join, hrelative, push, hbase, hlast]
  rw [hjoin, parts_slash]

end Path

namespace Place

theorem isAbsolute_path (place : Place) : place.path.isAbsolute = true := by
  simp [Path.isAbsolute, path]

theorem parts_path {place : Place} (hne : place ≠ []) (h : ∀ name ∈ place, Path.slash ∉ name) :
    place.path.parts = [] :: place := by
  have hcut : ([Path.slash].intercalate place).splitOn Path.slash = place :=
    List.splitOn_intercalate Path.slash h hne
  simp [Path.parts, path, Text.cutAll_eq_splitOn, List.splitOn_cons_eq_if_modifyHead, hcut]

end Place

namespace FileSystem

variable {files : FileSystem}

/-- Going down from `here` by `name` is plain: out of a directory, by a name that is no sign, to
something that is no link, and not too deep to be spelled out. -/
structure PlainStep (files : FileSystem) (here : Place) (name : Bytes) : Prop where
  directory : files.node? here = some .directory
  visible : ¬(name = [] ∨ name = [Path.dot])
  down : name ≠ [Path.dot, Path.dot]
  noSlash : Path.slash ∉ name
  noZero : 0 ∉ name
  short : (Place.path (here ++ [name])).octets.length < pathLimit
  present : ∃ node, files.node? (here ++ [name]) = some node ∧ ∀ target, node ≠ .link target

/-- Every step on the way down from the root is plain. -/
def Spelled (files : FileSystem) (place : Place) : Prop :=
  ∀ here name, here ++ [name] <+: place → files.PlainStep here name

namespace Spelled

theorem root : files.Spelled [] := by
  intro here name h
  simp at h

theorem of_prefix {place upper : Place} (h : files.Spelled place) (hupper : upper <+: place) :
    files.Spelled upper :=
  fun here name hname => h here name (hname.trans hupper)

theorem push {here : Place} {name : Bytes} (h : files.Spelled here)
    (hstep : files.PlainStep here name) : files.Spelled (here ++ [name]) := by
  intro here' name' hprefix
  rcases List.prefix_concat_iff.mp hprefix with heq | hprefix
  · obtain ⟨rfl, rfl⟩ : here' = here ∧ name' = name := by simpa using heq
    exact hstep
  · exact h here' name' hprefix

theorem step_of_mem {place : Place} {name : Bytes} (h : files.Spelled place)
    (hname : name ∈ place) : ∃ here, files.PlainStep here name := by
  obtain ⟨upper, lower, rfl⟩ := List.append_of_mem hname
  exact ⟨upper, h upper name (by simp)⟩

end Spelled

theorem refusal?_spell_eq_none {here : Place} {name : Bytes} {rest : List Bytes} :
    refusal? .spell here name rest = none ↔
      0 ∉ name ∧ (Place.path (here ++ [name])).octets.length < pathLimit := by
  simp only [refusal?, List.contains_eq_mem, decide_eq_true_eq]
  split
  · simp_all
  · split
    · simp_all
    · simp_all

/-- A path is only spelled out by places that are spelled. -/
theorem spelled_of_walk {links : Nat} {here place : Place} {parts : List Bytes}
    (h : files.walk .spell links here parts = .ok place) (hhere : files.Spelled here)
    (hparts : ∀ part ∈ parts, Path.slash ∉ part) : files.Spelled place := by
  fun_induction walk files .spell links here parts with
  | case1 links here =>
    cases h
    exact hhere
  | case5 links here part rest hdir hidle ih =>
    exact ih h hhere fun part hpart => hparts part (List.mem_cons_of_mem _ hpart)
  | case6 links here rest hdir hidle ih =>
    exact ih h (hhere.of_prefix (List.dropLast_prefix _))
      fun part hpart => hparts part (List.mem_cons_of_mem _ hpart)
  | case9 links here part rest hdir hvisible hdown hrefusal hnode hname hwrite =>
    exact absurd hwrite.1 (by decide)
  | case12 here part rest hdir hvisible hdown hrefusal target hnode links ih =>
    have hstart : files.Spelled (if target.isAbsolute then [] else here) := by
      split
      · exact .root
      · exact hhere
    refine ih (by simpa using h) (by simpa using hstart) fun other hother => ?_
    rcases List.mem_append.mp hother with hother | hother
    · exact Path.slash_notMem_of_mem_parts hother
    · exact hparts other (List.mem_cons_of_mem _ hother)
  | case13 links here part rest hdir hvisible hdown hrefusal node hlink hnode ih =>
    have hspell := refusal?_spell_eq_none.mp hrefusal
    have hstep : files.PlainStep here part :=
      ⟨hdir, hvisible, hdown, hparts part List.mem_cons_self, hspell.1, hspell.2, node, hnode,
        hlink⟩
    exact ih h (hhere.push hstep) fun other hother => hparts other (List.mem_cons_of_mem _ hother)
  | _ => cases h

theorem walk_of_plainStep {purpose : Purpose} {links : Nat} {here : Place} {name : Bytes}
    {rest : List Bytes} (hpurpose : purpose ≠ .write) (h : files.PlainStep here name) :
    files.walk purpose links here (name :: rest) =
      files.walk purpose links (here ++ [name]) rest := by
  obtain ⟨node, hnode, hlink⟩ := h.present
  have hrefusal : refusal? purpose here name rest = none := by
    cases purpose with
    | use => rfl
    | write => exact absurd rfl hpurpose
    | spell => exact refusal?_spell_eq_none.mpr ⟨h.noZero, h.short⟩
  exact walk_of_node h.directory h.visible h.down hrefusal hnode hlink

/-- The names of a spelled place lead to it. -/
theorem walk_of_spelled {purpose : Purpose} {links : Nat} {here : Place} {names rest : List Bytes}
    (hpurpose : purpose ≠ .write) (h : files.Spelled (here ++ names)) :
    files.walk purpose links here (names ++ rest) =
      files.walk purpose links (here ++ names) rest := by
  induction names generalizing here with
  | nil => simp
  | cons name names ih =>
    have hsplit : here ++ name :: names = (here ++ [name]) ++ names := by simp
    rw [hsplit] at h ⊢
    rw [List.cons_append, walk_of_plainStep hpurpose (h here name (List.prefix_append _ _))]
    exact ih h

theorem walk_path_of_spelled {purpose : Purpose} {links : Nat} {place : Place}
    (hpurpose : purpose ≠ .write) (h : files.Spelled place) :
    files.walk purpose links [] place.path.parts = .ok place := by
  by_cases hne : place = []
  · subst hne
    have hparts : (Place.path []).parts = [[], []] := rfl
    rw [hparts]
    simp [walk]
  · have hslash : ∀ name ∈ place, Path.slash ∉ name := fun name hname =>
      (h.step_of_mem hname).elim fun _ hstep => hstep.noSlash
    have hdown : files.Spelled ([] ++ place) := h
    have hwalk : files.walk purpose links [] (place ++ []) =
        files.walk purpose links ([] ++ place) [] := walk_of_spelled hpurpose hdown
    rw [Place.parts_path hne hslash, walk_of_idle rfl (.inl rfl)]
    simpa [walk] using hwalk

theorem zero_notMem_path {place : Place} (h : files.Spelled place) :
    0 ∉ place.path.octets := by
  rw [Place.path, List.mem_cons, not_or]
  refine ⟨by decide, fun hmem => ?_⟩
  rcases Text.mem_of_mem_intercalate hmem with hslash | ⟨name, hname, hzero⟩
  · exact absurd hslash (by decide)
  · obtain ⟨here, hstep⟩ := h.step_of_mem hname
    exact hstep.noZero hzero

/-- To spell an absolute path out, the working directory is not needed. -/
theorem locate_spell_of_isAbsolute {path : Path} (habsolute : path.isAbsolute = true)
    (hzero : 0 ∉ path.octets) :
    files.locate .spell path = files.walk .spell linkLimit [] path.parts := by
  have hne : path.octets.isEmpty = false := Path.nonempty_of_isAbsolute habsolute
  unfold locate
  rw [if_neg (by simp [hne]), if_neg (by simpa using hzero), if_pos rfl, Path.join_absolute habsolute]

theorem locate_path_of_spelled {place : Place} (h : files.Spelled place) :
    files.locate .spell place.path = .ok place := by
  rw [locate_spell_of_isAbsolute (Place.isAbsolute_path place) (zero_notMem_path h)]
  exact walk_path_of_spelled (by decide) h

theorem short_path_of_spelled {place : Place} (h : files.Spelled place) :
    place.path.octets.length < pathLimit := by
  rcases List.eq_nil_or_concat place with rfl | ⟨here, name, rfl⟩
  · decide
  · rw [List.concat_eq_append] at h ⊢
    exact (h here name List.prefix_rfl).short

theorem resolve_path_of_spelled {place : Place} (h : files.Spelled place) :
    files.resolve place.path = .ok place := by
  have hempty : place.path.octets.isEmpty = false := by simp [Place.path]
  refine (locate_iff (by decide)).mpr
    ⟨⟨hempty, zero_notMem_path h, short_path_of_spelled h⟩, ?_⟩
  rw [if_pos (Place.isAbsolute_path place)]
  exact walk_path_of_spelled (by decide) h

theorem spelled_of_locate {path : Path} {place : Place}
    (h : files.locate .spell path = .ok place) : files.Spelled place := by
  unfold locate at h
  split at h
  · cases h
  · split at h
    · cases h
    · rw [if_pos rfl] at h
      exact spelled_of_walk h .root fun part hpart => Path.slash_notMem_of_mem_parts hpart

/-- The canonical path of a canonical path is itself. -/
theorem canonical_of_canonical {path full : Path} (h : files.canonical path = .ok full) :
    files.canonical full = .ok full := by
  unfold canonical at h ⊢
  cases hlocate : files.locate .spell path with
  | error cause => simp [hlocate, Except.map] at h
  | ok place =>
    obtain rfl : place.path = full := by simpa [hlocate, Except.map] using h
    rw [locate_path_of_spelled (spelled_of_locate hlocate)]
    rfl

theorem exists_place_of_canonical {path full : Path} (h : files.canonical path = .ok full) :
    ∃ place, full = place.path ∧ files.resolve full = .ok place := by
  unfold canonical at h
  cases hlocate : files.locate .spell path with
  | error cause => simp [hlocate, Except.map] at h
  | ok place =>
    obtain rfl : place.path = full := by simpa [hlocate, Except.map] using h
    exact ⟨place, rfl, resolve_path_of_spelled (spelled_of_locate hlocate)⟩

/-- The parts of a path seen from a directory are the names of that and its own. -/
theorem parts_join_of_spelled {cwd : Place} {path : Path} (hcwd : files.Spelled cwd)
    (hrelative : path.isAbsolute = false) :
    (cwd.path.join path).parts = [] :: (cwd ++ path.parts) := by
  by_cases hne : cwd = []
  · subst hne
    simp [Path.join, hrelative, Path.push, Path.parts, Place.path, Text.cutAll_eq_splitOn,
      List.splitOn_cons_eq_if_modifyHead]
  · have hslash : ∀ name ∈ cwd, Path.slash ∉ name := fun name hname =>
      (hcwd.step_of_mem hname).elim fun _ hstep => hstep.noSlash
    have hparts := Place.parts_path hne hslash
    -- No name is empty, so the canonical path does not end in a slash.
    have hlast : cwd.path.octets.getLast? ≠ some Path.slash := by
      intro hlast
      have hempty := Path.getLast?_parts hlast
      rw [hparts, List.getLast?_cons_of_ne_nil hne] at hempty
      obtain ⟨here, hstep⟩ := hcwd.step_of_mem (List.mem_of_getLast? hempty)
      exact hstep.visible (.inl rfl)
    have hbase : cwd.path.octets.isEmpty = false := by simp [Place.path]
    rw [Path.parts_join hrelative hbase hlast, hparts, List.cons_append]

theorem resolve_of_locate_spell {path : Path} {place spot : Place}
    (hcwd : path.isAbsolute = true ∨ files.Spelled files.cwd)
    (hspell : files.locate .spell path = .ok place) (hresolve : files.resolve path = .ok spot) :
    place = spot := by
  obtain ⟨⟨hempty, hzero, -⟩, hwalk⟩ := (locate_iff (by decide)).mp hresolve
  cases habsolute : path.isAbsolute with
  | true =>
    rw [locate_spell_of_isAbsolute habsolute hzero] at hspell
    rw [habsolute, if_pos rfl] at hwalk
    exact Except.ok.inj ((walk_use_of_walk hspell (by simp)).symm.trans hwalk)
  | false =>
    have hcwd := hcwd.resolve_left (by simp [habsolute])
    have hdown : files.walk .spell linkLimit [] (files.cwd ++ path.parts) =
        files.walk .spell linkLimit ([] ++ files.cwd) path.parts := walk_of_spelled (by decide) hcwd
    have hlocate : files.locate .spell path = files.walk .spell linkLimit files.cwd path.parts := by
      unfold locate
      rw [if_neg (by simp [hempty]), if_neg (by simpa using hzero), if_pos rfl,
        parts_join_of_spelled hcwd habsolute, walk_of_idle rfl (.inl rfl)]
      exact hdown
    rw [hlocate] at hspell
    rw [habsolute, if_neg (by simp)] at hwalk
    exact Except.ok.inj ((walk_use_of_walk hspell (by simp)).symm.trans hwalk)

/-- The canonical path of a spelled place is its full path. -/
theorem fullPath_path_of_spelled {place : Place} (h : files.Spelled place) :
    files.fullPath place.path = place.path := by
  simp [fullPath, canonical, locate_path_of_spelled h, Except.map]

/-- Only the empty path has no absolute full path. -/
theorem isAbsolute_fullPath {path : Path} (h : (files.fullPath path).octets.isEmpty = false) :
    (files.fullPath path).isAbsolute = true := by
  unfold fullPath at h ⊢
  cases hcanonical : files.canonical path with
  | ok full =>
    simp only
    unfold canonical at hcanonical
    cases hlocate : files.locate .spell path with
    | error cause => simp [hlocate, Except.map] at hcanonical
    | ok place =>
      obtain rfl : place.path = full := by simpa [hlocate, Except.map] using hcanonical
      exact Place.isAbsolute_path place
  | error cause =>
    simp only [hcanonical] at h ⊢
    refine Path.isAbsolute_absolute (Place.isAbsolute_path _) ?_
    cases hempty : path.octets.isEmpty with
    | false => rfl
    | true => simp [Path.absolute, hempty] at h

end FileSystem

end ScriptBuild
