import Mathlib.Data.List.Nodup
import Mathlib.Data.List.Pairwise
import ScriptBuild.Proofs.FileSystem.Removal

/-!
# Paths that are the same

Paths that start alike and go by the same names are the `same`, however many slashes and idle parts
are in them. That is an equivalence, and coarser than equality: `//srv/x/.` is the same as `/srv/x`.
Where both paths are canonical the two notions agree, since a canonical path is written in one way
only: a slash in front of each name and nothing else. The same holds of a canonical path with an
ending added to it, although nothing of that name need exist.

A path of names is `Neat` if it could be canonical: no name holds a slash, and none is a sign for
staying in a directory.

**Results.**
* `Path.same_refl`, `Path.same_comm`, `Path.same_trans`: to be the same is an equivalence.
* `Place.Neat.same_iff`: neat places have the same path only if they are one.
* `eq_of_same`: canonical paths that are the same are equal.
* `eq_append_of_same`: so are a canonical path and another one with an ending added.
* `pairwise_not_same_iff`: when a list of paths names nothing twice.
-/
namespace ScriptBuild

open Text.Utf8 (Bytes)

namespace Path

variable {path other third : Path}

theorem same_iff : path.same other = true ↔
    lead path.octets = lead other.octets ∧ path.names = other.names := by
  simp [same]

@[simp] theorem same_refl (path : Path) : path.same path = true :=
  same_iff.mpr ⟨rfl, rfl⟩

theorem same_comm (path other : Path) : path.same other = other.same path := by
  simp [same, Bool.beq_comm]

theorem same_trans (h : path.same other = true) (h' : other.same third = true) :
    path.same third = true := by
  rw [same_iff] at h h' ⊢
  exact ⟨h.1.trans h'.1, h.2.trans h'.2⟩

/-- What is the same as one of two paths that differ is not the same as the other. -/
theorem not_same_of_same (h : path.same other = true) (h' : other.same third = false) :
    path.same third = false := by
  cases hsame : path.same third with
  | false => rfl
  | true => exact (same_trans (same_comm path other ▸ h) hsame).symm.trans h'

end Path

namespace Place

variable {place other : Place} {suffix : Bytes}

/-- Every name can stand in a canonical path. -/
def Neat (place : Place) : Prop :=
  ∀ name ∈ place, Path.slash ∉ name ∧ ¬(name = [] ∨ name = [Path.dot])

theorem Neat.names_path (h : place.Neat) : place.path.names = place := by
  by_cases hne : place = []
  · subst hne
    decide
  · rw [Path.names, parts_path hne fun name hname => (h name hname).1,
      List.filter_cons_of_neg (by simp), List.filter_eq_self]
    intro name hname
    simpa [not_or] using (h name hname).2

/-- Neat places have the same path only if they are one. -/
theorem Neat.same_iff (h : place.Neat) (h' : other.Neat) :
    place.path.same other.path = true ↔ place = other := by
  rw [Path.same_iff, h.names_path, h'.names_path]
  exact and_iff_right rfl

/-- With an ending added, the canonical path of a neat place is that of another. -/
theorem Neat.exists_append (h : place.Neat) (hslash : Path.slash ∉ suffix)
    (hsuffix : ¬(suffix = [] ∨ suffix = [Path.dot])) :
    ∃ longer : Place, place.path.append suffix = longer.path ∧ longer.Neat := by
  rcases List.eq_nil_or_concat place with rfl | ⟨here, name, rfl⟩
  · refine ⟨[suffix], by simp [path, Path.append], fun name hname => ?_⟩
    obtain rfl := List.mem_singleton.mp hname
    exact ⟨hslash, hsuffix⟩
  · rw [List.concat_eq_append] at h ⊢
    obtain ⟨hname, hvisible⟩ := h name (by simp)
    refine ⟨here ++ [name ++ suffix], (path_append here name suffix).symm, fun inner hinner => ?_⟩
    rcases List.mem_append.mp hinner with hhere | hlast
    · exact h inner (List.mem_append_left _ hhere)
    · obtain rfl := List.mem_singleton.mp hlast
      refine ⟨by simp [hname, hslash], ?_⟩
      rintro (hempty | hdot)
      · exact hvisible (.inl (List.append_eq_nil_iff.mp hempty).1)
      · rcases List.append_eq_singleton_iff.mp hdot with ⟨hnil, -⟩ | ⟨hone, -⟩
        · exact hvisible (.inl hnil)
        · exact hvisible (.inr hone)

end Place

namespace FileSystem

variable {files : FileSystem} {path other full : Path} {suffix : Bytes}

theorem Spelled.neat {place : Place} (h : files.Spelled place) : place.Neat := by
  intro name hname
  obtain ⟨here, hstep⟩ := h.step_of_mem hname
  exact ⟨hstep.noSlash, hstep.visible⟩

theorem exists_neat_of_canonical (h : files.canonical path = .ok full) :
    ∃ place : Place, full = place.path ∧ place.Neat := by
  unfold canonical at h
  cases hlocate : files.locate .spell path with
  | error cause => simp [hlocate, Except.map] at h
  | ok place =>
    obtain rfl : place.path = full := by simpa [hlocate, Except.map] using h
    exact ⟨place, rfl, (spelled_of_locate hlocate).neat⟩

theorem eq_of_same (h : files.canonical path = .ok path) (h' : files.canonical other = .ok other)
    (hsame : path.same other = true) : path = other := by
  obtain ⟨place, rfl, hneat⟩ := exists_neat_of_canonical h
  obtain ⟨place', rfl, hneat'⟩ := exists_neat_of_canonical h'
  exact congrArg Place.path ((hneat.same_iff hneat').mp hsame)

/-- A canonical path that is the same as another one with an ending added is equal to that. -/
theorem eq_append_of_same (h : files.canonical path = .ok path)
    (h' : files.canonical other = .ok other) (hslash : Path.slash ∉ suffix)
    (hsuffix : ¬(suffix = [] ∨ suffix = [Path.dot]))
    (hsame : path.same (other.append suffix) = true) : path = other.append suffix := by
  obtain ⟨place, rfl, hneat⟩ := exists_neat_of_canonical h
  obtain ⟨place', rfl, hneat'⟩ := exists_neat_of_canonical h'
  obtain ⟨longer, hlonger, hneat''⟩ := hneat'.exists_append hslash hsuffix
  rw [hlonger] at hsame ⊢
  exact congrArg Place.path ((hneat.same_iff hneat'').mp hsame)

/-- Paths of which each is canonical or stands out are all different, unless one that stands out is
the same as another. -/
theorem pairwise_not_same_iff {paths : List Path} {StandsOut : Path → Prop} (nodup : paths.Nodup)
    (hpaths : ∀ path ∈ paths, files.canonical path = .ok path ∨ StandsOut path) :
    paths.Pairwise (fun path other => path.same other = false) ↔
      ∀ path ∈ paths, StandsOut path → ∀ other ∈ paths, other ≠ path → path.same other = false := by
  constructor
  · intro h path hpath _ other hother hne
    have : Std.Symm fun path other : Path => path.same other = false :=
      ⟨fun path other hsame => Path.same_comm path other ▸ hsame⟩
    exact h.forall hpath hother hne.symm
  · intro h
    refine nodup.pairwise_of_forall_ne fun path hpath other hother hne => ?_
    rcases hpaths path hpath with hcanonical | hout
    · rcases hpaths other hother with hcanonical' | hout'
      · exact Bool.eq_false_iff.mpr fun hsame => hne (eq_of_same hcanonical hcanonical' hsame)
      · rw [Path.same_comm]
        exact h other hother hout' path hpath hne
    · exact h path hpath hout other hother hne.symm

end FileSystem

end ScriptBuild
