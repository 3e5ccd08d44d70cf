import Mathlib.Data.List.Induction
import Mathlib.Data.List.Nodup
import ScriptBuild.Dependency

/-!
# Dependencies added one after the other

A resolution grows by insertions. An insertion is taken up if none before it had its key, of
whatever kind either of them is, and is refused otherwise. So what has been found is the first
insertion of every key, in the order of these. Two lists of it are handed on, the source files and
the references, and every entry is in one of them.

Refusal is by key alone, which is a text: the text of a library's name, or the one that is shown of
a path. So a file and a library can refuse each other, and so can two files whose paths are shown
alike. What is shown here is shown of any history, whether or not a walk could produce it.

The induction is on the history from its end, because an insertion adds at the end. Keys come out as
the list of all keys without repetitions, and each answer depends on the keys before it. That the
two lists split the entries follows from each entry having exactly one of the two kinds.

**Results.**
* `deps_insert`: an insertion adds its dependency at the end, or nothing.
* `keys_collect`, `find?_collect`: the keys of a history, and the dependency that each of them
  stands for.
* `size_foldl_insert`: how many insertions have been taken up.
* `perm_keys`, `nodup_sources`, `nodup_references`: source files and references together are the
  entries.
* `collect_keeps_firsts`: what any history of insertions comes to.
-/
namespace ScriptBuild

theorem Dependency.key_of_path? {dependency : Dependency} {path : Path}
    (h : dependency.path? = some path) : dependency.key = path.text := by
  cases dependency with
  | library name => cases h
  | file other =>
    cases h
    rfl
  | binary other =>
    cases h
    rfl

namespace Resolution

variable {found after : Resolution} {dependency : Dependency}

/-! ## One insertion -/

theorem insert_of_mem (h : dependency.key ∈ found.keys) : found.insert dependency = found := by
  simp [insert, insert?_eq_none_iff.mpr h]

theorem insert_of_insert? (h : found.insert? dependency = some after) :
    found.insert dependency = after := by
  simp [insert, h]

theorem isSome_insert?_iff : (found.insert? dependency).isSome = true ↔
    dependency.key ∉ found.keys := by
  rw [Option.isSome_iff_ne_none, ne_eq, insert?_eq_none_iff]

theorem deps_insert (found : Resolution) (dependency : Dependency) :
    (found.insert dependency).deps =
      found.deps ++ if dependency.key ∈ found.keys then [] else [dependency] := by
  cases h : found.insert? dependency with
  | none =>
    have hmem := insert?_eq_none_iff.mp h
    rw [insert_of_mem hmem, if_pos hmem, List.append_nil]
  | some after =>
    have hnew : dependency.key ∉ found.keys := isSome_insert?_iff.mp (by simp [h])
    rw [insert_of_insert? h, deps_of_insert? h, if_neg hnew]

theorem keys_insert (found : Resolution) (dependency : Dependency) :
    (found.insert dependency).keys =
      found.keys ++ if dependency.key ∈ found.keys then [] else [dependency.key] := by
  rw [keys, deps_insert, List.map_append, apply_ite (List.map Dependency.key)]
  rfl

theorem prefix_of_insert? (h : found.insert? dependency = some after) : found.deps <+: after.deps :=
  deps_of_insert? h ▸ List.prefix_append _ _

theorem prefix_insert (found : Resolution) (dependency : Dependency) :
    found.deps <+: (found.insert dependency).deps :=
  deps_insert found dependency ▸ List.prefix_append _ _

theorem key_mem_insert (found : Resolution) (dependency : Dependency) :
    dependency.key ∈ (found.insert dependency).keys := by
  rw [keys_insert, List.mem_append]
  by_cases h : dependency.key ∈ found.keys
  · exact .inl h
  · exact .inr (by simp [h])

theorem mem_deps_insert {other : Dependency} (h : other ∈ (found.insert dependency).deps) :
    other ∈ found.deps ∨ other = dependency := by
  rw [deps_insert, List.mem_append] at h
  refine h.imp_right fun hlast => ?_
  split at hlast
  · cases hlast
  · exact List.mem_singleton.mp hlast

/-! ## Source files and references -/

theorem mem_sources {found : Resolution} {path : Path} :
    path ∈ found.sources ↔ .file path ∈ found.deps := by
  simp only [sources, List.mem_filterMap]
  constructor
  · rintro ⟨dependency, hmem, hsource⟩
    cases dependency with
    | file other =>
      obtain rfl : other = path := by simpa [Dependency.source?] using hsource
      exact hmem
    | _ => cases hsource
  · exact fun hmem => ⟨_, hmem, rfl⟩

/-- Only a new source file changes the list of source files. -/
theorem sources_insert (h : dependency.source?.isSome → dependency.key ∈ found.keys) :
    (found.insert dependency).sources = found.sources := by
  rw [sources, deps_insert, List.filterMap_append]
  split
  · exact List.append_nil _
  · rename_i hnew
    have hnone : dependency.source? = none := by
      simpa using fun hsome : dependency.source?.isSome => hnew (h hsome)
    simp [sources, hnone]

theorem sources_sublist_keys (found : Resolution) :
    (found.sources.map Path.text).Sublist found.keys := by
  unfold sources keys
  induction found.deps with
  | nil => exact .slnil
  | cons dependency rest ih =>
    cases dependency with
    | file path => exact ih.cons_cons _
    | library name => exact ih.cons _
    | binary path => exact ih.cons _

theorem references_sublist_keys (found : Resolution) : found.references.Sublist found.keys := by
  unfold references keys
  induction found.deps with
  | nil => exact .slnil
  | cons dependency rest ih =>
    cases dependency with
    | file path => exact ih.cons _
    | library name => exact ih.cons_cons _
    | binary path => exact ih.cons_cons _

theorem nodup_sources (found : Resolution) : found.sources.Nodup :=
  .of_map Path.text (found.distinct.sublist found.sources_sublist_keys)

theorem nodup_references (found : Resolution) : found.references.Nodup :=
  found.distinct.sublist found.references_sublist_keys

theorem perm_keys (found : Resolution) :
    (found.sources.map Path.text ++ found.references).Perm found.keys := by
  unfold sources references keys
  induction found.deps with
  | nil => exact .nil
  | cons dependency rest ih =>
    cases dependency with
    | file path => exact ih.cons _
    | library name => exact List.perm_middle.trans (ih.cons _)
    | binary path => exact List.perm_middle.trans (ih.cons _)

/-- The source files and the references split what has been found. -/
structure Split (found : Resolution) : Prop where
  /-- Both are in the order found. -/
  sources_ordered : (found.sources.map Path.text).Sublist found.keys
  references_ordered : found.references.Sublist found.keys
  sources_distinct : (found.sources.map Path.text).Nodup
  references_distinct : found.references.Nodup
  /-- Nothing is left out, and nothing added. -/
  complete : (found.sources.map Path.text ++ found.references).Perm found.keys
  /-- Every entry is in one of them and not in the other. -/
  apart : ∀ dependency ∈ found.deps,
    dependency.key ∈ found.sources.map Path.text ↔ dependency.key ∉ found.references
  files : ∀ path, path ∈ found.sources ↔ .file path ∈ found.deps

theorem split (found : Resolution) : found.Split where
  sources_ordered := found.sources_sublist_keys
  references_ordered := found.references_sublist_keys
  sources_distinct := found.distinct.sublist found.sources_sublist_keys
  references_distinct := found.nodup_references
  complete := found.perm_keys
  apart dependency hmem := by
    have hkey : dependency.key ∈ found.keys := List.mem_map_of_mem hmem
    obtain ⟨-, -, hdisjoint⟩ :=
      List.nodup_append.mp (found.perm_keys.nodup_iff.mpr found.distinct)
    constructor
    · intro hsource hreference
      exact hdisjoint _ hsource _ hreference rfl
    · intro hreference
      rw [← found.perm_keys.mem_iff, List.mem_append] at hkey
      exact hkey.resolve_right hreference
  files _ := mem_sources

/-! ## A history of insertions -/

/-- What has been found after a history of insertions. -/
def collect (history : List Dependency) : Resolution := history.foldl insert empty

/-- What each insertion of a history answers: whether it is taken up. -/
def answers (found : Resolution) : List Dependency → List Bool
  | [] => []
  | dependency :: later =>
    (found.insert? dependency).isSome :: (found.insert dependency).answers later

variable {history : List Dependency}

theorem collect_concat (history : List Dependency) (dependency : Dependency) :
    collect (history ++ [dependency]) = (collect history).insert dependency := by
  rw [collect, List.foldl_concat, collect]

/-- Without repetitions, a last element is there once, where it first came. -/
theorem eraseDups_concat (front : List String) (last : String) :
    (front ++ [last]).eraseDups = front.eraseDups ++ if last ∈ front then [] else [last] := by
  rw [List.eraseDups_append]
  by_cases h : last ∈ front
  · simp [List.removeAll, h]
  · simp [List.removeAll, h, List.eraseDups_cons]

theorem keys_collect (history : List Dependency) :
    (collect history).keys = (history.map Dependency.key).eraseDups := by
  induction history using List.reverseRecOn with
  | nil => rfl
  | append_singleton history dependency ih =>
    have hmem : dependency.key ∈ (collect history).keys ↔
        dependency.key ∈ history.map Dependency.key := by
      rw [ih, List.mem_eraseDups]
    rw [collect_concat, keys_insert, List.map_append, List.map_singleton, eraseDups_concat, ih]
    simp only [← ih, hmem]

theorem mem_keys_collect {key : String} :
    key ∈ (collect history).keys ↔ key ∈ history.map Dependency.key := by
  rw [keys_collect, List.mem_eraseDups]

theorem find?_collect (history : List Dependency) (key : String) :
    (collect history).deps.find? (·.key == key) = history.find? (·.key == key) := by
  induction history using List.reverseRecOn with
  | nil => rfl
  | append_singleton history dependency ih =>
    rw [collect_concat, deps_insert, List.find?_append, List.find?_append, ih]
    split
    · rename_i hkey
      -- The key has come before, so what is found for it has been found already.
      rw [mem_keys_collect, List.mem_map] at hkey
      obtain ⟨earlier, hearlier, hsame⟩ := hkey
      by_cases h : dependency.key = key
      · have hfound : (history.find? (·.key == key)).isSome = true := by
          rw [List.find?_isSome]
          exact ⟨earlier, hearlier, by simp [hsame, h]⟩
        simp [Option.or_of_isSome hfound]
      · simp [h]
    · rfl

theorem prefix_foldl_insert (found : Resolution) (later : List Dependency) :
    found.deps <+: (later.foldl insert found).deps := by
  induction later generalizing found with
  | nil => exact List.prefix_refl _
  | cons dependency later ih => exact (found.prefix_insert dependency).trans (ih _)

theorem size_foldl_insert (found : Resolution) (later : List Dependency) :
    (later.foldl insert found).size = found.size + (found.answers later).count true := by
  induction later generalizing found with
  | nil => rfl
  | cons dependency later ih =>
    rw [List.foldl_cons, ih, answers, List.count_cons, size, deps_insert, List.length_append]
    by_cases h : dependency.key ∈ found.keys
    · have hnone : (found.insert? dependency).isSome = false := by
        simp [insert?_eq_none_iff.mpr h]
      simp [h, hnone, size]
    · simp [h, isSome_insert?_iff.mpr h, size]
      omega

/-- After any history, an insertion is taken up if its key has not come before, whatever came with
it. The keys are there in the order in which they first came, each for the dependency that first
came with it, and stay so whatever comes later. There are as many as there were insertions that
were taken up, and they split into the source files and the references. -/
theorem collect_keeps_firsts (history : List Dependency) :
    let found := collect history
    (∀ dependency, (found.insert? dependency).isSome = true ↔
      dependency.key ∉ history.map Dependency.key) ∧
    found.keys = (history.map Dependency.key).eraseDups ∧
    (∀ key, found.deps.find? (·.key == key) = history.find? (·.key == key)) ∧
    (∀ later, found.deps <+: (collect (history ++ later)).deps) ∧
    found.size = (empty.answers history).count true ∧
    (∀ key, found.contains key = true ↔ key ∈ history.map Dependency.key) ∧
    found.Split := by
  intro found
  refine ⟨fun dependency => ?_, keys_collect history, find?_collect history, fun later => ?_, ?_,
    fun key => ?_, found.split⟩
  · rw [isSome_insert?_iff, mem_keys_collect]
  · have hlater : collect (history ++ later) = later.foldl insert found := List.foldl_append
    rw [hlater]
    exact prefix_foldl_insert found later
  · have hsize := size_foldl_insert empty history
    rwa [show empty.size = 0 from rfl, Nat.zero_add] at hsize
  · rw [contains, List.contains_iff_mem, mem_keys_collect]

/-- The library keeps the key that the file came with later, and the file is nowhere. -/
example : (collect [.binary ⟨"/t.dll"⟩, .library "/b.cs", .file ⟨"/b.cs"⟩, .file ⟨"/a.cs"⟩]).deps =
    [.binary ⟨"/t.dll"⟩, .library "/b.cs", .file ⟨"/a.cs"⟩] := by
  decide

end Resolution

end ScriptBuild
