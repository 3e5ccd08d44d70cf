import ScriptBuild.Proofs.FileSystem.Removal

/-!
# Entries of the root

The root is always there, so a name that fits is an entry of it in every tree.

Examples need trees in which paths lead where they are meant to, whatever else is in them. With a
name in the root there is nothing on the way that could be missing or a link, so what is asked of
the tree is what stands under that name and nothing more. Which names are fit for that can be
decided (`RootName`): visible, without slash or zero, and short enough.

A link of such a name to another is followed once. Temporary files are made in the root as well, and
with `firstLot` drawn their names are known.

**Results.**
* `RootName.entry`: the entry that the path of such a name is for.
* `RootName.spelled`: a file of such a name is spelled out by its path.
* `RootName.locate_write`, `RootName.locate_write_of_link`: where it is written, and where it is if
  a link of that name leads to another.
* `RootName.createTemporary`: the first temporary file.
-/
namespace ScriptBuild.FileSystem

open Text.Utf8 (Bytes)

/-- A name that can be given to an entry of the root and looked up there. -/
structure RootName (name : Bytes) : Prop where
  proper : Proper name
  noSlash : Path.slash ∉ name
  noZero : 0 ∉ name
  short : name.length ≤ nameLimit

instance (name : Bytes) : Decidable (RootName name) :=
  decidable_of_iff
    (¬(name = [] ∨ name = [Path.dot]) ∧ name ≠ [Path.dot, Path.dot] ∧ Path.slash ∉ name ∧
      0 ∉ name ∧ name.length ≤ nameLimit)
    ⟨fun ⟨visible, down, noSlash, noZero, short⟩ => ⟨⟨visible, down⟩, noSlash, noZero, short⟩,
      fun h => ⟨h.proper.visible, h.proper.down, h.noSlash, h.noZero, h.short⟩⟩

namespace RootName

variable {files : FileSystem} {name other : Bytes} {content : Bytes}

theorem parts (h : RootName name) : (Place.path [name]).parts = [[], name] :=
  Place.parts_path (by simp) (by simpa using h.noSlash)

theorem length_path (h : RootName name) :
    (Place.path [name]).octets.length < pathLimit := by
  have hlength : (Place.path [name]).octets.length = name.length + 1 := by simp [Place.path]
  have hshort := h.short
  simp only [nameLimit] at hshort
  simp only [pathLimit]
  omega

theorem fits (h : RootName name) :
    (Place.path [name]).octets.isEmpty = false ∧ 0 ∉ (Place.path [name]).octets ∧
      (Place.path [name]).octets.length < pathLimit := by
  refine ⟨by simp [Place.path], ?_, h.length_path⟩
  simpa [Place.path] using h.noZero

theorem entry (h : RootName name) (files : FileSystem) :
    files.entry (Place.path [name]) = .ok [name] := by
  have hwalk : files.walk .use linkLimit [] [[]] = .ok [] := by
    rw [walk_of_idle rfl (.inl rfl), walk]
  refine entry_iff.mpr ⟨[], name, by rw [h.parts]; rfl, rfl, h.proper.visible, h.proper.down,
    h.fits.2.1, h.length_path, rfl, ?_⟩
  rw [Place.isAbsolute_path, if_pos rfl, h.parts]
  exact hwalk

theorem spelled (h : RootName name) (hnode : files.node? [name] = some (.file content)) :
    files.Spelled [name] :=
  Spelled.root.push ⟨rfl, h.proper.visible, h.proper.down, h.noSlash, h.noZero,
    h.length_path, _, hnode, by simp⟩

/-- A walk for writing ends at a name with nothing or a file. -/
theorem walk_write (h : RootName name) (hspot : files.TakesFile [name]) (links : Nat) :
    files.walk .write links [] [[], name] = .ok [name] := by
  rw [walk_of_idle rfl (.inl rfl)]
  rcases hspot with hnone | ⟨old, hold⟩
  · rw [walk]
    simp [h.proper.visible, h.proper.down, refusal?, hnone, Nat.not_lt.mpr h.short]
  · rw [walk_of_node rfl h.proper.visible h.proper.down rfl hold (by simp), walk]
    rfl

theorem locate_write (h : RootName name) (hspot : files.TakesFile [name]) :
    files.locate .write (Place.path [name]) = .ok [name] := by
  refine (locate_iff (by decide)).mpr ⟨h.fits, ?_⟩
  rw [Place.isAbsolute_path, if_pos rfl, h.parts]
  exact h.walk_write hspot _

theorem locate_write_of_link (h : RootName name) (hother : RootName other)
    (hlink : files.node? [name] = some (.link (Place.path [other])))
    (hspot : files.TakesFile [other]) :
    files.locate .write (Place.path [name]) = .ok [other] := by
  refine (locate_iff (by decide)).mpr ⟨h.fits, ?_⟩
  rw [Place.isAbsolute_path, if_pos rfl, h.parts, walk_of_idle rfl (.inl rfl),
    show linkLimit = 39 + 1 from rfl, walk_of_link rfl h.proper.visible h.proper.down rfl hlink,
    Place.isAbsolute_path, if_pos rfl, hother.parts]
  exact hother.walk_write hspot _

theorem write (h : RootName name) (hspot : files.TakesFile [name]) :
    files.write (Place.path [name]) content = .ok (files.set [name] (.file content)) := by
  rcases hspot with hnone | ⟨old, hold⟩
  · simp [FileSystem.write, h.locate_write (.inl hnone), hnone]
  · simp [FileSystem.write, h.locate_write (.inr ⟨old, hold⟩), hold]

/-- A link of such a name to another is spelled out by the other's path. -/
theorem canonical_of_link (h : RootName name) (hother : RootName other)
    (hlink : files.node? [name] = some (.link (Place.path [other])))
    (hnode : files.node? [other] = some (.file content)) :
    files.canonical (Place.path [name]) = .ok (Place.path [other]) := by
  have hrefusal : refusal? .spell [] name [] = none :=
    refusal?_spell_eq_none.mpr ⟨h.noZero, h.length_path⟩
  have hwalk : files.walk .spell linkLimit [] [[], name] = .ok [other] := by
    rw [walk_of_idle rfl (.inl rfl), show linkLimit = 39 + 1 from rfl,
      walk_of_link rfl h.proper.visible h.proper.down hrefusal hlink, Place.isAbsolute_path,
      if_pos rfl, List.append_nil]
    exact walk_path_of_spelled (by decide) (hother.spelled hnode)
  have hlocate : files.locate .spell (Place.path [name]) = .ok [other] := by
    rw [locate_spell_of_isAbsolute (Place.isAbsolute_path _) h.fits.2.1, h.parts]
    exact hwalk
  simp only [canonical, hlocate]
  rfl

theorem createTemporary {stem ending : Bytes} {lot : Lot}
    (h : RootName (temporaryName stem ending lot))
    (hfree : files.node? [temporaryName stem ending lot] = none) (lots : List Lot) :
    files.createTemporary [] stem ending (lot :: lots) =
      (.ok (Place.path [temporaryName stem ending lot],
        files.set [temporaryName stem ending lot] (.file [])), lots) := by
  simp [FileSystem.createTemporary, h.entry, hfree]

end RootName

/-- A lot that draws the same letter six times. -/
def firstLot : Lot := ⟨['A', 'A', 'A', 'A', 'A', 'A'], rfl, by decide⟩

end ScriptBuild.FileSystem
