import ScriptBuild.Proofs.FileSystem.Removal
import ScriptBuild.Proofs.Script.Reading

/-!
# A file more

A file that is made where nothing stood is seen by those paths only that lead to it: every other
path reads what it read, and is spelled out as it was. And a file or link that leads to a file can
be taken away without a loss to the other paths: no walk to a directory goes through it.

Three relations between trees are used. `ReadsAlike` is about one path and asks for no more than
what reading it gives. `Keeps` lets files change and be added, and forbids everything else;
compilers that only write are of that kind. `ChangedAt`, from the frame, is a change at one place.
To make a file is a change of the last two kinds, and for every path that does not lead there of the
first.

A walk goes from names to directories or links and ends at a file. So of what is removed only a link
can be on the way of another path, and then that path leads to the file that the link leads to.

**Results.**
* `readsAlike_of_made`: what is read where a path does not lead to the file that was made.
* `fullPath_of_made`: what such a path is spelled out to.
* `walk_mono`: a walk that ends still ends when it may follow more links.
* `locate_write_of_file`: a file is written over at its entry.
* `Keeps.walk`: where nothing is taken away, walks come where they came.
* `entry_remove`, `resolve_remove`: removing what leads to a file leaves the entries of all paths,
  and what leads elsewhere.
-/
namespace ScriptBuild.FileSystem

open Text.Utf8 (Bytes)

variable {files after : FileSystem} {purpose : Purpose} {links more : Nat}
  {here upper place spot : Place} {parts rest front : List Bytes} {path module : Path}
  {name : Bytes} {content : Bytes}

/-! ## What is read -/

/-- A path leads to the same content in both trees, or to none in both. -/
def ReadsAlike (files after : FileSystem) (path : Path) : Prop :=
  ∀ content, files.read path = .ok content ↔ after.read path = .ok content

theorem isFile_iff_read : files.isFile path = true ↔ ∃ content, files.read path = .ok content := by
  rw [isFile_iff]
  constructor
  · rintro ⟨place, content, hresolve, hnode⟩
    exact ⟨content, read_iff.mpr ⟨place, hresolve, hnode⟩⟩
  · rintro ⟨content, hread⟩
    obtain ⟨place, hresolve, hnode⟩ := read_iff.mp hread
    exact ⟨place, content, hresolve, hnode⟩

namespace ReadsAlike

theorem of_same (h : Same files after) : ReadsAlike files after path := by
  intro content
  simp only [read_iff, resolve, h.sameShape.locate, h.tree]

theorem isFile (h : ReadsAlike files after path) : after.isFile path = files.isFile path := by
  rw [Bool.eq_iff_iff, isFile_iff_read, isFile_iff_read]
  exact exists_congr fun content => (h content).symm

theorem checkFile (h : ReadsAlike files after path) :
    Source.checkFile after path = Source.checkFile files path := by
  simp only [Source.checkFile, h.isFile]

theorem sourceRead (h : ReadsAlike files after path) :
    Source.read after path = Source.read files path := by
  simp only [Source.read, h.checkFile]
  cases hcheck : Source.checkFile files path with
  | error failure => rfl
  | ok checked =>
    obtain ⟨content, hread⟩ := isFile_iff_read.mp (Source.checkFile_iff.mp hcheck)
    rw [hread, (h content).mp hread]

theorem header (h : ReadsAlike files after path) :
    Source.header after path = Source.header files path := by
  simp only [Source.header, h.sourceRead]

end ReadsAlike

/-- Every path that does not lead to the file that was made reads what it read. -/
theorem readsAlike_of_made (hfree : files.node? spot = none) (hmade : ChangedAt files after spot)
    (hother : after.resolve path ≠ .ok spot) : ReadsAlike files after path := by
  intro content
  rw [read_iff, read_iff]
  constructor
  · rintro ⟨place, hresolve, hnode⟩
    have hne : place ≠ spot := by
      rintro rfl
      simp [hfree] at hnode
    exact ⟨place, (hmade.symm (.inl hfree)).resolve hresolve hne, hmade.elsewhere place hne ▸ hnode⟩
  · rintro ⟨place, hresolve, hnode⟩
    have hne : place ≠ spot := by
      rintro rfl
      exact hother hresolve
    exact ⟨place, hmade.resolve hresolve hne, hmade.elsewhere place hne ▸ hnode⟩

/-! ## How a path is spelled out -/

theorem isSome_of_spelled (h : files.Spelled place) : (files.node? place).isSome := by
  rcases List.eq_nil_or_concat place with rfl | ⟨upper, name, rfl⟩
  · rfl
  · rw [List.concat_eq_append] at h ⊢
    obtain ⟨node, hnode, -⟩ := (h upper name List.prefix_rfl).present
    simp [hnode]

/-- Every path that is not spelled out as the file that was made is spelled out as it was. -/
theorem canonical_of_made (hfree : files.node? spot = none) (hmade : ChangedAt files after spot)
    (hother : after.locate .spell path ≠ .ok spot) (full : Path) :
    after.canonical path = .ok full ↔ files.canonical path = .ok full := by
  have hsame : ∀ place, after.locate .spell path = .ok place ↔
      files.locate .spell path = .ok place := by
    intro place
    constructor
    · intro hlocate
      exact hmade.locate_spell hlocate fun heq => hother (heq ▸ hlocate)
    · intro hlocate
      have hne : place ≠ spot := by
        rintro rfl
        simpa [hfree] using isSome_of_spelled (spelled_of_locate hlocate)
      exact (hmade.symm (.inl hfree)).locate_spell hlocate hne
  unfold canonical
  cases hafter : after.locate .spell path with
  | ok place => rw [(hsame place).mp hafter]
  | error cause =>
    cases hfiles : files.locate .spell path with
    | ok place => simp [(hsame place).mpr hfiles] at hafter
    | error cause' => simp [Except.map]

theorem fullPath_of_made (hfree : files.node? spot = none) (hmade : ChangedAt files after spot)
    (hother : after.locate .spell path ≠ .ok spot) :
    after.fullPath path = files.fullPath path := by
  have hsame := canonical_of_made hfree hmade hother
  unfold fullPath
  cases hafter : after.canonical path with
  | ok full => rw [(hsame full).mp hafter]
  | error cause =>
    cases hfiles : files.canonical path with
    | ok full => simp [(hsame full).mpr hfiles] at hafter
    | error cause' => simp [hmade.cwd]

/-! ## Writing over a file -/

/-- A walk for writing goes where the walk for using goes, as long as a name is to come. -/
theorem walk_write_append (hwalk : files.walk .use links here front = .ok upper) (hname : name ≠ []) :
    ∃ left, files.walk .write links here (front ++ [name]) =
      files.walk .write left upper [name] := by
  have hrefusal : ∀ here part rest, refusal? .write here part (rest ++ [name]) = none := by
    intro here part rest
    simp [refusal?, hname]
  fun_induction walk files .use links here front with
  | case1 links here =>
    cases hwalk
    exact ⟨links, rfl⟩
  | case5 links here part front hdir hidle ih =>
    obtain ⟨left, hleft⟩ := ih hwalk
    exact ⟨left, (walk_of_idle hdir hidle).trans hleft⟩
  | case6 links here front hdir hvisible ih =>
    obtain ⟨left, hleft⟩ := ih hwalk
    exact ⟨left, (walk_of_up hdir).trans hleft⟩
  | case9 links here part front hdir hvisible hdown hnone hfree hlong hpurpose =>
    exact absurd hpurpose.1 (by decide)
  | case12 here part front hdir hvisible hdown hnone target hlink links ih =>
    obtain ⟨left, hleft⟩ := ih (by simpa using hwalk)
    refine ⟨left, ?_⟩
    rw [List.cons_append, walk_of_link hdir hvisible hdown (hrefusal _ _ _) hlink]
    simpa using hleft
  | case13 links here part front hdir hvisible hdown hnone node hlink hnode ih =>
    obtain ⟨left, hleft⟩ := ih hwalk
    exact ⟨left, (walk_of_node hdir hvisible hdown (hrefusal _ _ _) hnode hlink).trans hleft⟩
  | _ => cases hwalk

theorem locate_write_of_file (hentry : files.entry path = .ok spot)
    (hnode : files.node? spot = some (.file content)) : files.locate .write path = .ok spot := by
  have hresolve := resolve_of_entry hentry hnode
  obtain ⟨hfit, -⟩ := (locate_iff (by decide)).mp hresolve
  obtain ⟨here, name, hparts, rfl, hvisible, hdown, -, -, hdir, hwalk⟩ := entry_iff.mp hentry
  obtain ⟨left, hleft⟩ := walk_write_append hwalk fun h => hvisible (.inl h)
  refine (locate_iff (by decide)).mpr ⟨hfit, ?_⟩
  rw [hparts, hleft, walk_of_node hdir hvisible hdown rfl hnode (by simp), walk]

/-! ## More than one file -/

/-- Nothing is taken away: what is there stays what it is, but for what is in the files. -/
structure Keeps (files after : FileSystem) : Prop where
  cwd : after.cwd = files.cwd
  node : ∀ place node, files.node? place = some node →
    ∃ node', after.node? place = some node' ∧ node'.shape = node.shape

namespace Keeps

theorem file (h : Keeps files after) (hnode : files.node? place = some (.file content)) :
    ∃ content', after.node? place = some (.file content') := by
  obtain ⟨node, hnode', hshape⟩ := h.node place _ hnode
  obtain ⟨-, old, rfl⟩ := Node.shape_eq_file.mp hshape
  exact ⟨old, hnode'⟩

theorem other {node : Node} (h : Keeps files after) (hnode : files.node? place = some node)
    (hfile : ∀ content, node ≠ .file content) : after.node? place = some node := by
  obtain ⟨node', hnode', hshape⟩ := h.node place _ hnode
  cases node with
  | file content => exact absurd rfl (hfile content)
  | _ => cases node' <;> simp_all [Node.shape]

theorem walk (h : Keeps files after) (hwalk : files.walk .use links here parts = .ok place) :
    after.walk .use links here parts = .ok place := by
  fun_induction FileSystem.walk files .use links here parts with
  | case1 links here =>
    cases hwalk
    rw [FileSystem.walk]
  | case5 links here part rest hdir hidle ih =>
    exact (walk_of_idle (h.other hdir (by simp)) hidle).trans (ih hwalk)
  | case6 links here rest hdir hvisible ih =>
    exact (walk_of_up (h.other hdir (by simp))).trans (ih hwalk)
  | case9 links here part rest hdir hvisible hdown hrefusal hnone hname hpurpose =>
    exact absurd hpurpose.1 (by decide)
  | case12 here part rest hdir hvisible hdown hrefusal target hlink links ih =>
    rw [walk_of_link (h.other hdir (by simp)) hvisible hdown rfl (h.other hlink (by simp))]
    simpa using ih (by simpa using hwalk)
  | case13 links here part rest hdir hvisible hdown hrefusal node hlink hnode ih =>
    have hdir' := h.other hdir (by simp)
    rw [← ih hwalk]
    cases node with
    | file content =>
      obtain ⟨content', hnode'⟩ := h.file hnode
      exact walk_of_node hdir' hvisible hdown rfl hnode' (by simp)
    | directory => exact walk_of_node hdir' hvisible hdown rfl (h.other hnode (by simp)) (by simp)
    | link target => exact absurd rfl (hlink target)
  | _ => cases hwalk

theorem resolve (h : Keeps files after) (hresolve : files.resolve path = .ok place) :
    after.resolve path = .ok place := by
  obtain ⟨hfit, hwalk⟩ := (locate_iff (by decide)).mp hresolve
  rw [← h.cwd] at hwalk
  exact (locate_iff (by decide)).mpr ⟨hfit, h.walk hwalk⟩

theorem entry (h : Keeps files after) (hentry : files.entry path = .ok place) :
    after.entry path = .ok place := by
  obtain ⟨here, name, hparts, hplace, hvisible, hdown, hzero, hshort, hdir, hwalk⟩ :=
    entry_iff.mp hentry
  rw [← h.cwd] at hwalk
  exact entry_iff.mpr ⟨here, name, hparts, hplace, hvisible, hdown, hzero, hshort,
    h.other hdir (by simp), h.walk hwalk⟩

theorem set_takesFile (hspot : files.TakesFile spot) :
    Keeps files (files.set spot (.file content)) where
  cwd := rfl
  node place node hnode := by
    by_cases heq : place = spot
    · subst heq
      obtain ⟨old, rfl⟩ : ∃ old, node = .file old := by
        rcases hspot with hnone | ⟨old, hold⟩
        · simp [hnone] at hnode
        · exact ⟨old, Option.some.inj (hnode.symm.trans hold)⟩
      exact ⟨.file content, node?_set_self hspot.ne_root _, rfl⟩
    · exact ⟨node, by rw [node?_set_of_ne heq, hnode], rfl⟩

/-- A file that is there afterwards may as well have been written before. -/
theorem set (h : Keeps files after) (hspot : after.node? spot = some (.file content)) :
    Keeps (files.set spot (.file content)) after where
  cwd := h.cwd
  node place node hnode := by
    by_cases heq : place = spot
    · subst heq
      have hne : place ≠ [] := TakesFile.ne_root (.inr ⟨_, hspot⟩)
      rw [node?_set_self hne] at hnode
      exact ⟨.file content, hspot, by rw [← Option.some.inj hnode]⟩
    · rw [node?_set_of_ne heq] at hnode
      exact h.node place node hnode

end Keeps

/-! ## Taking away what leads to a file -/

theorem walk_mono (hwalk : files.walk .use links here parts = .ok place) (hle : links ≤ more) :
    files.walk .use more here parts = .ok place := by
  fun_induction walk files .use links here parts generalizing more with
  | case1 links here =>
    cases hwalk
    rw [walk]
  | case5 links here part rest hdir hidle ih => exact (walk_of_idle hdir hidle).trans (ih hwalk hle)
  | case6 links here rest hdir hvisible ih => exact (walk_of_up hdir).trans (ih hwalk hle)
  | case9 links here part rest hdir hvisible hdown hrefusal hnode hname hpurpose =>
    exact absurd hpurpose.1 (by decide)
  | case12 here part rest hdir hvisible hdown hrefusal target hlink links ih =>
    obtain ⟨more, rfl⟩ : ∃ less, more = less + 1 := ⟨more - 1, by omega⟩
    rw [walk_of_link hdir hvisible hdown rfl hlink]
    simpa using ih (by simpa using hwalk) (by omega)
  | case13 links here part rest hdir hvisible hdown hrefusal node hlink hnode ih =>
    exact (walk_of_node hdir hvisible hdown rfl hnode hlink).trans (ih hwalk hle)
  | _ => cases hwalk

/-- From a name that leads to a file no walk comes anywhere else. -/
theorem eq_of_walk_to_file {other : Place} (hfile : files.walk .use links here [name] = .ok spot)
    (hnode : files.node? spot = some (.file content))
    (hwalk : files.walk .use more here (name :: rest) = .ok other) : other = spot := by
  have hfile' : files.walk .use (max links more) here [name] = .ok spot :=
    walk_mono hfile (Nat.le_max_left _ _)
  have hwalk' : files.walk .use (max links more) here ([name] ++ rest) = .ok other :=
    walk_mono hwalk (Nat.le_max_right _ _)
  obtain ⟨left, hleft⟩ : ∃ left, files.walk .use (max links more) here ([name] ++ rest) =
      files.walk .use left spot rest := walk_append hfile'
  exact ChangedAt.eq_of_walk_file hnode (hleft.symm.trans hwalk')

/-- So a walk that comes elsewhere does not need that name. -/
theorem walk_erase {other : Place} (hfile : files.walk .use links upper [name] = .ok spot)
    (hnode : files.node? spot = some (.file content))
    (hgone : files.node? (upper ++ [name]) ≠ some .directory)
    (hwalk : files.walk .use more here parts = .ok other) (hne : other ≠ spot) :
    (files.erase (upper ++ [name])).walk .use more here parts = .ok other := by
  have hdirectory : ∀ place, files.node? place = some .directory →
      (files.erase (upper ++ [name])).node? place = some .directory := by
    intro place hdir
    rwa [node?_erase_of_ne]
    rintro rfl
    exact hgone hdir
  -- A walk that goes down by that name ends at the file.
  have hdown : ∀ {links here part rest}, files.walk .use links here (part :: rest) = .ok other →
      here ++ [part] ≠ upper ++ [name] := by
    intro links here part rest hthrough heq
    obtain ⟨rfl, rfl⟩ : here = upper ∧ part = name := by simpa using heq
    exact hne (eq_of_walk_to_file hfile hnode hthrough)
  fun_induction walk files .use more here parts with
  | case1 more here =>
    cases hwalk
    rw [walk]
  | case5 more here part rest hdir hidle ih =>
    exact (walk_of_idle (hdirectory _ hdir) hidle).trans (ih hwalk)
  | case6 more here rest hdir hvisible ih =>
    exact (walk_of_up (hdirectory _ hdir)).trans (ih hwalk)
  | case9 more here part rest hdir hvisible hup hrefusal hfree hname hpurpose =>
    exact absurd hpurpose.1 (by decide)
  | case12 here part rest hdir hvisible hup hrefusal target hlink more ih =>
    have hplace : here ++ [part] ≠ upper ++ [name] :=
      hdown ((walk_of_link hdir hvisible hup rfl hlink).trans (by simpa using hwalk))
    rw [walk_of_link (hdirectory _ hdir) hvisible hup rfl (by rwa [node?_erase_of_ne hplace])]
    simpa using ih (by simpa using hwalk)
  | case13 more here part rest hdir hvisible hup hrefusal node hlink hsome ih =>
    have hplace : here ++ [part] ≠ upper ++ [name] :=
      hdown ((walk_of_node hdir hvisible hup rfl hsome hlink).trans hwalk)
    exact (walk_of_node (hdirectory _ hdir) hvisible hup rfl (by rwa [node?_erase_of_ne hplace])
      hlink).trans (ih hwalk)
  | _ => cases hwalk

theorem cwd_remove (files : FileSystem) (path : Path) : (files.remove path).cwd = files.cwd := by
  unfold remove
  split
  · rfl
  · split <;> rfl

/-- What is removed is what the path is the entry of. -/
theorem node?_remove_of_entry_ne (hne : files.entry path ≠ .ok spot) :
    (files.remove path).node? spot = files.node? spot := by
  unfold remove
  split
  · rfl
  · rename_i place hplace
    have hspot : spot ≠ place := by
      rintro rfl
      exact hne hplace
    split
    · exact node?_erase_of_ne hspot
    · exact node?_erase_of_ne hspot
    · rfl

theorem directory_remove (path : Path) (hdir : files.node? here = some .directory) :
    (files.remove path).node? here = some .directory := by
  by_cases hentry : files.entry path = .ok here
  · simp [remove, hentry, hdir]
  · rw [node?_remove_of_entry_ne hentry, hdir]

variable {file other : Place}

/-- A walk that does not come to the file does without what is removed. -/
theorem walk_remove (hresolve : files.resolve path = .ok file)
    (hnode : files.node? file = some (.file content))
    (hwalk : files.walk .use more here parts = .ok other) (hne : other ≠ file) :
    (files.remove path).walk .use more here parts = .ok other := by
  unfold remove
  split
  · exact hwalk
  · rename_i place hplace
    obtain ⟨upper, name, hparts, rfl, -, -, -, -, -, hupper⟩ := entry_iff.mp hplace
    have hfile := ((locate_iff (by decide)).mp hresolve).2
    obtain ⟨left, hleft⟩ : ∃ left, files.walk .use linkLimit
        (if path.isAbsolute then [] else files.cwd) (path.parts.dropLast ++ [name]) =
        files.walk .use left upper [name] := walk_append hupper
    rw [hparts, hleft] at hfile
    split
    · rename_i hgone
      exact walk_erase hfile hnode (by simp [hgone]) hwalk hne
    · rename_i hgone
      exact walk_erase hfile hnode (by simp [hgone]) hwalk hne
    · exact hwalk

theorem entry_remove (hresolve : files.resolve path = .ok file)
    (hnode : files.node? file = some (.file content)) (hentry : files.entry module = .ok spot) :
    (files.remove path).entry module = .ok spot := by
  obtain ⟨upper, name, hparts, hspot, hvisible, hdown, hzero, hshort, hdir, hupper⟩ :=
    entry_iff.mp hentry
  have hne : upper ≠ file := by
    rintro rfl
    simp [hnode] at hdir
  rw [← cwd_remove files path] at hupper
  exact entry_iff.mpr ⟨upper, name, hparts, hspot, hvisible, hdown, hzero, hshort,
    directory_remove path hdir, walk_remove hresolve hnode hupper hne⟩

theorem resolve_remove (hresolve : files.resolve path = .ok file)
    (hnode : files.node? file = some (.file content)) (hother : files.resolve module = .ok other)
    (hne : other ≠ file) : (files.remove path).resolve module = .ok other := by
  obtain ⟨hfit, hwalk⟩ := (locate_iff (by decide)).mp hother
  rw [← cwd_remove files path] at hwalk
  exact (locate_iff (by decide)).mpr ⟨hfit, walk_remove hresolve hnode hwalk hne⟩

end ScriptBuild.FileSystem
