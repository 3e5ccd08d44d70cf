import ScriptBuild.Proofs.FileSystem.Removal

/-!
# Paths with another extension

The extension belongs to the last name of a path, so with another one the path still goes through
the same directories and ends in another name there. Two files of one directory are the same only if
their names are, or if one of them is a link.

Everything here is about octets in front of the last slash and behind it. Dots and slashes at the
end of a path belong to no name, and a path that ends in two dots has none. Only a path that leads
to a file is sure to have a last name that stands in a directory, and that is what the condition on
the path comes to. One dot in front of the extension is no stem, so the path `..x` is renamed to two
dots.

Being the same file is said of two paths and one tree: both lead to one place with a file. A path
and the same path with another extension have their last names in the same directory, so if both
lead to one file, either a link is involved or the names are equal.

**Results.**
* `Path.withExtension_of_opens`: what becomes of the octets.
* `Path.withExtension_of_parts`: what becomes of the parts.
* `exists_name_of_file`, `entry_of_file`: a path to a file ends in a name, and leads to the entry of
  that name unless it is a link.
* `withExtension_eq_of_sameFile`: when a path leads to the same file with another extension.
-/
namespace ScriptBuild

open FileSystem (Proper)
open Text.Utf8 (Bytes)

namespace Path

/-! ## Last names -/

/-- These octets can stand in front of a name: there are none, or they end in a slash. -/
def Opens (front : Bytes) : Prop := front = [] ∨ ∃ upper, front = upper ++ [slash]

theorem exists_opens (cs : Bytes) :
    ∃ front name, cs = front ++ name ∧ Opens front ∧ slash ∉ name := by
  induction cs with
  | nil => exact ⟨[], [], rfl, .inl rfl, by simp⟩
  | cons c cs ih =>
    obtain ⟨front, name, rfl, hfront | ⟨upper, rfl⟩, hname⟩ := ih
    · subst hfront
      by_cases hc : c = slash
      · exact ⟨[slash], name, by simp [hc], .inr ⟨[], rfl⟩, hname⟩
      · exact ⟨[], c :: name, rfl, .inl rfl, by simp [hname, Ne.symm hc]⟩
    · exact ⟨c :: (upper ++ [slash]), name, rfl, .inr ⟨c :: upper, rfl⟩, hname⟩

theorem exists_parts_of_opens {front : Bytes} (h : Opens front) :
    ∃ upper, ∀ name, slash ∉ name →
      (⟨front ++ name⟩ : Path).parts = upper ++ [name] := by
  have hname : ∀ name, slash ∉ name → (⟨name⟩ : Path).parts = [name] := by
    intro name hslash
    simp [parts, Text.cutAll_eq_splitOn, List.splitOn_eq_singleton hslash]
  rcases h with rfl | ⟨upper, rfl⟩
  · exact ⟨[], hname⟩
  · refine ⟨(⟨upper⟩ : Path).parts, fun name hslash => ?_⟩
    rw [List.append_assoc, List.singleton_append, parts_slash, hname name hslash]

theorem isAbsolute_of_opens {front name : Bytes} (hfront : Opens front) (hslash : slash ∉ name) :
    (⟨front ++ name⟩ : Path).isAbsolute = (front.head? == some slash) := by
  unfold isAbsolute
  rcases hfront with rfl | ⟨upper, rfl⟩
  · cases name with
    | nil => rfl
    | cons c name =>
      have hc : c ≠ slash := fun hc => hslash (by simp [hc])
      simp [hc]
  · cases upper <;> rfl

/-! ## Another extension -/

/-- A last name with another extension, unless nothing but one dot is left of it in front. -/
def renamed (name extension : Bytes) : Bytes :=
  let stem := stemBack name.reverse
  if stem = [dot] then [dot, dot] else stem.reverse ++ dot :: extension

theorem lead_append_drop (cs : Bytes) : lead cs ++ cs.drop (lead cs).length = cs := by
  unfold lead
  split <;> simp

section

variable {front name : Bytes}

theorem length_lead_le (hfront : Opens front) (hslash : slash ∉ name) (hdot : name ≠ [dot]) :
    (lead (front ++ name)).length ≤ front.length := by
  rcases hfront with rfl | ⟨upper, rfl⟩
  · rw [List.nil_append]
    unfold lead
    split
    · simp at hslash
    · exact absurd rfl hdot
    · simp at hslash
    · simp
  · unfold lead
    split <;> simp

theorem opens_drop (hfront : Opens front) (count : Nat) (hcount : count ≤ front.length) :
    Opens (front.drop count) := by
  rcases hfront with rfl | ⟨upper, rfl⟩
  · exact .inl (by simp)
  · by_cases hlast : count ≤ upper.length
    · exact .inr ⟨upper.drop count, by rw [List.drop_append_of_le_length hlast]⟩
    · exact .inl (List.drop_eq_nil_of_le (by simp at hcount ⊢; omega))

theorem dropIdle_of_opens (hslash : slash ∉ name) (hempty : name ≠ [])
    (hdot : name ≠ [dot]) : dropIdle (front ++ name).reverse = (front ++ name).reverse := by
  rw [List.reverse_append]
  have hmem : ∀ c ∈ name.reverse, c ≠ slash := fun c hc h => hslash (by simpa [h] using hc)
  cases hback : name.reverse with
  | nil => simp_all
  | cons c back =>
    have hc : c ≠ slash := hmem c (by simp [hback])
    cases back with
    | nil =>
      have : c ≠ dot := by
        rintro rfl
        exact hdot (by simpa using congrArg List.reverse hback)
      unfold dropIdle
      split <;> simp_all
    | cons d back =>
      have hd : d ≠ slash := hmem d (by simp [hback])
      unfold dropIdle
      split <;> simp_all

/-- Read backwards, the last name goes up to the first slash. -/
theorem cut_of_opens (hfront : Opens front) (hslash : slash ∉ name) :
    (front ++ name).reverse.takeWhile (· != slash) = name.reverse ∧
    (front ++ name).reverse.dropWhile (· != slash) = front.reverse := by
  have hmem : ∀ c ∈ name.reverse, (c != slash) = true := by
    intro c hc
    simp only [bne_iff_ne, ne_eq]
    rintro rfl
    exact hslash (by simpa using hc)
  rw [List.reverse_append, List.takeWhile_append_of_pos hmem, List.dropWhile_append_of_pos hmem]
  rcases hfront with rfl | ⟨upper, rfl⟩ <;> simp

theorem lastPart_of_opens (hfront : Opens front) (hslash : slash ∉ name) (hempty : name ≠ [])
    (hdot : name ≠ [dot]) :
    (⟨front ++ name⟩ : Path).lastPart =
      some (name.reverse, (front.drop (lead (front ++ name)).length).reverse) := by
  have hlead := length_lead_le hfront hslash hdot
  obtain ⟨htake, hdrop⟩ := cut_of_opens (opens_drop hfront _ hlead) hslash
  unfold lastPart
  rw [List.drop_append_of_le_length hlead, dropIdle_of_opens hslash hempty hdot]
  split
  · simp_all
  · rw [htake, hdrop]

/-- The last name is renamed, and what is in front of it stays. -/
theorem withExtension_of_opens (hfront : Opens front) (hslash : slash ∉ name)
    (hname : Proper name) (extension : Bytes) :
    (⟨front ++ name⟩ : Path).withExtension extension =
      ⟨front ++ renamed name extension⟩ := by
  have hempty : name ≠ [] := by
    rintro rfl
    exact hname.visible (.inl rfl)
  have hdot : name ≠ [dot] := by
    rintro rfl
    exact hname.visible (.inr rfl)
  have hup : (name.reverse == [dot, dot]) = false := by
    rw [beq_eq_false_iff_ne]
    intro h
    obtain rfl : name = [dot, dot] := by simpa using congrArg List.reverse h
    exact hname.down rfl
  have hkept : lead (front ++ name) ++ front.drop (lead (front ++ name)).length = front := by
    have hwhole := lead_append_drop (front ++ name)
    rw [List.drop_append_of_le_length (length_lead_le hfront hslash hdot),
      ← List.append_assoc] at hwhole
    exact List.append_cancel_right hwhole
  unfold withExtension
  rw [lastPart_of_opens hfront hslash hempty hdot]
  simp only [hup, List.reverse_reverse, hkept, renamed, beq_iff_eq]
  by_cases hstem : stemBack name.reverse = [dot]
  · simp [hstem]
  · simp [hstem]

theorem stemBack_subset (name : Bytes) : stemBack name ⊆ name := by
  unfold stemBack
  split
  · rename_i stem hdot
    split
    · exact List.Subset.refl _
    · refine List.Subset.trans (List.subset_cons_self dot stem) ?_
      exact hdot ▸ (List.dropWhile_sublist _).subset
  · exact List.Subset.refl _

theorem slash_notMem_renamed {name extension : Bytes} (hname : slash ∉ name)
    (hextension : slash ∉ extension) : slash ∉ renamed name extension := by
  have hstem : slash ∉ stemBack name.reverse := fun hmem =>
    hname (List.mem_reverse.mp (stemBack_subset _ hmem))
  simp only [renamed]
  split
  · decide
  · simp [hstem, hextension]

end

variable {path : Path} {upper : List Bytes} {name extension : Bytes}

/-- With another extension a path has another last name, and it is the same if that is. -/
theorem withExtension_of_parts (hparts : path.parts = upper ++ [name]) (hname : Proper name)
    (hextension : slash ∉ extension) :
    (path.withExtension extension).parts = upper ++ [renamed name extension] ∧
    (path.withExtension extension).isAbsolute = path.isAbsolute ∧
    (renamed name extension = name → path.withExtension extension = path) := by
  obtain ⟨front, last, hoctets, hfront, hslash⟩ := exists_opens path.octets
  obtain rfl : path = ⟨front ++ last⟩ := by rw [← hoctets]
  obtain ⟨outer, houter⟩ := exists_parts_of_opens hfront
  obtain ⟨rfl, hlast⟩ := List.append_inj' ((houter last hslash).symm.trans hparts) rfl
  obtain rfl : last = name := by simpa using hlast
  have hnew : slash ∉ renamed last extension := slash_notMem_renamed hslash hextension
  have hwith := withExtension_of_opens hfront hslash hname extension
  refine ⟨?_, ?_, fun hsame => ?_⟩
  · rw [hwith, houter _ hnew]
  · rw [hwith, isAbsolute_of_opens hfront hnew, isAbsolute_of_opens hfront hslash]
  · rw [hwith, hsame]

end Path

/-! ## Files of one directory -/

namespace FileSystem

variable {files : FileSystem} {path : Path} {place : Place} {content : Bytes}
  {extension : Bytes}

theorem exists_name_of_file (hcwd : files.Settled files.cwd)
    (hresolve : files.resolve path = .ok place) (hfile : files.node? place = some (.file content)) :
    ∃ upper name, path.parts = upper ++ [name] ∧ Proper name := by
  obtain ⟨-, hwalk⟩ := (locate_iff (by decide)).mp hresolve
  have hstart : files.Settled (if path.isAbsolute then [] else files.cwd) := by
    split
    · exact .root
    · exact hcwd
  rcases List.eq_nil_or_concat path.parts with hnil | ⟨upper, name, hparts⟩
  · simp [Path.parts, Text.cutAll_ne_nil] at hnil
  · rw [List.concat_eq_append] at hparts
    rw [hparts] at hwalk
    obtain ⟨here, left, huse, hdir, hlast⟩ := exists_directory_of_walk hwalk
    refine ⟨upper, name, hparts, fun hidle => ?_, ?_⟩
    · rw [walk_of_idle hdir hidle, walk] at hlast
      obtain rfl : here = place := Except.ok.inj hlast
      simp [hdir] at hfile
    · rintro rfl
      rw [walk_of_up hdir, walk] at hlast
      obtain rfl : here.dropLast = place := Except.ok.inj hlast
      -- Going up leads to a directory, since there are directories all the way down.
      have hup := (settled_of_walk huse hstart).directories hdir _ (List.dropLast_prefix here)
      simp [hup] at hfile

def SameFile (files : FileSystem) (path other : Path) : Prop :=
  ∃ place content, files.resolve path = .ok place ∧ files.resolve other = .ok place ∧
    files.node? place = some (.file content)

def LinkAt (files : FileSystem) (path : Path) : Prop :=
  ∃ spot target, files.entry path = .ok spot ∧ files.node? spot = some (.link target)

/-- A path to a file leads to its own entry, unless that is a link. -/
theorem entry_of_file (hcwd : files.Settled files.cwd) (hresolve : files.resolve path = .ok place)
    (hfile : files.node? place = some (.file content)) :
    files.LinkAt path ∨ files.entry path = .ok place := by
  obtain ⟨upper, name, hparts, hname⟩ := exists_name_of_file hcwd hresolve hfile
  obtain ⟨spot, hentry, hspot⟩ := entry_of_locate (by decide) hresolve hparts hname
  by_cases hlink : ∃ target, files.node? spot = some (.link target)
  · obtain ⟨target, htarget⟩ := hlink
    exact .inl ⟨spot, target, hentry, htarget⟩
  · obtain rfl : place = spot := hspot (not_exists.mp hlink)
    exact .inr hentry

/-- A path leads to the same file with another extension only if it has that one or either path
is a link's. -/
theorem withExtension_eq_of_sameFile (hcwd : files.Settled files.cwd)
    (hextension : Path.slash ∉ extension)
    (same : files.SameFile (path.withExtension extension) path) :
    files.LinkAt (path.withExtension extension) ∨ files.LinkAt path ∨
      path.withExtension extension = path := by
  obtain ⟨place, content, hnew, hold, hfile⟩ := same
  rcases entry_of_file hcwd hnew hfile with hlink | hnew
  · exact .inl hlink
  rcases entry_of_file hcwd hold hfile with hlink | hold
  · exact .inr (.inl hlink)
  refine .inr (.inr ?_)
  -- Both are the entry of the file, so the last names are the same.
  obtain ⟨here, name, hparts, rfl, hvisible, hdown, -⟩ := entry_iff.mp hold
  obtain ⟨here', name', hparts', hplace, -⟩ := entry_iff.mp hnew
  obtain ⟨hrenamed, -, hsame⟩ :=
    Path.withExtension_of_parts hparts ⟨hvisible, hdown⟩ hextension
  obtain ⟨-, hname⟩ := List.append_inj' hplace rfl
  obtain ⟨-, hlast⟩ := List.append_inj' (hrenamed.symm.trans hparts') rfl
  exact hsame (List.singleton_inj.mp (hlast.trans hname.symm))

end FileSystem

end ScriptBuild
