import Mathlib
import ScriptBuild.Proofs.FileSystem.Canonical
import ScriptBuild.Script.Directive

/-!
# What a search for directives finds

A search reads header lines one by one. `next` is followed here line by line, and what it finds is
tied to the line it stands on.

The list of all that a search finds is described by the search itself, from the first step on; so
there is one equation for each way a line can go: it is passed over, it ends the search, it is
faulty, it is a directive. Everything else is by induction on the lines with these.

An include is spelled out by the tree at the time. So what a line means depends on the tree, and
only through the full path of what is written; lines that are no includes mean the same in every
tree.

**Results.**
* `items_of_next_none`, `items_of_next_some`: what is found is what the next step finds, and then
  what is found from there on.
* `items_of_cons`: line by line, what is found is what the lines mean.
* `mem_items_congr`: an include that is spelled out the same is found in both trees.
* `exists_text_of_mem_items`: a directive found at a line is what that line of the header means.
* `includePath?_of_meaning`: the target of an include is the full path of what its line writes.
* `meaning_congr`: a line means the same if what it includes is spelled out the same.
* `meaning_of_spelled`: what is written canonically is included as it is written.
-/
namespace ScriptBuild

namespace Header

/-- The path that an include line writes, seen from where its delimiters say. -/
def includePath? (directory reference : Path) (line : String) : Option Path :=
  match splitCommand line with
  | none => none
  | some (command, raw) =>
    if command = Directive.includeCommand then
      (Argument.read? raw).map fun argument =>
        (argument.base directory reference).join ⟨argument.inner⟩
    else none

theorem includePath?_of_meaning {files : FileSystem} {directory reference target : Path}
    {line : String}
    (h : meaning files directory reference line = .ok (.found (.includes target))) :
    ∃ path, includePath? directory reference line = some path ∧ target = files.fullPath path := by
  unfold meaning at h
  unfold includePath?
  cases hsplit : splitCommand line with
  | none => simp [hsplit] at h
  | some parts =>
    obtain ⟨command, raw⟩ := parts
    simp only [hsplit] at h ⊢
    split at h
    · cases h
    · cases hread : Argument.read? raw with
      | none =>
        simp only [hread] at h
        split at h <;> cases h
      | some argument =>
        simp only [hread] at h
        split at h
        · cases h
        · split at h
          · cases h
          · split at h
            · rename_i hcommand
              cases h
              exact ⟨_, by simp [hcommand], rfl⟩
            · cases h

theorem meaning_of_include {files : FileSystem} {directory reference : Path} {line raw : String}
    {argument : Argument} (split : splitCommand line = some (Directive.includeCommand, raw))
    (read : Argument.read? raw = some argument) :
    meaning files directory reference line = .ok (.found (.includes
      (files.fullPath ((argument.base directory reference).join ⟨argument.inner⟩)))) := by
  simp [meaning, split, read, Directive.versionCommand, Directive.modeCommand,
    Directive.referenceCommand, Directive.includeCommand]

theorem meaning_of_includePath? {directory reference path : Path} {line : String}
    (h : includePath? directory reference line = some path) (files : FileSystem) :
    meaning files directory reference line = .ok (.found (.includes (files.fullPath path))) := by
  unfold includePath? at h
  cases hsplit : splitCommand line with
  | none => simp [hsplit] at h
  | some parts =>
    obtain ⟨command, raw⟩ := parts
    simp only [hsplit] at h
    split at h
    · rename_i hcommand
      subst hcommand
      obtain ⟨argument, hread, rfl⟩ := Option.map_eq_some_iff.mp h
      exact meaning_of_include hsplit hread
    · cases h

/-- A line means the same if the path it includes is spelled out the same. -/
theorem meaning_congr {files after : FileSystem} {directory reference : Path} {line : String}
    (h : ∀ path, includePath? directory reference line = some path →
      after.fullPath path = files.fullPath path) :
    meaning after directory reference line = meaning files directory reference line := by
  cases hpath : includePath? directory reference line with
  | some path => rw [meaning_of_includePath? hpath, meaning_of_includePath? hpath, h path hpath]
  | none =>
    unfold meaning
    unfold includePath? at hpath
    cases hsplit : splitCommand line with
    | none => rfl
    | some parts =>
      obtain ⟨command, raw⟩ := parts
      simp only [hsplit] at hpath ⊢
      split
      · rfl
      · cases hread : Argument.read? raw with
        | none => rfl
        | some argument =>
          have hcommand : command ≠ Directive.includeCommand := by
            rintro rfl
            simp [hread] at hpath
          simp only [if_neg hcommand]

theorem meaning_of_absolute {files : FileSystem} {directory reference : Path} {line raw : String}
    {inner : String} (split : splitCommand line = some (Directive.includeCommand, raw))
    (read : Argument.read? raw = some (.quoted inner))
    (habsolute : (⟨inner⟩ : Path).isAbsolute = true) :
    meaning files directory reference line = .ok (.found (.includes (files.fullPath ⟨inner⟩))) := by
  rw [meaning_of_include split read]
  change Except.ok (LineMeaning.found (.includes (files.fullPath (directory.join ⟨inner⟩)))) = _
  rw [Path.join_absolute habsolute]

theorem meaning_of_spelled {files : FileSystem} {place : Place} {directory reference : Path}
    {line raw inner : String} (spelled : files.Spelled place) (path : place.path = ⟨inner⟩)
    (split : splitCommand line = some (Directive.includeCommand, raw))
    (read : Argument.read? raw = some (.quoted inner)) :
    meaning files directory reference line = .ok (.found (.includes ⟨inner⟩)) := by
  have habsolute : (⟨inner⟩ : Path).isAbsolute = true := path ▸ Place.isAbsolute_path place
  have hfull : files.fullPath ⟨inner⟩ = ⟨inner⟩ := by
    rw [← path, FileSystem.fullPath_path_of_spelled spelled]
  rw [meaning_of_absolute split read habsolute, hfull]

theorem meaning_modeComplex (files : FileSystem) (directory reference : Path) :
    meaning files directory reference "//#mode complex" = .ok .skip := by
  cbv

end Header

namespace HeaderScan

variable {files : FileSystem} {scan after : HeaderScan}

theorem next_of_nil (hrest : scan.rest = []) : scan.next files = (none, scan) := by
  rw [next]
  split <;> simp_all

theorem next_of_skip {text : String} {rest : List String} (hrest : scan.rest = text :: rest)
    (hmeaning : Header.meaning files scan.directory scan.reference text = .ok .skip) :
    scan.next files =
      ({ scan with rest := rest, line := scan.line + 1 } : HeaderScan).next files := by
  rw [next]
  split <;> simp_all

theorem next_of_found {text : String} {rest : List String} {directive : Directive}
    (hrest : scan.rest = text :: rest)
    (hmeaning : Header.meaning files scan.directory scan.reference text = .ok (.found directive)) :
    scan.next files =
      (some (.ok (scan.line + 1, directive)),
        { scan with rest := rest, line := scan.line + 1 }) := by
  rw [next]
  split <;> simp_all

theorem next_of_stop {text : String} {rest : List String} (hrest : scan.rest = text :: rest)
    (hmeaning : Header.meaning files scan.directory scan.reference text = .ok .stop) :
    scan.next files = (none, { scan with rest := [], line := scan.line + 1 }) := by
  rw [next]
  split <;> simp_all

theorem next_of_fault {text : String} {rest : List String} {fault : DirectiveFault}
    (hrest : scan.rest = text :: rest)
    (hmeaning : Header.meaning files scan.directory scan.reference text = .error fault) :
    scan.next files =
      (some (.error ⟨scan.file, scan.line + 1, fault⟩),
        { scan with rest := [], line := scan.line + 1 }) := by
  rw [next]
  split <;> simp_all

theorem items_of_next_none (h : scan.next files = (none, after)) : scan.items files = [] := by
  rw [items, run]
  split <;> simp_all

theorem items_of_next_some {item : Item} (h : scan.next files = (some item, after)) :
    scan.items files = item :: after.items files := by
  rw [items, run]
  split
  · simp_all
  · rename_i item' after' hnext
    obtain ⟨rfl, rfl⟩ : item = item' ∧ after = after' := by simpa [h] using hnext
    rfl

theorem next_found {line : Nat} {directive : Directive}
    (h : scan.next files = (some (.ok (line, directive)), after)) :
    ∃ index text, scan.rest[index]? = some text ∧ line = scan.line + index + 1 ∧
      Header.meaning files scan.directory scan.reference text = .ok (.found directive) ∧
      after = { scan with rest := scan.rest.drop (index + 1), line := line } := by
  fun_induction next files scan with
  | case1 scan hrest => cases h
  | case2 scan text rest hrest after' hm ih =>
    obtain ⟨index, text', hget, hline, hmeans, rfl⟩ := ih h
    refine ⟨index + 1, text', ?_, ?_, hmeans, ?_⟩
    · simpa [hrest, after'] using hget
    · simp only [after'] at hline
      omega
    · simp [hrest, after']
  | case3 scan text rest hrest after' hm => cases h
  | case4 scan text rest hrest after' directive' hm =>
    obtain ⟨hitem, hafter⟩ := Prod.mk.inj h
    obtain ⟨rfl, rfl⟩ : after'.line = line ∧ directive' = directive := by simpa using hitem
    exact ⟨0, text, by simp [hrest], rfl, hm, by simp [← hafter, hrest, after']⟩
  | case5 scan text rest hrest after' fault hm => cases h

theorem rest_of_next_error {error : DirectiveError}
    (h : scan.next files = (some (.error error), after)) : after.rest = [] := by
  fun_induction next files scan with
  | case1 scan hrest => cases h
  | case2 scan text rest hrest after' hm ih => exact ih h
  | case3 scan text rest hrest after' hm => cases h
  | case4 scan text rest hrest after' directive hm => simp at h
  | case5 scan text rest hrest after' fault hm =>
    cases h
    rfl

/-- An error stands on a line of the file that is still to read. -/
theorem place_of_next_error {error : DirectiveError}
    (h : scan.next files = (some (.error error), after)) :
    error.file = scan.file ∧ scan.line < error.line ∧
      error.line ≤ scan.line + scan.rest.length := by
  fun_induction next files scan with
  | case1 scan hrest => cases h
  | case2 scan text rest hrest after' hm ih =>
    obtain ⟨hfile, hlow, hhigh⟩ := ih h
    refine ⟨hfile, ?_, ?_⟩
    · simp only [after'] at hlow
      omega
    · simp only [after'] at hhigh
      simp only [hrest, List.length_cons]
      omega
  | case3 scan text rest hrest after' hm => cases h
  | case4 scan text rest hrest after' directive hm => simp at h
  | case5 scan text rest hrest after' fault hm =>
    cases h
    simp [after', hrest]

theorem items_of_nil (hrest : scan.rest = []) : scan.items files = [] :=
  items_of_next_none (next_of_nil hrest)

/-- Line by line, what is found is what the lines mean. -/
theorem items_of_cons {text : String} {rest : List String} (hrest : scan.rest = text :: rest) :
    scan.items files =
      match Header.meaning files scan.directory scan.reference text with
      | .ok .skip => ({ scan with rest := rest, line := scan.line + 1 } : HeaderScan).items files
      | .ok .stop => []
      | .ok (.found directive) => .ok (scan.line + 1, directive) ::
          ({ scan with rest := rest, line := scan.line + 1 } : HeaderScan).items files
      | .error fault => [.error ⟨scan.file, scan.line + 1, fault⟩] := by
  cases hmeaning : Header.meaning files scan.directory scan.reference text with
  | ok meaning =>
    cases meaning with
    | skip =>
      have hnext := next_of_skip hrest hmeaning
      cases hlater : ({ scan with rest := rest, line := scan.line + 1 } : HeaderScan).next files with
      | mk item after =>
        cases item with
        | none => rw [items_of_next_none (hnext.trans hlater), items_of_next_none hlater]
        | some item => rw [items_of_next_some (hnext.trans hlater), items_of_next_some hlater]
    | stop => exact items_of_next_none (next_of_stop hrest hmeaning)
    | found directive => exact items_of_next_some (next_of_found hrest hmeaning)
  | error fault =>
    rw [items_of_next_some (next_of_fault hrest hmeaning), items_of_nil rfl]

/-- An include that is spelled out the same is found in both trees. -/
theorem mem_items_congr {after : FileSystem} {line : Nat} {target : Path}
    (h : .ok (line, .includes target) ∈ scan.items files)
    (htarget : ∀ path, files.fullPath path = target → after.fullPath path = target) :
    .ok (line, .includes target) ∈ scan.items after := by
  induction hrest : scan.rest generalizing scan with
  | nil => simp [items_of_nil hrest] at h
  | cons text rest ih =>
    rw [items_of_cons hrest] at h ⊢
    cases hpath : Header.includePath? scan.directory scan.reference text with
    | some path =>
      rw [Header.meaning_of_includePath? hpath] at h ⊢
      rcases List.mem_cons.mp h with hfound | hlater
      · obtain ⟨rfl, hfull⟩ : line = scan.line + 1 ∧ target = files.fullPath path := by
          simpa using hfound
        rw [htarget path hfull.symm]
        exact List.mem_cons_self
      · exact List.mem_cons_of_mem _ (ih hlater rfl)
    | none =>
      -- A line that includes nothing means the same in both trees.
      have hmeaning : Header.meaning after scan.directory scan.reference text =
          Header.meaning files scan.directory scan.reference text :=
        Header.meaning_congr (by simp [hpath])
      rw [hmeaning]
      split at h
      · exact ih h rfl
      · exact h
      · rcases List.mem_cons.mp h with hfound | hlater
        · exact hfound ▸ List.mem_cons_self
        · exact List.mem_cons_of_mem _ (ih hlater rfl)
      · exact h

/-- A directive found at a line is what that line means. -/
theorem exists_text_of_mem_items {line : Nat} {directive : Directive}
    (h : .ok (line, directive) ∈ scan.items files) :
    ∃ index text, scan.rest[index]? = some text ∧ line = scan.line + index + 1 ∧
      Header.meaning files scan.directory scan.reference text = .ok (.found directive) := by
  induction hlength : scan.rest.length using Nat.strongRecOn generalizing scan with
  | ind length ih =>
    cases hnext : scan.next files with
    | mk item after =>
      cases item with
      | none => simp [items_of_next_none hnext] at h
      | some item =>
        rw [items_of_next_some hnext, List.mem_cons] at h
        rcases h with rfl | h
        · obtain ⟨index, text, hget, hline, hmeans, -⟩ := next_found hnext
          exact ⟨index, text, hget, hline, hmeans⟩
        · cases item with
          | error error => simp [items_of_nil (rest_of_next_error hnext)] at h
          | ok found =>
            obtain ⟨index, text, -, hline, -, rfl⟩ := next_found hnext
            have hshorter := next_shortens hnext
            obtain ⟨index', text', hget', hline', hmeans'⟩ := ih _ (hlength ▸ hshorter) h rfl
            refine ⟨index + 1 + index', text', ?_, ?_, hmeans'⟩
            · simpa [List.getElem?_drop] using hget'
            · simp only at hline'
              omega

end HeaderScan

end ScriptBuild
