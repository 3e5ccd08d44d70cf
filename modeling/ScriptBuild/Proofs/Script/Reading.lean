import ScriptBuild.Proofs.Text.Trimming
import ScriptBuild.Script.Mode

/-!
# Reading source files

What an operation on a source file gives, when it is known where the path leads and what stands
there.

An operation on a source file asks first whether a file is there, and only then for what is in it.
The lemmas go the other way: from the place that a path leads to, and the content there, to what
each operation gives. So proofs about fixed trees have to say where their paths lead, and nothing
about how that was found.

Two paths that lead to one place agree on everything but their spelling. An error of the mode names
the path, which is why agreement on modes is stated for those that are declared.

**Results.**
* `isFile_iff`, `checkFile_iff`: what a path has to lead to.
* `read_of_resolve`, `header_of_resolve`: the text and the header of a file.
* `declaredFrom_cons_of_sets`, `declaredFrom_cons_of_unset`: a line that sets the mode decides, and
  any other is passed over.
* `declared_of_resolve_eq`: a mode is the file's, not the path's.
* `source_of_probe`: what exists and does not open as a module is source text.
-/
namespace ScriptBuild

open Text.Utf8 (Bytes)

variable {files : FileSystem} {path : Path} {place : Place} {content : Bytes}

namespace FileSystem

theorem isFile_iff : files.isFile path = true ↔
    ∃ place content, files.resolve path = .ok place ∧ files.node? place = some (.file content) := by
  unfold isFile find?
  constructor
  · intro h
    split at h
    · rename_i content hfind
      split at hfind
      · exact ⟨_, content, by assumption, hfind⟩
      · cases hfind
    · cases h
  · rintro ⟨place, content, located, node⟩
    simp [located, node]

theorem nonempty_of_resolve (h : files.resolve path = .ok place) : path.octets.isEmpty = false := by
  unfold resolve locate at h
  split at h
  · cases h
  · rename_i hempty
    simpa using hempty

end FileSystem

namespace Source

theorem checkFile_iff : checkFile files path = .ok () ↔ files.isFile path = true := by
  unfold checkFile
  constructor
  · intro h
    split at h
    · cases h
    · split at h
      · assumption
      · cases h
  · intro hfile
    obtain ⟨place, content, located, -⟩ := FileSystem.isFile_iff.mp hfile
    rw [if_neg (by simp [FileSystem.nonempty_of_resolve located]), if_pos hfile]

theorem canonical_of_locate {full : Place} (located : files.resolve path = .ok place)
    (node : files.node? place = some (.file content))
    (spelled : files.locate .spell path = .ok full) : canonical files path = .ok full.path := by
  have hcheck : checkFile files path = .ok () :=
    checkFile_iff.mpr (FileSystem.isFile_iff.mpr ⟨place, content, located, node⟩)
  simp [canonical, hcheck, FileSystem.canonical, spelled, Except.map]

theorem canonical_of_ok {full : Path} (h : canonical files path = .ok full) :
    files.canonical path = .ok full := by
  unfold canonical at h
  split at h
  · cases h
  · split at h
    · cases h
      assumption
    · cases h

theorem read_of_resolve (located : files.resolve path = .ok place)
    (node : files.node? place = some (.file content)) : read files path = .ok (decode content) := by
  have hcheck : checkFile files path = .ok () :=
    checkFile_iff.mpr (FileSystem.isFile_iff.mpr ⟨place, content, located, node⟩)
  simp [read, hcheck, FileSystem.read, located, node]

theorem header_of_resolve (located : files.resolve path = .ok place)
    (node : files.node? place = some (.file content)) :
    header files path = .ok (Header.scan (decode content)) := by
  rw [header, read_of_resolve located node]
  rfl

theorem isFile_of_header {header : List String} (read : Source.header files path = .ok header) :
    files.isFile path = true := by
  unfold Source.header Source.read at read
  cases hcheck : checkFile files path with
  | error failure => simp [hcheck, Except.map] at read
  | ok checked => exact checkFile_iff.mp hcheck

end Source

namespace ScriptKind

variable {probe : Probe} {marker : String}

theorem isFile_of_kind {kind : ScriptKind} (h : of probe marker files path = .ok kind) :
    files.isFile path = true := by
  unfold of at h
  split at h
  · cases h
  · exact Source.checkFile_iff.mp (by assumption)

theorem source_of_probe (hfile : files.isFile path = true) (hprobe : probe files path = none) :
    of probe marker files path = .ok .source := by
  simp [of, Source.checkFile_iff.mpr hfile, hprobe]

theorem probe_of_source (h : of probe marker files path = .ok .source) :
    probe files path = none := by
  unfold of at h
  split at h
  · cases h
  · cases hprobe : probe files path with
    | none => rfl
    | some hasType =>
      rw [hprobe] at h
      simp only [Except.ok.injEq] at h
      split at h <;> cases h

end ScriptKind

namespace Mode

variable {file : Path} {number : Nat} {line behind : String}

theorem declared_of_header {header : List String} {mode : Mode}
    (read : Source.header files path = .ok header) (h : declaredFrom path 1 header = .ok mode) :
    declared files path = .ok mode := by
  simp [declared, read, h]

/-! ## Lines that set the mode -/

/-- The line has the mode command in front of its first space, in any case and with blanks around
it, and this behind that space. -/
def Sets (line behind : String) : Prop :=
  ∃ front, line.toList = front ++ ' ' :: behind.toList ∧ ' ' ∉ front ∧
    String.ofList (Text.lowerChars (Text.trimChars front)) = Directive.modeCommand

theorem splitCommand_of_sets (h : Sets line behind) :
    Header.splitCommand line =
      some (Directive.modeCommand, String.ofList (Text.trimChars behind.toList)) := by
  obtain ⟨front, hline, hfront, hcommand⟩ := h
  simp [Header.splitCommand, hline, Text.cutOnce_append hfront, hcommand]

theorem sets_of_splitCommand {argument : String}
    (split : Header.splitCommand line = some (Directive.modeCommand, argument)) :
    ∃ behind, Sets line behind := by
  obtain ⟨⟨front, behind⟩, hcut, hparts⟩ := Option.map_eq_some_iff.mp split
  obtain ⟨hline, hfront⟩ := Text.cutOnce_eq_some_iff.mp hcut
  exact ⟨String.ofList behind, front, by simpa using hline, hfront, (Prod.mk.inj hparts).1⟩

/-- What a line that sets the mode gives: the mode that the first word behind its space names. -/
def value (file : Path) (number : Nat) (line behind : String) : Except DirectiveError Mode :=
  match ofName? (Text.firstWord behind) with
  | some mode => .ok mode
  | none => .error ⟨file, number, .badMode line⟩

theorem declaredFrom_cons_of_sets (h : Sets line behind) (later : List String) :
    declaredFrom file number (line :: later) = value file number line behind := by
  simp only [declaredFrom, splitCommand_of_sets h, if_true, Text.firstWord_trimChars]
  rfl

theorem declaredFrom_cons_of_unset (h : ∀ text, ¬Sets line text) (later : List String) :
    declaredFrom file number (line :: later) = declaredFrom file (number + 1) later := by
  cases hsplit : Header.splitCommand line with
  | none => simp only [declaredFrom, hsplit]
  | some parts =>
    obtain ⟨command, argument⟩ := parts
    have hcommand : command ≠ Directive.modeCommand := by
      rintro rfl
      obtain ⟨behind, hsets⟩ := sets_of_splitCommand hsplit
      exact h behind hsets
    simp only [declaredFrom, hsplit, if_neg hcommand]

theorem declaredFrom_of_ok {other : Path} {mode : Mode} {lines : List String}
    (h : declaredFrom path number lines = .ok mode) : declaredFrom other number lines = .ok mode := by
  induction lines generalizing number with
  | nil => exact h
  | cons line rest ih =>
    by_cases hsets : ∃ behind, Sets line behind
    · obtain ⟨behind, hsets⟩ := hsets
      rw [declaredFrom_cons_of_sets hsets, value] at h ⊢
      cases hname : ofName? (Text.firstWord behind) with
      | none => simp [hname] at h
      | some name => simpa [hname] using h
    · rw [declaredFrom_cons_of_unset (not_exists.mp hsets)] at h ⊢
      exact ih h

/-- A mode is the file's, not the path's. -/
theorem declared_of_resolve_eq {other : Path} {mode : Mode} (h : declared files path = .ok mode)
    (hfile : files.isFile path = true) (hsame : files.resolve path = files.resolve other) :
    declared files other = .ok mode := by
  obtain ⟨place, content, hresolve, hnode⟩ := FileSystem.isFile_iff.mp hfile
  have hpath : Source.header files path = .ok (Header.scan (Source.decode content)) :=
    Source.header_of_resolve hresolve hnode
  have hother : Source.header files other = .ok (Header.scan (Source.decode content)) :=
    Source.header_of_resolve (hsame ▸ hresolve) hnode
  simp only [declared, hpath] at h
  refine declared_of_header hother ?_
  split at h
  · rename_i mode' hmode
    cases h
    exact declaredFrom_of_ok hmode
  · cases h

end Mode

end ScriptBuild
