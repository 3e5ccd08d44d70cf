import ScriptBuild.Proofs.Resolution.Agreement
import ScriptBuild.Proofs.Resolution.Soundness
import ScriptBuild.Proofs.Text.Encoding

/-!
# Where a failed resolution puts the blame

What goes wrong in a file is blamed on a line of its header. If the file was included, that blame is
the cause of another, on the line that includes the file, and so on out to the script. So the chain
of a failure runs along includes that are really there, and what is at its end concerns the last of
them and nothing else.

`Blames` has a rule for each way a search can fail: at a line of its own, at an include whose target
is missing or cannot be read, and at an include whose target fails in turn. The induction is on the
rules of the recursion, and the invariant of a search is that it is on its way through the header of
its file (`Underway`), so that the lines it names are lines of that.

At the end of a chain there may be a failure that is no directive's. A missing file is then the
target of the last include, and no other failure names a file that could be mistaken for it
(`Bare`). Chains have at least one directive, since the script itself could be read.

**Results.**
* `blames_of_follows`: a search that fails puts the blame on its own file.
* `Blames.attributed`: what the chain of such a failure looks like.
* `resolve_attributed`: every failed resolution of a readable script has such a chain.
-/
namespace ScriptBuild

namespace Failure

/-- No directive's failure and, if it is about a missing file, about this one. -/
structure Bare (path : Path) (failure : Failure) : Prop where
  other : failure.isDirective = false
  missing : ∀ gone, failure = .notFound gone → gone = path

end Failure

variable {files : FileSystem} {path : Path} {cause : Failure}

namespace Source

theorem bare_of_checkFile (h : checkFile files path = .error cause) : cause.Bare path := by
  unfold checkFile at h
  split at h
  · cases h
    exact ⟨rfl, by simp⟩
  · split at h
    · cases h
    · cases h
      exact ⟨rfl, by simp⟩

theorem bare_of_header (h : header files path = .error cause) : cause.Bare path := by
  unfold header read at h
  cases hcheck : checkFile files path with
  | error failure =>
    obtain rfl : failure = cause := by simpa [hcheck, Except.map] using h
    exact bare_of_checkFile hcheck
  | ok found =>
    cases hread : files.read path with
    | ok content => simp [hcheck, hread, Except.map] at h
    | error refusal =>
      obtain rfl : Failure.io path refusal = cause := by simpa [hcheck, hread, Except.map] using h
      exact ⟨rfl, by simp⟩

def HasLine (files : FileSystem) (file : Path) (line : Nat) : Prop :=
  ∃ header, Source.header files file = .ok header ∧ 1 ≤ line ∧ line ≤ header.length

end Source

theorem ScriptKind.bare_of_kind {probe : Probe} {marker : String}
    (h : of probe marker files path = .error cause) : cause.Bare path := by
  unfold of at h
  split at h
  · cases h
    exact Source.bare_of_checkFile (by assumption)
  · split at h <;> cases h

namespace Mode

theorem place_of_declaredFrom {file : Path} {number : Nat} {lines : List String}
    {error : DirectiveError} (h : declaredFrom file number lines = .error error) :
    error.file = file ∧ number ≤ error.line ∧ error.line < number + lines.length := by
  induction lines generalizing number with
  | nil => cases h
  | cons line rest ih =>
    by_cases hsets : ∃ behind, Sets line behind
    · obtain ⟨behind, hsets⟩ := hsets
      rw [declaredFrom_cons_of_sets hsets, value] at h
      split at h
      · cases h
      · cases h
        simp
    · rw [declaredFrom_cons_of_unset (not_exists.mp hsets)] at h
      obtain ⟨hfile, hlow, hhigh⟩ := ih h
      refine ⟨hfile, by omega, ?_⟩
      rw [List.length_cons]
      omega

theorem declared_error (h : declared files path = .error cause) :
    cause.Bare path ∨
      ∃ error, cause = .directive error ∧ error.file = path ∧
        Source.HasLine files path error.line := by
  unfold declared at h
  cases read : Source.header files path with
  | error failure =>
    obtain rfl : failure = cause := by simpa [read] using h
    exact .inl (Source.bare_of_header read)
  | ok header =>
    cases hmode : declaredFrom path 1 header with
    | ok mode => simp [read, hmode] at h
    | error error =>
      obtain rfl : Failure.directive error = cause := by simpa [read, hmode] using h
      obtain ⟨hfile, hlow, hhigh⟩ := place_of_declaredFrom hmode
      exact .inr ⟨error, rfl, hfile, header, read, hlow, by omega⟩

end Mode

namespace Resolver

variable {resolver : Resolver} {scan after : HeaderScan} {found : Resolution}
  {file target root : Path} {line : Nat} {failure : Failure}

theorem Gives.hasLine {directive : Directive} (h : resolver.Gives files file line directive) :
    Source.HasLine files file line := by
  obtain ⟨header, read, hmem⟩ := h
  obtain ⟨index, text, hget, hline, -⟩ := HeaderScan.exists_text_of_mem_items hmem
  have hlength : index < header.length := (List.getElem?_eq_some_iff.mp hget).1
  simp only [HeaderScan.start, Nat.zero_add] at hline
  exact ⟨header, read, by omega, by omega⟩

/-- The failure blames the file: a line of it, by itself or for including what fails. -/
inductive Blames (resolver : Resolver) (files : FileSystem) : Path → Failure → Prop
  | own (error : DirectiveError) (line : Source.HasLine files error.file error.line) :
      Blames resolver files error.file (.directive error)
  | bare {file target : Path} {line : Nat} {cause : Failure}
      (gives : resolver.Gives files file line (.includes target)) (bare : cause.Bare target) :
      Blames resolver files file (blame file line cause)
  | deeper {file target : Path} {line : Nat} {cause : Failure}
      (gives : resolver.Gives files file line (.includes target))
      (inner : Blames resolver files target cause) :
      Blames resolver files file (blame file line cause)

/-- The search is on its way through the header of its file. -/
structure Underway (resolver : Resolver) (files : FileSystem) (scan : HeaderScan) : Prop where
  reads : Reads resolver files scan
  inside : ∃ header, Source.header files scan.file = .ok header ∧
    scan.line + scan.rest.length ≤ header.length

namespace Underway

theorem start {header : List String} (read : Source.header files file = .ok header) :
    Underway resolver files (HeaderScan.start file header resolver.reference) :=
  ⟨.start read, header, read, by simp [HeaderScan.start]⟩

theorem next {directive : Directive} (h : Underway resolver files scan)
    (next : scan.next files = (some (.ok (line, directive)), after)) :
    resolver.Gives files scan.file line directive ∧ after.file = scan.file ∧
      Underway resolver files after := by
  obtain ⟨hgives, hafter⟩ := h.reads.next next
  obtain ⟨header, read, hinside⟩ := h.inside
  refine ⟨hgives, HeaderScan.next_file next, hafter, header, ?_, ?_⟩
  · rw [HeaderScan.next_file next]
    exact read
  · obtain ⟨index, text, hget, hline, -, rfl⟩ := HeaderScan.next_found next
    have hlength : index < scan.rest.length := (List.getElem?_eq_some_iff.mp hget).1
    simp only [List.length_drop]
    omega

theorem hasLine_of_error {error : DirectiveError} (h : Underway resolver files scan)
    (next : scan.next files = (some (.error error), after)) :
    error.file = scan.file ∧ Source.HasLine files error.file error.line := by
  obtain ⟨hfile, hlow, hhigh⟩ := HeaderScan.place_of_next_error next
  obtain ⟨header, read, hinside⟩ := h.inside
  exact ⟨hfile, header, hfile ▸ read, by omega, by omega⟩

end Underway

theorem blames_of_modeless (gives : resolver.Gives files file line (.includes target))
    (declared : Mode.declared files target = .error cause) :
    Blames resolver files file (blame file line cause) := by
  rcases Mode.declared_error declared with hbare | ⟨error, rfl, rfl, hline⟩
  · exact .bare gives hbare
  · exact .deeper gives (.own error hline)

/-- A search that fails puts the blame on its own file. -/
theorem blames_of_follows {entered : List Path} {result : Except Failure Resolution}
    (h : Follows resolver files scan found entered result) (hscan : Underway resolver files scan)
    (failed : result = .error failure) : Blames resolver files scan.file failure := by
  induction h generalizing failure with
  | finished next => cases failed
  | faulty next =>
    cases failed
    obtain ⟨hfile, hline⟩ := hscan.hasLine_of_error next
    exact hfile ▸ .own _ hline
  | mode next later ih | reference next _ later ih | binary next _ _ later ih
  | known next _ _ _ later ih =>
    obtain ⟨-, hfile, hafter⟩ := hscan.next next
    exact hfile ▸ ih hafter failed
  | unknown next kind =>
    cases failed
    exact .bare (hscan.next next).1 (ScriptKind.bare_of_kind kind)
  | invalid next kind | incomplete next kind declared partly =>
    cases failed
    exact .own ⟨_, _, _⟩ (hscan.next next).1.hasLine
  | modeless next kind declared =>
    cases failed
    exact blames_of_modeless (hscan.next next).1 declared
  | unreadable next kind declared fresh added header =>
    cases failed
    exact .bare (hscan.next next).1 (Source.bare_of_header header)
  | included next kind declared fresh added read inner later ihInner ihLater =>
    obtain ⟨-, hfile, hafter⟩ := hscan.next next
    exact hfile ▸ ihLater hafter failed
  | failed next kind declared fresh added read inner ih =>
    cases failed
    exact .deeper (hscan.next next).1 (ih (.start read) rfl)

/-- What the chain of a failure looks like that a search in `file` has: its directives from the
outermost inwards, and what made the last of them fail. -/
structure Attributed (resolver : Resolver) (files : FileSystem) (file : Path)
    (errors : List DirectiveError) (root : Option Failure) : Prop where
  first : ∃ error, errors.head? = some error ∧ error.file = file
  lines : ∀ error ∈ errors, Source.HasLine files error.file error.line
  steps : ∀ index error inner, errors[index]? = some error → errors[index + 1]? = some inner →
    resolver.Gives files error.file error.line (.includes inner.file) ∧
      error.fault.message = "error processing //#include statement"
  root : ∀ cause, root = some cause → cause.isDirective = false ∧
    ∀ gone, cause = .notFound gone → ∃ error, errors.getLast? = some error ∧
      resolver.Gives files error.file error.line (.includes gone)

theorem Blames.attributed (h : Blames resolver files file failure) :
    Attributed resolver files file failure.chain.1 failure.chain.2 := by
  induction h with
  | own error line =>
    exact ⟨⟨error, rfl, rfl⟩, by simpa using line, by simp, by simp⟩
  | @bare file target line cause gives bare =>
    have hchain : (blame file line cause).chain = ([⟨file, line, .includeFailed⟩], some cause) := by
      rw [blame, Failure.chain_causedBy, Failure.chain_of_not_directive bare.other]
    rw [hchain]
    refine ⟨⟨_, rfl, rfl⟩, by simpa using gives.hasLine, by simp, fun other hother => ?_⟩
    obtain rfl : cause = other := Option.some.inj hother
    exact ⟨bare.other, fun gone hgone => ⟨_, rfl, bare.missing gone hgone ▸ gives⟩⟩
  | @deeper file target line cause gives inner ih =>
    rw [blame, Failure.chain_causedBy]
    obtain ⟨second, hsecond, hfile⟩ := ih.first
    refine ⟨⟨_, rfl, rfl⟩, ?_, fun index error next hget hnext => ?_, fun other hother => ?_⟩
    · simpa using ⟨gives.hasLine, ih.lines⟩
    · cases index with
      | zero =>
        obtain rfl : ⟨file, line, .includeFailed⟩ = error := by simpa using hget
        obtain rfl : second = next := by
          simpa [← List.head?_eq_getElem?, hsecond] using hnext
        exact ⟨hfile ▸ gives, rfl⟩
      | succ index => exact ih.steps index error next (by simpa using hget) (by simpa using hnext)
    · obtain ⟨hplain, hgone⟩ := ih.root other hother
      refine ⟨hplain, fun gone hmissing => ?_⟩
      obtain ⟨error, hlast, hgives⟩ := hgone gone hmissing
      exact ⟨error, by simp [List.getLast?_cons, hlast], hgives⟩

/-! ## A script that includes itself -/

section

variable {main : Text.Utf8.Bytes}

theorem walk_gone {purpose : FileSystem.Purpose} (hpurpose : purpose ≠ .write) :
    (besideUnit main).walk purpose 40 [] [[], "gone"] = .error .missing := by
  cases purpose with
  | write => exact absurd rfl hpurpose
  | use => cbv
  | spell => cbv

theorem canonical_gone : (besideUnit main).canonical ⟨"/gone"⟩ = .error .missing := by
  have hlocate : (besideUnit main).locate .spell ⟨"/gone"⟩ = .error .missing := by
    rw [FileSystem.locate_spell_of_isAbsolute rfl (by decide)]
    exact walk_gone (by decide)
  simp only [FileSystem.canonical, hlocate]
  rfl

theorem kind_gone :
    ScriptKind.of sourceOnly.probe sourceOnly.marker (besideUnit main) ⟨"/gone"⟩ =
      .error (.notFound ⟨"/gone"⟩) := by
  have hresolve : (besideUnit main).resolve ⟨"/gone"⟩ = .error .missing := walk_gone (by decide)
  have hfile : (besideUnit main).isFile ⟨"/gone"⟩ = false := by
    simp [FileSystem.isFile, FileSystem.find?, hresolve]
  have hnamed : (⟨"/gone"⟩ : Path).octets.isEmpty = false := rfl
  simp [ScriptKind.of, Source.checkFile, hfile, hnamed]

theorem meaning_gone (directory : Path) :
    Header.meaning (besideUnit main) directory ⟨"/"⟩ "//#include \"/gone\"" =
      .ok (.found (.includes ⟨"/gone"⟩)) := by
  have hsplit : Header.splitCommand "//#include \"/gone\"" =
      some (Directive.includeCommand, "\"/gone\"") := by cbv
  have hread : Argument.read? "\"/gone\"" = some (.quoted "/gone") := by cbv
  have habsolute : Path.absolute ⟨"/"⟩ ⟨"/gone"⟩ = ⟨"/gone"⟩ := by decide
  have hfull : (besideUnit main).fullPath ⟨"/gone"⟩ = ⟨"/gone"⟩ := by
    unfold FileSystem.fullPath
    rw [canonical_gone]
    exact habsolute
  rw [Header.meaning_of_absolute hsplit hread rfl, hfull]

theorem meaning_main (directory : Path) :
    Header.meaning (besideUnit main) directory ⟨"/"⟩ "//#include \"/main\"" =
      .ok (.found (.includes ⟨"/main"⟩)) :=
  Header.meaning_of_spelled spelled_main rfl (by cbv) (by cbv)

end

/-- The script includes itself, and then what does not exist. -/
def includesItself : FileSystem :=
  besideUnit (Text.Utf8.encode "//#mode complex\n//#include \"/main\"\n//#include \"/gone\"\n")

def itselfThenGone : List String :=
  ["//#mode complex", "//#include \"/main\"", "//#include \"/gone\""]

def blamedTwice : Failure :=
  blame ⟨"/main"⟩ 2 (blame ⟨"/main"⟩ 3 (.notFound ⟨"/gone"⟩))

theorem header_includesItself : Source.header includesItself ⟨"/main"⟩ = .ok itselfThenGone := by
  rw [includesItself, Source.header_of_resolve resolve_main rfl]
  cbv

theorem brings_includesItself :
    Brings sourceOnly includesItself (.includes ⟨"/main"⟩) (.file ⟨"/main"⟩) := by
  have hfile : includesItself.isFile ⟨"/main"⟩ = true :=
    FileSystem.isFile_iff.mpr ⟨_, _, resolve_main, rfl⟩
  have hmode : Mode.declaredFrom ⟨"/main"⟩ 1 itselfThenGone = .ok .complex := by cbv
  exact .source (ScriptKind.source_of_probe hfile rfl)
    (Mode.declared_of_header header_includesItself hmode)

theorem resolve_includesItself :
    sourceOnly.resolve includesItself ⟨"/main"⟩ = .error blamedTwice := by
  have hnext : (HeaderScan.start ⟨"/main"⟩ itselfThenGone ⟨"/"⟩).next includesItself =
      (some (.ok (2, .includes ⟨"/main"⟩)),
        ⟨⟨"/main"⟩, ⟨"/"⟩, ["//#include \"/gone\""], 2⟩) := by
    rw [HeaderScan.next_of_skip rfl (Header.meaning_modeComplex _ _ _),
      HeaderScan.next_of_found rfl (meaning_main _)]
    rfl
  have hfresh : (Dependency.file ⟨"/main"⟩).key ∉
      Resolution.empty.deps.map Dependency.key := by
    simp [Resolution.empty]
  have hpresent : (Dependency.file ⟨"/main"⟩).key ∈
      [Dependency.file ⟨"/main"⟩].map Dependency.key := List.mem_singleton.mpr rfl
  cases brings_includesItself with
  | source kind declared =>
    have hagain : Follows sourceOnly includesItself
        (HeaderScan.start ⟨"/main"⟩ itselfThenGone ⟨"/"⟩) ⟨[.file ⟨"/main"⟩], by decide⟩ []
        (.error (blame ⟨"/main"⟩ 3 (.notFound ⟨"/gone"⟩))) :=
      .known hnext kind declared hpresent
        (.unknown (HeaderScan.next_of_found rfl (meaning_gone _)) kind_gone)
    have hrun : Follows sourceOnly includesItself
        (HeaderScan.start ⟨"/main"⟩ itselfThenGone ⟨"/"⟩) .empty [⟨"/main"⟩]
        (.error blamedTwice) :=
      .failed hnext kind declared hfresh rfl header_includesItself hagain
    exact resolve_of_resolves (.followed canonical_main header_includesItself hrun)

/-- When the resolution of a script fails whose header can be read, the failure is a directive's,
and its chain leads from the script along includes to what went wrong. -/
theorem resolve_attributed {script : Path} {header : List String}
    (located : Source.canonical files script = .ok root)
    (read : Source.header files root = .ok header)
    (failed : resolver.resolve files script = .error failure) :
    failure.isDirective = true ∧
      Attributed resolver files root failure.chain.1 failure.chain.2 := by
  obtain ⟨entered, result, run⟩ :=
    exists_follows resolver files (HeaderScan.start root header resolver.reference) .empty
  have hresult : result = .error failure :=
    (resolve_of_resolves (.followed located read run)).symm.trans failed
  have hblames : Blames resolver files root failure := blames_of_follows run (.start read) hresult
  refine ⟨?_, hblames.attributed⟩
  cases hblames <;> rfl

theorem resolve_attributed_includesItself :
    Source.canonical includesItself ⟨"/main"⟩ = .ok ⟨"/main"⟩ ∧
    Source.header includesItself ⟨"/main"⟩ = .ok itselfThenGone ∧
    sourceOnly.resolve includesItself ⟨"/main"⟩ = .error blamedTwice ∧
    blamedTwice.isDirective = true ∧
    Attributed sourceOnly includesItself ⟨"/main"⟩
      [⟨⟨"/main"⟩, 2, .includeFailed⟩, ⟨⟨"/main"⟩, 3, .includeFailed⟩]
      (some (.notFound ⟨"/gone"⟩)) :=
  ⟨canonical_main, header_includesItself, resolve_includesItself,
    resolve_attributed canonical_main header_includesItself resolve_includesItself⟩

end Resolver

end ScriptBuild
