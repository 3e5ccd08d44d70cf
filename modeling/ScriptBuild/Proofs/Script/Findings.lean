import ScriptBuild.Proofs.Script.Items

/-!
# The findings of a header

What a search finds is settled by what each line of the header means, taken by itself: the
directives in front of the first line that ends the search, each with the number of its line, and
then the fault of that line, if it is faulty. A search is asked for its findings one after the
other; it may be left alone between two of them, and asked again after the last.

The findings are a list that is made without a search: line by line, by meaning. A search is a state
that hands out the first finding and keeps the rest, so the two are tied by one equation for a step,
and the calls follow by induction on how many are made. A call behind the last finding gives
nothing, and changes nothing. Line numbers start at 1 and count every line, also those that are no
directives, so they increase strictly.

**Results.**
* `findings_cons`: the findings, line by line.
* `next_eq_findings`: a step of a search takes the first of its findings and leaves the others.
* `items_eq_findings`: what a search finds are the findings.
* `pairwise_findings`: no two findings are on one line, and none is behind a later one.
* `call_eq_findings`: what each call of a search gives.
-/
namespace ScriptBuild

namespace Header

/-- What a line means, if it is not faulty. -/
abbrev Read := Except DirectiveFault LineMeaning

/-- Whether a line is the last one read of its header. -/
def Read.isLast : Read → Bool
  | .ok .stop | .error _ => true
  | .ok .skip | .ok (.found _) => false

def Read.directive? : Read → Option Directive
  | .ok (.found directive) => some directive
  | _ => none

def Read.fault? : Read → Option DirectiveFault
  | .error fault => some fault
  | .ok _ => none

/-- How many lines stand in front of the first one that ends the search: all, if none does. -/
def extent (lines : List Read) : Nat := lines.findIdx Read.isLast

/-- The directives in front of the line that ends the search, by the numbers of their lines, if
`before` lines stand in front of these. -/
def directives (before : Nat) (lines : List Read) : List (Nat × Directive) :=
  ((lines.take (extent lines)).zipIdx (before + 1)).filterMap fun (line, number) =>
    line.directive?.map (number, ·)

/-- The error that ends the search, if its last line is faulty. -/
def error? (file : Path) (before : Nat) (lines : List Read) : Option DirectiveError :=
  (lines[extent lines]?.bind Read.fault?).map fun fault =>
    ⟨file, before + extent lines + 1, fault⟩

/-- The directives of a header, and the error behind them if there is one. -/
def findings (file : Path) (before : Nat) (lines : List Read) : List HeaderScan.Item :=
  (directives before lines).map .ok ++ (error? file before lines).toList.map .error

/-- The number of the line that something is found on. -/
def lineOf : HeaderScan.Item → Nat
  | .ok (line, _) => line
  | .error error => error.line

variable {file : Path} {before : Nat} {lines : List Read}

theorem findings_nil (file : Path) (before : Nat) : findings file before [] = [] := rfl

/-- Line by line: a directive and a fault are found on their line, and nothing behind a line that
ends the search. -/
theorem findings_cons (file : Path) (before : Nat) (line : Read) (lines : List Read) :
    findings file before (line :: lines) =
      match line with
      | .ok .skip => findings file (before + 1) lines
      | .ok .stop => []
      | .ok (.found directive) => .ok (before + 1, directive) :: findings file (before + 1) lines
      | .error fault => [.error ⟨file, before + 1, fault⟩] := by
  -- A line that does not end the search is in front of the extent of the others.
  have hgoes : line.isLast = false → extent (line :: lines) = extent lines + 1 := fun h => by
    simp [extent, List.findIdx_cons, h]
  have hends : line.isLast = true → extent (line :: lines) = 0 := fun h => by
    simp [extent, List.findIdx_cons, h]
  have hnumber : before + (extent lines + 1) + 1 = before + 1 + extent lines + 1 := by omega
  rcases line with fault | (directive | _ | _)
  · simp [findings, directives, error?, hends rfl, Read.fault?]
  · simp [findings, directives, error?, hgoes rfl, Read.directive?, hnumber]
  · simp [findings, directives, error?, hgoes rfl, Read.directive?, hnumber]
  · simp [findings, directives, error?, hends rfl, Read.fault?]

theorem findings_of_not_last (h : ∀ line ∈ lines, line.isLast = false) :
    findings file before lines =
      (lines.zipIdx (before + 1)).filterMap fun (line, number) =>
        line.directive?.map fun directive => .ok (number, directive) := by
  have hextent : extent lines = lines.length := List.findIdx_eq_length_of_false (by simpa using h)
  simp only [findings, directives, error?, hextent, List.take_length, List.getElem?_length,
    Option.bind_none, Option.map_none, Option.toList_none, List.map_nil, List.append_nil,
    List.map_filterMap, Option.map_map]
  rfl

theorem lt_lineOf_of_mem {item : HeaderScan.Item} (h : item ∈ findings file before lines) :
    before < lineOf item := by
  induction lines generalizing before with
  | nil => simp [findings_nil] at h
  | cons line lines ih =>
    rw [findings_cons] at h
    split at h
    · have := ih h
      omega
    · simp at h
    · rcases List.mem_cons.mp h with rfl | hlater
      · exact Nat.lt_succ_self _
      · have := ih hlater
        omega
    · obtain rfl := List.mem_singleton.mp h
      exact Nat.lt_succ_self _

/-- No two findings are on one line, and none is behind a later one. -/
theorem pairwise_findings (file : Path) (before : Nat) (lines : List Read) :
    ((findings file before lines).map lineOf).Pairwise (· < ·) := by
  induction lines generalizing before with
  | nil => simp [findings_nil]
  | cons line lines ih =>
    rw [findings_cons]
    split
    · exact ih _
    · simp
    · rw [List.map_cons, List.pairwise_cons]
      refine ⟨fun number hnumber => ?_, ih _⟩
      obtain ⟨item, hitem, rfl⟩ := List.mem_map.mp hnumber
      exact lt_lineOf_of_mem hitem
    · simp

/-- Behind what is no directive there is nothing. -/
theorem findings_eq_none_of_lt {index later : Nat} (hlater : index < later)
    (h : ∀ found, (findings file before lines)[index]? ≠ some (.ok found)) :
    (findings file before lines)[later]? = none := by
  have herrors : (error? file before lines).toList.length ≤ 1 := by
    cases error? file before lines <;> simp
  have hpast : (directives before lines).length ≤ index := by
    by_contra hfront
    rw [Nat.not_le] at hfront
    refine h (directives before lines)[index] ?_
    rw [findings, List.getElem?_append_left (by simpa using hfront), List.getElem?_map,
      List.getElem?_eq_getElem hfront, Option.map_some]
  rw [List.getElem?_eq_none_iff, findings, List.length_append, List.length_map, List.length_map]
  omega

end Header

namespace HeaderScan

variable {files : FileSystem}

/-- The findings of the header lines that are still to read. -/
def findings (files : FileSystem) (scan : HeaderScan) : List Item :=
  Header.findings scan.file scan.line
    (scan.rest.map (Header.meaning files scan.directory scan.reference))

def call (files : FileSystem) (scan : HeaderScan) : Nat → Option Item
  | 0 => (scan.next files).1
  | earlier + 1 => (scan.next files).2.call files earlier

theorem findings_of_cons {scan : HeaderScan} {text : String} {rest : List String}
    (hrest : scan.rest = text :: rest) :
    scan.findings files =
      match Header.meaning files scan.directory scan.reference text with
      | .ok .skip => ({ scan with rest := rest, line := scan.line + 1 } : HeaderScan).findings files
      | .ok .stop => []
      | .ok (.found directive) => .ok (scan.line + 1, directive) ::
          ({ scan with rest := rest, line := scan.line + 1 } : HeaderScan).findings files
      | .error fault => [.error ⟨scan.file, scan.line + 1, fault⟩] := by
  rw [findings, hrest, List.map_cons, Header.findings_cons]
  rfl

theorem findings_of_nil {scan : HeaderScan} (hrest : scan.rest = []) :
    scan.findings files = [] := by
  rw [findings, hrest, List.map_nil, Header.findings_nil]

/-- A step of a search takes the first of its findings and leaves the others. -/
theorem next_eq_findings (files : FileSystem) (scan : HeaderScan) :
    (scan.next files).1 = (scan.findings files).head? ∧
      (scan.next files).2.findings files = (scan.findings files).tail := by
  fun_induction next files scan with
  | case1 scan hrest => simp [findings_of_nil hrest]
  | case2 scan text rest hrest after hm ih =>
    rw [findings_of_cons hrest, hm]
    exact ih
  | case3 scan text rest hrest after hm => simp [findings_of_cons hrest, hm, findings_of_nil]
  | case4 scan text rest hrest after directive hm => simp [findings_of_cons hrest, hm, after]
  | case5 scan text rest hrest after fault hm =>
    simp [findings_of_cons hrest, hm, after, findings_of_nil]

theorem items_eq_findings (files : FileSystem) (scan : HeaderScan) :
    scan.items files = scan.findings files := by
  induction hrest : scan.rest generalizing scan with
  | nil => rw [items_of_nil hrest, findings_of_nil hrest]
  | cons text rest ih =>
    have hlater := ih { scan with rest := rest, line := scan.line + 1 } rfl
    refine (items_of_cons hrest).trans ?_
    rw [hlater]
    exact (findings_of_cons hrest).symm

/-- The calls of a search give its findings one by one, and nothing from there on. -/
theorem call_eq_findings (files : FileSystem) (scan : HeaderScan) (earlier : Nat) :
    scan.call files earlier = (scan.findings files)[earlier]? := by
  induction earlier generalizing scan with
  | zero => rw [call, (next_eq_findings files scan).1, List.head?_eq_getElem?]
  | succ earlier ih => rw [call, ih, (next_eq_findings files scan).2, List.getElem?_tail]

/-- Whatever the header, the calls of its search give the directives in front of the first line that
ends it, then the fault of that line, and then nothing. What is found is on later and later lines,
and there is nothing to be had once a call has given no directive. -/
theorem calls_give_findings (files : FileSystem) (file reference : Path) (header : List String) :
    let lines := header.map (Header.meaning files file.directory reference)
    let search := start file header reference
    (∀ earlier, search.call files earlier =
      ((Header.directives 0 lines).map Except.ok ++
        (Header.error? file 0 lines).toList.map Except.error)[earlier]?) ∧
    ((Header.findings file 0 lines).map Header.lineOf).Pairwise (· < ·) ∧
    ∀ earlier, (∀ found, search.call files earlier ≠ some (.ok found)) →
      ∀ later, earlier < later → search.call files later = none := by
  intro lines search
  have hcalls : ∀ earlier, search.call files earlier = (Header.findings file 0 lines)[earlier]? :=
    call_eq_findings files search
  refine ⟨hcalls, Header.pairwise_findings file 0 lines, fun earlier hnone later hlater => ?_⟩
  rw [hcalls]
  exact Header.findings_eq_none_of_lt hlater fun found => hcalls earlier ▸ hnone found

/-- A header with a faulty line between two references. -/
def faultyHeader : List String :=
  ["//#ref \"a.dll\"", "// plain", "//#ref b.dll", "//#ref \"c.dll\""]

/-- The fault is the second finding, and the reference behind it is never found. -/
theorem calls_give_findings_faulty :
    let search := start ⟨"/main.cs"⟩ faultyHeader ⟨"/Ref"⟩
    let files : FileSystem := ⟨[], []⟩
    search.call files 0 = some (.ok (1, .reference "a.dll")) ∧
    (search.call files 1 = some (.error ⟨⟨"/main.cs"⟩, 3, .unquoted⟩) ∧
      ∀ found, search.call files 1 ≠ some (.ok found)) ∧
    1 < 2 ∧ search.call files 2 = none := by
  intro search files
  obtain ⟨hcalls, -, hnone⟩ := calls_give_findings files ⟨"/main.cs"⟩ ⟨"/Ref"⟩ faultyHeader
  have hfirst : search.call files 0 = some (.ok (1, .reference "a.dll")) := (hcalls 0).trans (by cbv)
  have hfault : search.call files 1 = some (.error ⟨⟨"/main.cs"⟩, 3, .unquoted⟩) :=
    (hcalls 1).trans (by cbv)
  have hnot : ∀ found, search.call files 1 ≠ some (.ok found) := by simp [hfault]
  exact ⟨hfirst, ⟨hfault, hnot⟩, by decide, hnone 1 hnot 2 (by decide)⟩

end HeaderScan

end ScriptBuild
