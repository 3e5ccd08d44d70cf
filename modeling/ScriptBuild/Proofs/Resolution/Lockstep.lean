import ScriptBuild.Proofs.Resolution.Agreement
import ScriptBuild.Proofs.Script.Items
import ScriptBuild.Proofs.Script.Reading

/-!
# Resolutions in lockstep

Of the files a resolution uses the headers, what their include lines mean, and the kinds of what is
included. Where two trees agree on these for all that the includes lead to, one walk goes as the
other does: it finds the same, or fails in the same way at the same place.

The agreement (`InStep`) is asked for on a set of files that is closed under what the include lines
say, not on all files. Which set to take is up to whoever uses it: all files where the trees differ
in bodies only, what the script can lead to where a file was added, absolute paths where the working
directory differs. A file in the set need not exist.

The induction is on the rules of the recursion rather than on the walk, since these have no stack to
be compared; the walk follows by their agreement. Failures are compared as they are, with their
chains.

**Results.**
* `next_congr`: a search goes the same way if its lines mean the same.
* `InStep.follows`: one search comes to what the other comes to.
* `InStep.resolve_of_root`, `InStep.resolve`: so resolutions are the same.
-/
namespace ScriptBuild

namespace HeaderScan

variable {files after : FileSystem}

/-- A search goes the same way if its lines mean the same. -/
theorem next_congr {scan : HeaderScan}
    (h : ∀ line ∈ scan.rest, Header.meaning after scan.directory scan.reference line =
      Header.meaning files scan.directory scan.reference line) :
    scan.next after = scan.next files := by
  fun_induction next files scan with
  | case1 scan hrest => exact next_of_nil hrest
  | case2 scan text rest hrest after' hm ih =>
    have htext := (h text (by simp [hrest])).trans hm
    rw [next_of_skip hrest htext]
    exact ih fun line hline => h line (by simpa [hrest] using .inr hline)
  | case3 scan text rest hrest after' hm =>
    have htext := (h text (by simp [hrest])).trans hm
    rw [next]
    split <;> simp_all [after']
  | case4 scan text rest hrest after' directive hm =>
    exact next_of_found hrest ((h text (by simp [hrest])).trans hm)
  | case5 scan text rest hrest after' fault hm =>
    have htext := (h text (by simp [hrest])).trans hm
    rw [next]
    split <;> simp_all [after']

end HeaderScan

namespace Resolver

variable {resolver : Resolver} {files after : FileSystem} {visited : Path → Prop}
  {scan later : HeaderScan} {found : Resolution} {entered : List Path}
  {result : Except Failure Resolution} {script : Path}

/-- Include lines lead from a root to a file, whatever is found there. -/
inductive Visits (resolver : Resolver) (files : FileSystem) (root : Path) : Path → Prop
  | root : Visits resolver files root root
  | included {file target : Path} {header : List String} {line : String}
      (visits : Visits resolver files root file) (read : Source.header files file = .ok header)
      (mem : line ∈ header)
      (means : Header.meaning files file.directory resolver.reference line =
        .ok (.found (.includes target))) : Visits resolver files root target

/-- Two trees agree on all that a resolution uses of the files it visits. -/
structure InStep (resolver : Resolver) (files after : FileSystem) (visited : Path → Prop) : Prop where
  header : ∀ file, visited file → Source.header after file = Source.header files file
  meaning : ∀ file header, visited file → Source.header files file = .ok header →
    ∀ line ∈ header, Header.meaning after file.directory resolver.reference line =
      Header.meaning files file.directory resolver.reference line
  kind : ∀ file, visited file → ScriptKind.of resolver.probe resolver.marker after file =
    ScriptKind.of resolver.probe resolver.marker files file
  /-- What is visited includes only what is visited. -/
  closed : ∀ file header, visited file → Source.header files file = .ok header →
    ∀ line ∈ header, ∀ target, Header.meaning files file.directory resolver.reference line =
      .ok (.found (.includes target)) → visited target

/-- A search among the lines of a visited file. -/
structure Within (resolver : Resolver) (files : FileSystem) (visited : Path → Prop)
    (scan : HeaderScan) : Prop where
  file : visited scan.file
  reference : scan.reference = resolver.reference
  lines : ∃ header, Source.header files scan.file = .ok header ∧ scan.rest ⊆ header

namespace Within

theorem start {file : Path} {header : List String} (hfile : visited file)
    (read : Source.header files file = .ok header) :
    Within resolver files visited (HeaderScan.start file header resolver.reference) :=
  ⟨hfile, rfl, header, read, List.Subset.refl _⟩

theorem next {line : Nat} {directive : Directive} (h : Within resolver files visited scan)
    (next : scan.next files = (some (.ok (line, directive)), later)) :
    Within resolver files visited later := by
  obtain ⟨index, text, -, -, -, rfl⟩ := HeaderScan.next_found next
  obtain ⟨header, read, hlines⟩ := h.lines
  exact ⟨h.file, h.reference, header, read, fun _ hmem => hlines (List.mem_of_mem_drop hmem)⟩

end Within

namespace InStep

theorem next (h : InStep resolver files after visited) (hscan : Within resolver files visited scan) :
    scan.next after = scan.next files := by
  obtain ⟨header, read, hlines⟩ := hscan.lines
  refine HeaderScan.next_congr fun line hline => ?_
  rw [hscan.reference]
  exact h.meaning scan.file header hscan.file read line (hlines hline)

theorem target {line : Nat} {target : Path} (h : InStep resolver files after visited)
    (hscan : Within resolver files visited scan)
    (next : scan.next files = (some (.ok (line, .includes target)), later)) : visited target := by
  obtain ⟨index, text, hget, -, hmeans, -⟩ := HeaderScan.next_found next
  obtain ⟨header, read, hlines⟩ := hscan.lines
  rw [hscan.reference] at hmeans
  exact h.closed scan.file header hscan.file read text (hlines (List.mem_of_getElem? hget)) target
    hmeans

theorem declared {file : Path} (h : InStep resolver files after visited) (hfile : visited file) :
    Mode.declared after file = Mode.declared files file := by
  simp only [Mode.declared, h.header file hfile]

/-- One search comes to what the other comes to, and enters the same files. -/
theorem follows (h : InStep resolver files after visited)
    (run : Follows resolver files scan found entered result)
    (hscan : Within resolver files visited scan) :
    Follows resolver after scan found entered result := by
  induction run with
  | finished next => exact .finished ((h.next hscan).trans next)
  | faulty next => exact .faulty ((h.next hscan).trans next)
  | mode next _ ih => exact .mode ((h.next hscan).trans next) (ih (hscan.next next))
  | reference next taken _ ih =>
    exact .reference ((h.next hscan).trans next) taken (ih (hscan.next next))
  | unknown next kind =>
    have htarget := h.target hscan next
    exact .unknown ((h.next hscan).trans next) ((h.kind _ htarget).trans kind)
  | invalid next kind =>
    have htarget := h.target hscan next
    exact .invalid ((h.next hscan).trans next) ((h.kind _ htarget).trans kind)
  | binary next kind taken _ ih =>
    have htarget := h.target hscan next
    exact .binary ((h.next hscan).trans next) ((h.kind _ htarget).trans kind) taken
      (ih (hscan.next next))
  | modeless next kind declared =>
    have htarget := h.target hscan next
    exact .modeless ((h.next hscan).trans next) ((h.kind _ htarget).trans kind)
      ((h.declared htarget).trans declared)
  | incomplete next kind declared partly =>
    have htarget := h.target hscan next
    exact .incomplete ((h.next hscan).trans next) ((h.kind _ htarget).trans kind)
      ((h.declared htarget).trans declared) partly
  | known next kind declared present _ ih =>
    have htarget := h.target hscan next
    exact .known ((h.next hscan).trans next) ((h.kind _ htarget).trans kind)
      ((h.declared htarget).trans declared) present (ih (hscan.next next))
  | unreadable next kind declared fresh added header =>
    have htarget := h.target hscan next
    exact .unreadable ((h.next hscan).trans next) ((h.kind _ htarget).trans kind)
      ((h.declared htarget).trans declared) fresh added ((h.header _ htarget).trans header)
  | included next kind declared fresh added read _ _ ihInner ihLater =>
    have htarget := h.target hscan next
    exact .included ((h.next hscan).trans next) ((h.kind _ htarget).trans kind)
      ((h.declared htarget).trans declared) fresh added ((h.header _ htarget).trans read)
      (ihInner (.start htarget read)) (ihLater (hscan.next next))
  | failed next kind declared fresh added read _ ih =>
    have htarget := h.target hscan next
    exact .failed ((h.next hscan).trans next) ((h.kind _ htarget).trans kind)
      ((h.declared htarget).trans declared) fresh added ((h.header _ htarget).trans read)
      (ih (.start htarget read))

/-- Resolutions of one root are the same, by whatever paths the scripts lead to it. -/
theorem resolve_of_root {script' root : Path} (h : InStep resolver files after visited)
    (hroot : visited root) (located : Source.canonical files script = .ok root)
    (located' : Source.canonical after script' = .ok root) :
    resolver.resolve after script' = resolver.resolve files script := by
  obtain ⟨entered, result, rules⟩ := exists_resolves resolver files script
  rw [resolve_of_resolves rules]
  suffices hrules : Resolves resolver after script' entered result from resolve_of_resolves hrules
  cases rules with
  | missing missing => simp [located] at missing
  | unreadable located'' header =>
    obtain rfl : _ = root := Except.ok.inj (located''.symm.trans located)
    exact .unreadable located' ((h.header _ hroot).trans header)
  | followed located'' read run =>
    obtain rfl : _ = root := Except.ok.inj (located''.symm.trans located)
    exact .followed located' ((h.header _ hroot).trans read) (h.follows run (.start hroot read))

theorem resolve (h : InStep resolver files after visited)
    (canonical : Source.canonical after script = Source.canonical files script)
    (hroot : ∀ root, Source.canonical files script = .ok root → visited root) :
    resolver.resolve after script = resolver.resolve files script := by
  cases located : Source.canonical files script with
  | error failure => simp [Resolver.resolve, canonical, located]
  | ok root => exact h.resolve_of_root (hroot root located) located (canonical.trans located)

end InStep

end Resolver

end ScriptBuild
