import ScriptBuild.Proofs.Resolution.History
import ScriptBuild.Proofs.Script.Items
import ScriptBuild.Resolution.Recursion

/-!
# Resolutions that succeed

What the rules of `Follows` do when nothing goes wrong comes down to four cases: a search ends, a
mode is passed over, a directive brings in a dependency that is not walked, or a new source file is
brought in and walked. `Brings` says which dependency a directive stands for, `Completes` has the
four cases.

Failure is left out of this description altogether, which makes the inductions about successful
resolutions short: there is no result to split on. The files entered are listed in the order in
which they are entered, the opening of the script itself not among them, and they are the sources
found, since a file is entered exactly when its key is new. Room is what is left of the keys that
can still be taken.

**Results.**
* `completes_of_follows`, `Completes.follows`: a search succeeds just when it goes by the four
  cases.
* `Completes.deps_prefix`: what has been found stays, in front of what is found later.
* `Completes.sources_eq`: the source files found are the files entered, in the order entered.
* `Completes.room_le`: no search gives room back.
-/
namespace ScriptBuild

namespace Resolver

/-- The dependency that a directive stands for, with what is asked of an included file. -/
inductive Brings (resolver : Resolver) (files : FileSystem) : Directive → Dependency → Prop
  | library (name : String) : Brings resolver files (.reference name) (.library name)
  | binary {target : Path}
      (kind : ScriptKind.of resolver.probe resolver.marker files target = .ok .binary) :
      Brings resolver files (.includes target) (.binary target)
  | source {target : Path}
      (kind : ScriptKind.of resolver.probe resolver.marker files target = .ok .source)
      (declared : Mode.declared files target = .ok .complex) :
      Brings resolver files (.includes target) (.file target)

variable {resolver : Resolver} {files : FileSystem}

/-- Reading on with `scan`, when `found` is known already, enters the files `entered` and finds
`final` in the end, without a failure. -/
inductive Completes (resolver : Resolver) (files : FileSystem) :
    HeaderScan → Resolution → List Path → Resolution → Prop
  | finished {scan after : HeaderScan} {found : Resolution}
      (next : scan.next files = (none, after)) : Completes resolver files scan found [] found
  | mode {scan after : HeaderScan} {found final : Resolution} {line : Nat} {name : String}
      {entered : List Path} (next : scan.next files = (some (.ok (line, .mode name)), after))
      (later : Completes resolver files after found entered final) :
      Completes resolver files scan found entered final
  /-- A dependency is brought in that is no new source file. -/
  | brought {scan after : HeaderScan} {found final : Resolution} {line : Nat}
      {directive : Directive} {dependency : Dependency} {entered : List Path}
      (next : scan.next files = (some (.ok (line, directive)), after))
      (brings : Brings resolver files directive dependency)
      (old : dependency.source?.isSome → dependency.key ∈ found.keys)
      (later : Completes resolver files after (found.insert dependency) entered final) :
      Completes resolver files scan found entered final
  /-- A new source file is brought in and walked. -/
  | included {scan after : HeaderScan} {found more deeper final : Resolution} {line : Nat}
      {target : Path} {header : List String} {within entered : List Path}
      (next : scan.next files = (some (.ok (line, .includes target)), after))
      (brings : Brings resolver files (.includes target) (.file target))
      (added : found.insert? (.file target) = some more)
      (read : Source.header files target = .ok header)
      (inner : Completes resolver files (HeaderScan.start target header resolver.reference) more
        within deeper)
      (later : Completes resolver files after deeper entered final) :
      Completes resolver files scan found (target :: within ++ entered) final

variable {resolver : Resolver} {files : FileSystem} {scan : HeaderScan}
  {found final : Resolution} {entered : List Path}

theorem completes_of_follows (h : Follows resolver files scan found entered (.ok final)) :
    Completes resolver files scan found entered final := by
  generalize hresult : Except.ok final = result at h
  induction h generalizing final with
  | finished next =>
    cases hresult
    exact .finished next
  | mode next later ih => exact .mode next (ih hresult)
  | reference next taken later ih =>
    cases takes_iff.mp taken
    exact .brought next (.library _) (by simp [Dependency.source?]) (ih hresult)
  | binary next kind taken later ih =>
    cases takes_iff.mp taken
    exact .brought next (.binary kind) (by simp [Dependency.source?]) (ih hresult)
  | known next kind declared present later ih =>
    refine .brought next (.source kind declared) (fun _ => present) ?_
    rw [Resolution.insert_of_mem present]
    exact ih hresult
  | included next kind declared fresh added read inner later ihInner ihLater =>
    have more := Resolution.insert?_eq_some_iff.mpr ⟨fresh, added⟩
    exact .included next (.source kind declared) more read (ihInner rfl) (ihLater hresult)
  | _ => cases hresult

namespace Completes

theorem follows (h : Completes resolver files scan found entered final) :
    Follows resolver files scan found entered (.ok final) := by
  induction h with
  | finished next => exact .finished next
  | mode next later ih => exact .mode next ih
  | brought next brings old later ih =>
    cases brings with
    | library name => exact .reference next (takes_iff.mpr rfl) ih
    | binary kind => exact .binary next kind (takes_iff.mpr rfl) ih
    | source kind declared =>
      have hmem := old rfl
      rw [Resolution.insert_of_mem hmem] at ih
      exact .known next kind declared hmem ih
  | included next brings added read inner later ihInner ihLater =>
    cases brings with
    | source kind declared =>
      obtain ⟨fresh, added⟩ := Resolution.insert?_eq_some_iff.mp added
      exact .included next kind declared fresh added read ihInner ihLater

theorem deps_prefix (h : Completes resolver files scan found entered final) :
    found.deps <+: final.deps := by
  induction h with
  | finished next => exact List.prefix_rfl
  | mode next later ih => exact ih
  | brought next brings old later ih => exact (Resolution.prefix_insert _ _).trans ih
  | included next brings added read inner later ihInner ihLater =>
    exact (Resolution.prefix_of_insert? added).trans (ihInner.trans ihLater)

theorem sources_eq (h : Completes resolver files scan found entered final) :
    final.sources = found.sources ++ entered := by
  induction h with
  | finished next => simp
  | mode next later ih => exact ih
  | brought next brings old later ih => rw [ih, Resolution.sources_insert old]
  | included next brings added read inner later ihInner ihLater =>
    rw [ihLater, ihInner]
    simp [Resolution.sources, Resolution.deps_of_insert? added, Dependency.source?]

theorem room_le (h : Completes resolver files scan found entered final) :
    final.room ≤ found.room := by
  induction h with
  | finished next => exact Nat.le_refl _
  | mode next later ih => exact ih
  | brought next brings old later ih => exact Nat.le_trans ih (Resolution.room_le_insert _ _)
  | included next brings added read inner later ihInner ihLater =>
    exact Nat.le_trans ihLater (Nat.le_trans ihInner (Resolution.room_le_of_insert? added))

end Completes

end Resolver

end ScriptBuild
