import ScriptBuild.Proofs.Resolution.Success

/-!
# The walk and the recursion agree

`resolve_of_resolves` says that what the rules give for a script is what the walk with its stack
gives. Here: the rules give something for every script, so the two say the same. Rules and walk end
for the same reason: a file is only entered under a new key that is short enough to be opened, and
on the way through one file the lines run out.

The measure has two parts. The first is how many new keys there is still room for, and a search that
enters a file has less of it; it is finite, since only what can be opened is entered, and paths that
can be opened are bounded in length. The second is how many lines are left in the file. A step
either reads a line, with no less room taken, or enters a file, so the two together decrease in
lexicographic order.

From there the equivalence is short. The rules give at most one result for a script, because the
walk gives one and what they give is that; and they give one.

**Results.**
* `exists_follows`: every search comes to a result by the rules.
* `completes_of_resolve`: a script that resolves is followed to its end.
* `resolve_eq_iff_resolves`: the walk and the rules give the same result for every script.
-/
namespace ScriptBuild.Resolver

variable {resolver : Resolver} {files : FileSystem}

/-- An included source file comes to a result, if the file itself does when it is new, and the rest
of the including file does with whatever the inclusion has found. -/
theorem exists_follows_of_source {scan after : HeaderScan} {found : Resolution} {line : Nat}
    {target : Path} (next : scan.next files = (some (.ok (line, .includes target)), after))
    (kind : ScriptKind.of resolver.probe resolver.marker files target = .ok .source)
    (inner : ∀ (more : Resolution) (header : List String), more.room < found.room →
      ∃ within result, Follows resolver files
        (HeaderScan.start target header resolver.reference) more within result)
    (later : ∀ more, more.room ≤ found.room →
      ∃ entered result, Follows resolver files after more entered result) :
    ∃ entered result, Follows resolver files scan found entered result := by
  cases declared : Mode.declared files target with
  | error cause => exact ⟨_, _, .modeless next kind declared⟩
  | ok mode =>
    by_cases partly : mode = .complex
    · subst partly
      cases insertion : found.insert? (.file target) with
      | none =>
        obtain ⟨entered, result, rest⟩ := later found (Nat.le_refl _)
        have present := Resolution.insert?_eq_none_iff.mp insertion
        exact ⟨_, _, .known next kind declared present rest⟩
      | some more =>
        obtain ⟨fresh, added⟩ := Resolution.insert?_eq_some_iff.mp insertion
        have hless := Resolution.room_lt_of_insert? insertion (short_of_kind kind)
        cases read : Source.header files target with
        | error cause => exact ⟨_, _, .unreadable next kind declared fresh added read⟩
        | ok header =>
          obtain ⟨within, result, run⟩ := inner more header hless
          cases result with
          | error cause => exact ⟨_, _, .failed next kind declared fresh added read run⟩
          | ok deeper =>
            have hroom : deeper.room ≤ found.room :=
              Nat.le_trans (completes_of_follows run).room_le (Nat.le_of_lt hless)
            obtain ⟨entered, result, rest⟩ := later deeper hroom
            exact ⟨_, _, .included next kind declared fresh added read run rest⟩
    · exact ⟨_, _, .incomplete next kind declared partly⟩

theorem lex_of_le_of_lt {a b c d : Nat} (hle : a ≤ b) (hlt : c < d) :
    Prod.Lex (· < ·) (· < ·) (a, c) (b, d) := by
  rcases Nat.lt_or_eq_of_le hle with hless | rfl
  · exact .left _ _ hless
  · exact .right _ hlt

theorem exists_follows (resolver : Resolver) (files : FileSystem) (scan : HeaderScan)
    (found : Resolution) : ∃ entered result, Follows resolver files scan found entered result := by
  match next : scan.next files with
  | (none, after) => exact ⟨_, _, .finished next⟩
  | (some (.error error), after) => exact ⟨_, _, .faulty next⟩
  | (some (.ok (line, .mode name)), after) =>
    obtain ⟨entered, result, later⟩ := exists_follows resolver files after found
    exact ⟨_, _, .mode next later⟩
  | (some (.ok (line, .reference name)), after) =>
    obtain ⟨entered, result, later⟩ :=
      exists_follows resolver files after (found.insert (.library name))
    exact ⟨_, _, .reference next (takes_iff.mpr rfl) later⟩
  | (some (.ok (line, .includes target)), after) =>
    match kind : ScriptKind.of resolver.probe resolver.marker files target with
    | .error cause => exact ⟨_, _, .unknown next kind⟩
    | .ok .invalid => exact ⟨_, _, .invalid next kind⟩
    | .ok .binary =>
      obtain ⟨entered, result, later⟩ :=
        exists_follows resolver files after (found.insert (.binary target))
      exact ⟨_, _, .binary next kind (takes_iff.mpr rfl) later⟩
    | .ok .source =>
      exact exists_follows_of_source next kind
        (fun more header _hless => exists_follows resolver files _ more)
        (fun more _hroom => exists_follows resolver files after more)
termination_by (found.room, scan.rest.length)
decreasing_by
  · exact lex_of_le_of_lt (Nat.le_refl _) (HeaderScan.next_shortens next)
  · exact lex_of_le_of_lt (Resolution.room_le_insert _ _) (HeaderScan.next_shortens next)
  · exact lex_of_le_of_lt (Resolution.room_le_insert _ _) (HeaderScan.next_shortens next)
  · exact .left _ _ _hless
  · exact lex_of_le_of_lt _hroom (HeaderScan.next_shortens next)

theorem exists_resolves (resolver : Resolver) (files : FileSystem) (script : Path) :
    ∃ entered result, Resolves resolver files script entered result := by
  cases located : Source.canonical files script with
  | error cause => exact ⟨_, _, .missing located⟩
  | ok root =>
    cases read : Source.header files root with
    | error cause => exact ⟨_, _, .unreadable located read⟩
    | ok header =>
      obtain ⟨entered, result, run⟩ :=
        exists_follows resolver files (HeaderScan.start root header resolver.reference) .empty
      exact ⟨_, _, .followed located read run⟩

/-- A script that resolves is followed to its end, and nothing goes wrong on the way. -/
theorem completes_of_resolve {script : Path} {found : Resolution}
    (h : resolver.resolve files script = .ok found) :
    ∃ root header entered, Source.canonical files script = .ok root ∧
      Source.header files root = .ok header ∧
      Completes resolver files (HeaderScan.start root header resolver.reference) .empty entered
        found := by
  obtain ⟨entered, result, rules⟩ := exists_resolves resolver files script
  obtain rfl : result = .ok found := (resolve_of_resolves rules).symm.trans h
  cases rules with
  | followed located read run => exact ⟨_, _, _, located, read, completes_of_follows run⟩

theorem resolve_of_completes {script root : Path} {header : List String} {entered : List Path}
    {found : Resolution} (located : Source.canonical files script = .ok root)
    (read : Source.header files root = .ok header)
    (run : Completes resolver files (HeaderScan.start root header resolver.reference) .empty entered
      found) : resolver.resolve files script = .ok found :=
  resolve_of_resolves (.followed located read run.follows)

/-- The walk with its stack and the recursive rules give the same result for every script:
the same dependencies in the same order, or the same failure with the same blame. -/
theorem resolve_eq_iff_resolves (resolver : Resolver) (files : FileSystem) (script : Path)
    (result : Except Failure Resolution) :
    resolver.resolve files script = result ↔
      ∃ entered, Resolves resolver files script entered result := by
  constructor
  · intro h
    obtain ⟨entered, other, rules⟩ := exists_resolves resolver files script
    obtain rfl : other = result := (resolve_of_resolves rules).symm.trans h
    exact ⟨entered, rules⟩
  · rintro ⟨entered, rules⟩
    exact resolve_of_resolves rules

end ScriptBuild.Resolver
