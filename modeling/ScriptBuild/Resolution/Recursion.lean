import ScriptBuild.Resolution.Walk

/-!
# Resolution by recursion

What a resolution is, said without a stack of suspended files: each directive of a file is followed
to its end before the next one, and an included source file is followed as a whole on the way. What
goes wrong in an included file is blamed on the line that includes it when the inclusion ends.

The rules stand on their own. They read a header as the walk does, and ask the files what a path is
and which mode a source declares; but what is known afterwards is said by the list of dependencies
itself (`Takes`), and what a failure is blamed on is written out. None of them mentions the walk,
its stack or its bound, and nothing in them makes a derivation end: that every script has one is a
theorem.

Where the walk stops at the first failure, so do the rules: a rule that ends in an error has no
premise about what comes later. A failure inside an included file passes through `failed` once for
each file that led to it. The rules also list the files entered, in the order entered.

**Results.**
* `walk_of_follows`: what the rules give, the walk gives, whatever is waiting on its stack.
* `resolve_of_resolves`: what the rules give for a script is its resolution.
-/
namespace ScriptBuild.Resolver

/-- What is known once a dependency has been met: one of a new key goes to the end, and one whose
key is known makes no difference. -/
inductive Takes (found : Resolution) (dependency : Dependency) : Resolution → Prop
  | new {after : Resolution} (fresh : dependency.key ∉ found.deps.map Dependency.key)
      (added : after.deps = found.deps ++ [dependency]) : Takes found dependency after
  | known (present : dependency.key ∈ found.deps.map Dependency.key) :
      Takes found dependency found

theorem takes_iff {found after : Resolution} {dependency : Dependency} :
    Takes found dependency after ↔ after = found.insert dependency := by
  constructor
  · rintro (⟨fresh, added⟩ | present)
    · simp [Resolution.insert, Resolution.insert?_eq_some_iff.mpr ⟨fresh, added⟩]
    · simp [Resolution.insert, Resolution.insert?_eq_none_iff.mpr present]
  · rintro rfl
    unfold Resolution.insert
    cases h : found.insert? dependency with
    | none => exact .known (Resolution.insert?_eq_none_iff.mp h)
    | some after =>
      obtain ⟨fresh, added⟩ := Resolution.insert?_eq_some_iff.mp h
      exact .new fresh added

/-- Reading on with `scan`, when `found` is known already, enters the files `entered` and comes to
`result`. -/
inductive Follows (resolver : Resolver) (files : FileSystem) :
    HeaderScan → Resolution → List Path → Except Failure Resolution → Prop
  /-- Nothing more is found. -/
  | finished {scan after : HeaderScan} {found : Resolution}
      (next : scan.next files = (none, after)) :
      Follows resolver files scan found [] (.ok found)
  /-- A header line is faulty. -/
  | faulty {scan after : HeaderScan} {found : Resolution} {error : DirectiveError}
      (next : scan.next files = (some (.error error), after)) :
      Follows resolver files scan found [] (.error (.directive error))
  /-- A mode brings in nothing. -/
  | mode {scan after : HeaderScan} {found : Resolution} {line : Nat} {name : String}
      {entered : List Path} {result : Except Failure Resolution}
      (next : scan.next files = (some (.ok (line, .mode name)), after))
      (later : Follows resolver files after found entered result) :
      Follows resolver files scan found entered result
  /-- A reference brings in a library. -/
  | reference {scan after : HeaderScan} {found more : Resolution} {line : Nat} {name : String}
      {entered : List Path} {result : Except Failure Resolution}
      (next : scan.next files = (some (.ok (line, .reference name)), after))
      (taken : Takes found (.library name) more)
      (later : Follows resolver files after more entered result) :
      Follows resolver files scan found entered result
  /-- What is included cannot be told apart, as when it is missing. -/
  | unknown {scan after : HeaderScan} {found : Resolution} {line : Nat} {target : Path}
      {cause : Failure}
      (next : scan.next files = (some (.ok (line, .includes target)), after))
      (kind : ScriptKind.of resolver.probe resolver.marker files target = .error cause) :
      Follows resolver files scan found []
        (.error (.causedBy ⟨scan.file, line, .includeFailed⟩ cause))
  /-- A module without the marker type is included. -/
  | invalid {scan after : HeaderScan} {found : Resolution} {line : Nat} {target : Path}
      (next : scan.next files = (some (.ok (line, .includes target)), after))
      (kind : ScriptKind.of resolver.probe resolver.marker files target = .ok .invalid) :
      Follows resolver files scan found []
        (.error (.directive ⟨scan.file, line, .notScriptBinary target⟩))
  /-- A script binary is included. -/
  | binary {scan after : HeaderScan} {found more : Resolution} {line : Nat} {target : Path}
      {entered : List Path} {result : Except Failure Resolution}
      (next : scan.next files = (some (.ok (line, .includes target)), after))
      (kind : ScriptKind.of resolver.probe resolver.marker files target = .ok .binary)
      (taken : Takes found (.binary target) more)
      (later : Follows resolver files after more entered result) :
      Follows resolver files scan found entered result
  /-- A source file is included whose mode cannot be read. -/
  | modeless {scan after : HeaderScan} {found : Resolution} {line : Nat} {target : Path}
      {cause : Failure}
      (next : scan.next files = (some (.ok (line, .includes target)), after))
      (kind : ScriptKind.of resolver.probe resolver.marker files target = .ok .source)
      (declared : Mode.declared files target = .error cause) :
      Follows resolver files scan found []
        (.error (.causedBy ⟨scan.file, line, .includeFailed⟩ cause))
  /-- A source file is included that is no unit of its own. -/
  | incomplete {scan after : HeaderScan} {found : Resolution} {line : Nat} {target : Path}
      {mode : Mode}
      (next : scan.next files = (some (.ok (line, .includes target)), after))
      (kind : ScriptKind.of resolver.probe resolver.marker files target = .ok .source)
      (declared : Mode.declared files target = .ok mode) (partly : mode ≠ .complex) :
      Follows resolver files scan found []
        (.error (.directive ⟨scan.file, line, .notComplex target⟩))
  /-- A unit is included again. -/
  | known {scan after : HeaderScan} {found : Resolution} {line : Nat} {target : Path}
      {entered : List Path} {result : Except Failure Resolution}
      (next : scan.next files = (some (.ok (line, .includes target)), after))
      (kind : ScriptKind.of resolver.probe resolver.marker files target = .ok .source)
      (declared : Mode.declared files target = .ok .complex)
      (present : (Dependency.file target).key ∈ found.deps.map Dependency.key)
      (later : Follows resolver files after found entered result) :
      Follows resolver files scan found entered result
  /-- A new unit is included whose header cannot be read. -/
  | unreadable {scan after : HeaderScan} {found more : Resolution} {line : Nat} {target : Path}
      {cause : Failure}
      (next : scan.next files = (some (.ok (line, .includes target)), after))
      (kind : ScriptKind.of resolver.probe resolver.marker files target = .ok .source)
      (declared : Mode.declared files target = .ok .complex)
      (fresh : (Dependency.file target).key ∉ found.deps.map Dependency.key)
      (added : more.deps = found.deps ++ [.file target])
      (header : Source.header files target = .error cause) :
      Follows resolver files scan found []
        (.error (.causedBy ⟨scan.file, line, .includeFailed⟩ cause))
  /-- A new unit is included and followed to its end. -/
  | included {scan after : HeaderScan} {found more deeper : Resolution} {line : Nat}
      {target : Path} {header : List String} {within entered : List Path}
      {result : Except Failure Resolution}
      (next : scan.next files = (some (.ok (line, .includes target)), after))
      (kind : ScriptKind.of resolver.probe resolver.marker files target = .ok .source)
      (declared : Mode.declared files target = .ok .complex)
      (fresh : (Dependency.file target).key ∉ found.deps.map Dependency.key)
      (added : more.deps = found.deps ++ [.file target])
      (read : Source.header files target = .ok header)
      (inner : Follows resolver files (HeaderScan.start target header resolver.reference) more
        within (.ok deeper))
      (later : Follows resolver files after deeper entered result) :
      Follows resolver files scan found (target :: within ++ entered) result
  /-- A new unit is included and fails. -/
  | failed {scan after : HeaderScan} {found more : Resolution} {line : Nat} {target : Path}
      {header : List String} {within : List Path} {cause : Failure}
      (next : scan.next files = (some (.ok (line, .includes target)), after))
      (kind : ScriptKind.of resolver.probe resolver.marker files target = .ok .source)
      (declared : Mode.declared files target = .ok .complex)
      (fresh : (Dependency.file target).key ∉ found.deps.map Dependency.key)
      (added : more.deps = found.deps ++ [.file target])
      (read : Source.header files target = .ok header)
      (inner : Follows resolver files (HeaderScan.start target header resolver.reference) more
        within (.error cause)) :
      Follows resolver files scan found (target :: within)
        (.error (.causedBy ⟨scan.file, line, .includeFailed⟩ cause))

/-- Resolving a script enters the files `entered` and comes to `result`. -/
inductive Resolves (resolver : Resolver) (files : FileSystem) (script : Path) :
    List Path → Except Failure Resolution → Prop
  /-- The script is no file. -/
  | missing {cause : Failure} (located : Source.canonical files script = .error cause) :
      Resolves resolver files script [] (.error cause)
  /-- The script's header cannot be read. -/
  | unreadable {root : Path} {cause : Failure} (located : Source.canonical files script = .ok root)
      (header : Source.header files root = .error cause) :
      Resolves resolver files script [] (.error cause)
  /-- The script is followed to its end. -/
  | followed {root : Path} {header : List String} {entered : List Path}
      {result : Except Failure Resolution} (located : Source.canonical files script = .ok root)
      (read : Source.header files root = .ok header)
      (run : Follows resolver files (HeaderScan.start root header resolver.reference) .empty
        entered result) :
      Resolves resolver files script (root :: entered) result

/-- How a walk goes on when its innermost file has come to a result. -/
def goOn (resolver : Resolver) (files : FileSystem) (origin : Nat) (outer : List Frame) :
    Except Failure Resolution → Except Failure Resolution
  | .ok found => resolver.walk files found outer
  | .error failure => .error (unwind (⟨default, origin⟩ :: outer) failure)

/-- Of the innermost file, only the line that includes it matters for blame. -/
theorem unwind_cons (scan : HeaderScan) (origin : Nat) (outer : List Frame) (failure : Failure) :
    unwind (⟨scan, origin⟩ :: outer) failure = unwind (⟨default, origin⟩ :: outer) failure := by
  cases outer <;> rfl

theorem walk_of_next_none {resolver : Resolver} {files : FileSystem} {found : Resolution}
    {frame : Frame} {outer : List Frame} {after : HeaderScan}
    (next : frame.scan.next files = (none, after)) :
    resolver.walk files found (frame :: outer) = resolver.walk files found outer := by
  rw [walk]
  split <;> simp_all

theorem walk_of_next_error {resolver : Resolver} {files : FileSystem} {found : Resolution}
    {frame : Frame} {outer : List Frame} {after : HeaderScan} {error : DirectiveError}
    (next : frame.scan.next files = (some (.error error), after)) :
    resolver.walk files found (frame :: outer) =
      .error (unwind ({ frame with scan := after } :: outer) (.directive error)) := by
  rw [walk]
  split <;> simp_all

theorem walk_of_apply_error {resolver : Resolver} {files : FileSystem} {found : Resolution}
    {frame : Frame} {outer : List Frame} {after : HeaderScan} {line : Nat} {directive : Directive}
    {failure : Failure} (next : frame.scan.next files = (some (.ok (line, directive)), after))
    (applied : resolver.apply files found frame.file line directive = .error failure) :
    resolver.walk files found (frame :: outer) =
      .error (unwind ({ frame with scan := after } :: outer) failure) := by
  rw [walk]
  split
  · simp_all
  · simp_all
  · split <;> simp_all

theorem walk_of_apply_none {resolver : Resolver} {files : FileSystem} {found more : Resolution}
    {frame : Frame} {outer : List Frame} {after : HeaderScan} {line : Nat} {directive : Directive}
    (next : frame.scan.next files = (some (.ok (line, directive)), after))
    (applied : resolver.apply files found frame.file line directive = .ok ⟨more, none⟩) :
    resolver.walk files found (frame :: outer) =
      resolver.walk files more ({ frame with scan := after } :: outer) := by
  rw [walk]
  split
  · simp_all
  · simp_all
  · rename_i line' directive' after' same
    obtain ⟨⟨rfl, rfl⟩, rfl⟩ : (line = line' ∧ directive = directive') ∧ after = after' := by
      simpa [next] using same
    split
    · simp_all
    · rename_i step same'
      obtain rfl : _ = step := Except.ok.inj (applied.symm.trans same')
      split <;> simp_all

theorem walk_of_apply_some {resolver : Resolver} {files : FileSystem} {found more : Resolution}
    {frame inner : Frame} {outer : List Frame} {after : HeaderScan} {line : Nat}
    {directive : Directive} (next : frame.scan.next files = (some (.ok (line, directive)), after))
    (applied : resolver.apply files found frame.file line directive = .ok ⟨more, some inner⟩) :
    resolver.walk files found (frame :: outer) =
      resolver.walk files more (inner :: { frame with scan := after } :: outer) := by
  rw [walk]
  split
  · simp_all
  · simp_all
  · rename_i line' directive' after' same
    obtain ⟨⟨rfl, rfl⟩, rfl⟩ : (line = line' ∧ directive = directive') ∧ after = after' := by
      simpa [next] using same
    split
    · simp_all
    · rename_i step same'
      obtain rfl : _ = step := Except.ok.inj (applied.symm.trans same')
      split <;> simp_all

theorem walk_of_follows {resolver : Resolver} {files : FileSystem} {scan : HeaderScan}
    {found : Resolution} {entered : List Path} {result : Except Failure Resolution}
    (h : Follows resolver files scan found entered result) (origin : Nat) (outer : List Frame) :
    resolver.walk files found (⟨scan, origin⟩ :: outer) =
      resolver.goOn files origin outer result := by
  induction h generalizing origin outer with
  | finished next => exact walk_of_next_none next
  | faulty next => rw [walk_of_next_error next, unwind_cons]; rfl
  | mode next later ih => rw [walk_of_apply_none next rfl]; exact ih _ _
  | reference next taken later ih =>
    cases takes_iff.mp taken
    rw [walk_of_apply_none next rfl]; exact ih _ _
  | unknown next kind =>
    rw [walk_of_apply_error next (by simp only [apply, kind]; rfl), unwind_cons]; rfl
  | invalid next kind =>
    rw [walk_of_apply_error next (by simp only [apply, kind]; rfl), unwind_cons]; rfl
  | binary next kind taken later ih =>
    cases takes_iff.mp taken
    rw [walk_of_apply_none next (by simp only [apply, kind]; rfl)]; exact ih _ _
  | modeless next kind declared =>
    rw [walk_of_apply_error next (by simp only [apply, kind, includeSource, declared]; rfl),
      unwind_cons]; rfl
  | incomplete next kind declared partly =>
    rw [walk_of_apply_error next
      (by simp only [apply, kind, includeSource, declared, if_pos partly]; rfl), unwind_cons]; rfl
  | known next kind declared present later ih =>
    have present := Resolution.insert?_eq_none_iff.mpr present
    rw [walk_of_apply_none next (by simp [apply, kind, includeSource, declared, present]; rfl)]
    exact ih _ _
  | unreadable next kind declared fresh added header =>
    have added := Resolution.insert?_eq_some_iff.mpr ⟨fresh, added⟩
    rw [walk_of_apply_error next
      (by simp [apply, kind, includeSource, declared, added, openFile, header]; rfl), unwind_cons]
    rfl
  | included next kind declared fresh added read inner later ihInner ihLater =>
    have added := Resolution.insert?_eq_some_iff.mpr ⟨fresh, added⟩
    rw [walk_of_apply_some next
      (by simp [apply, kind, includeSource, declared, added, openFile, read]; exact ⟨rfl, rfl⟩)]
    rw [ihInner]
    exact ihLater _ _
  | failed next kind declared fresh added read inner ih =>
    have added := Resolution.insert?_eq_some_iff.mpr ⟨fresh, added⟩
    rw [walk_of_apply_some next
      (by simp [apply, kind, includeSource, declared, added, openFile, read]; exact ⟨rfl, rfl⟩)]
    rw [ih, goOn, goOn, unwind, unwind_cons]
    simp only [Frame.file, HeaderScan.next_file next, blame]

/-- What the rules give for a script is its resolution. -/
theorem resolve_of_resolves {resolver : Resolver} {files : FileSystem} {script : Path}
    {entered : List Path} {result : Except Failure Resolution}
    (h : Resolves resolver files script entered result) : resolver.resolve files script = result := by
  cases h with
  | missing located => simp [resolve, located]
  | unreadable located header => simp [resolve, located, openFile, header]
  | followed located read run =>
    simp only [resolve, located, openFile, read]
    rw [walk_of_follows run]
    cases result with
    | ok found => simp [goOn, walk]
    | error failure => rfl

end ScriptBuild.Resolver
