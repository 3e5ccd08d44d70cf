import ScriptBuild.Proofs.Engine.CompilationUnit
import ScriptBuild.Proofs.Engine.Portability
import ScriptBuild.Proofs.Script.ClassName

/-!
# Names over a session

A counting supply names the classes of a session, one after the other, whatever else happens: a name
is drawn by making the unit of a source file that is to be wrapped, and by nothing else. A
compilation makes at most one unit and a run compiles at most once, so an operation draws at most
one name. Engine and files may change between operations.

`Unnamed` says in which cases no text is wrapped, one constructor for each reason, and it is
equivalent to there being no wrapped text. In particular a file that fails on the way draws nothing,
and a compilation that fails after the unit was made has drawn already. The unit of a run is made in
the tree with the temporary module, which is why that is what its case speaks of.

The induction is over the operations of a session, with the counter's value as the state. One step
(`Draws`) takes it to that or to the next, and over a session it goes on by the number of wrapped
texts. Up to 64 bits nothing runs over, so distinct texts have distinct numbers; the names are then
distinct by the spelling alone.

**Results.**
* `draws_after`: what one operation does to the counter.
* `wrapped?_eq_none_iff`: the operations that draw no name.
* `shown_after`: the wrapped text is what is returned, or what the compiler is given.
* `names_consecutive`: over a session the names count on from the start.
-/
namespace ScriptBuild

/-- A source text put into a class, as its mode asks for it. -/
structure Wrapped where
  mode : Mode
  text : String
  unit : String
deriving DecidableEq, Repr

/-- The class that the text was put into has this name. -/
inductive Wrapped.NamedBy (name : String) : Wrapped → Prop
  | simple (text : String) :
      NamedBy name ⟨.simple, text, Wrapping.around (Wrapping.simpleFrame name) text⟩
  | single (text : String) :
      NamedBy name ⟨.single, text, Wrapping.around (Wrapping.singleFrame name) text⟩

namespace Engine

open ClassName (toNat_add_ofNat)

/-- What an engine can be asked to do. -/
inductive Operation
  | classify (path : Path)
  | mode (path : Path)
  | resolve (script : Path)
  | normalize (script : Path)
  | compile (script output : Path)
  | run (script : Path) (args : List String)

def wrappedUnit? (engine : Engine) (script : Path) (session : Session) : Option Wrapped :=
  match engine.mode session.files script, Source.read session.files script,
      (engine.normalize script session).1 with
  | .ok (some mode), .ok text, .ok unit =>
    if mode = .complex then none else some ⟨mode, text, unit⟩
  | _, _, _ => none

/-- The text that compiling a script puts into a class: it is resolved first. -/
def wrappedCompile? (engine : Engine) (script : Path) (session : Session) : Option Wrapped :=
  match Source.canonical session.files script with
  | .error _ => none
  | .ok full =>
    match engine.resolve session.files full with
    | .error _ => none
    | .ok _ => engine.wrappedUnit? full session

/-- The text that running a script puts into a class: source text is compiled, and that when the
temporary module has been made. -/
def wrappedRun? (engine : Engine) (script : Path) (session : Session) : Option Wrapped :=
  match Source.canonical session.files script with
  | .error _ => none
  | .ok full =>
    match engine.kind session.files full with
    | .ok .source =>
      match session.temporary engine.temporary with
      | (.error _, _) => none
      | (.ok (_, made), lots) =>
        engine.wrappedCompile? full { session with files := made, lots := lots }
    | _ => none

namespace Operation

def wrapped? (engine : Engine) (session : Session) : Operation → Option Wrapped
  | .classify _ | .mode _ | .resolve _ => none
  | .normalize script => engine.wrappedUnit? script session
  | .compile script _ => engine.wrappedCompile? script session
  | .run script _ => engine.wrappedRun? script session

def after (engine : Engine) (session : Session) : Operation → Session
  | .classify _ | .mode _ | .resolve _ => session
  | .normalize script => (engine.normalize script session).2
  | .compile script output => (engine.compile script output session).2
  | .run script args => (engine.run script args session).2

/-- The file that an operation makes a unit of, or would if it were to be wrapped. -/
inductive About (files : FileSystem) : Operation → Path → Prop
  | normalize (script : Path) : About files (.normalize script) script
  | compile {script full : Path} (output : Path)
      (located : Source.canonical files script = .ok full) :
      About files (.compile script output) full
  | run {script full : Path} (args : List String)
      (located : Source.canonical files script = .ok full) : About files (.run script args) full

/-- Why an operation draws no name: it only looks at files, its script is a whole unit or no source
text, or it fails before there is a unit to wrap. -/
inductive Unnamed (engine : Engine) : Session → Operation → Prop
  | classify (session : Session) (path : Path) : Unnamed engine session (.classify path)
  | mode (session : Session) (path : Path) : Unnamed engine session (.mode path)
  | resolve (session : Session) (script : Path) : Unnamed engine session (.resolve script)
  | complex {session : Session} {operation : Operation} {full : Path}
      (about : operation.About session.files full)
      (declared : Mode.declared session.files full = .ok .complex) :
      Unnamed engine session operation
  | module {session : Session} {operation : Operation} {full : Path}
      (about : operation.About session.files full)
      (kind : engine.kind session.files full ≠ .ok .source) : Unnamed engine session operation
  | modeless {session : Session} {script : Path} {failure : Failure}
      (declared : Mode.declared session.files script = .error failure) :
      Unnamed engine session (.normalize script)
  | unread {session : Session} {script : Path} {failure : Failure}
      (read : Source.read session.files script = .error failure) :
      Unnamed engine session (.normalize script)
  | unlocated {session : Session} {script : Path} {failure : Failure} (output : Path)
      (located : Source.canonical session.files script = .error failure) :
      Unnamed engine session (.compile script output)
  | unresolved {session : Session} {script full : Path} {failure : Failure} (output : Path)
      (located : Source.canonical session.files script = .ok full)
      (resolved : engine.resolve session.files full = .error failure) :
      Unnamed engine session (.compile script output)
  | unit {session : Session} {script full : Path} (output : Path)
      (located : Source.canonical session.files script = .ok full)
      (unnamed : Unnamed engine session (.normalize full)) :
      Unnamed engine session (.compile script output)
  | notFound {session : Session} {script : Path} {failure : Failure} (args : List String)
      (located : Source.canonical session.files script = .error failure) :
      Unnamed engine session (.run script args)
  | noTemporary {session : Session} {script : Path} {refusal : IoError} {lots : List Lot}
      (args : List String)
      (temporary : session.temporary engine.temporary = (.error refusal, lots)) :
      Unnamed engine session (.run script args)
  | compiled {session : Session} {made : FileSystem} {lots : List Lot}
      {script full module : Path} (args : List String)
      (located : Source.canonical session.files script = .ok full)
      (temporary : session.temporary engine.temporary = (.ok (module, made), lots))
      (unnamed : Unnamed engine { session with files := made, lots := lots }
        (.compile full module)) :
      Unnamed engine session (.run script args)

end Operation

/-- A counter gives the name of a text that is wrapped, and otherwise stays. -/
inductive Draws (next : UInt64) : Option Wrapped → ClassName.Supply → Prop
  | none : Draws next none (.counting next)
  | one {wrapped : Wrapped} (named : wrapped.NamedBy (ClassName.spell next)) :
      Draws next (some wrapped) (.counting (next + 1))

namespace Draws

theorem names {next : UInt64} {wrapped? : Option Wrapped} {names : ClassName.Supply}
    (h : Draws next wrapped? names) :
    names = .counting (next + UInt64.ofNat wrapped?.toList.length) := by
  cases h with
  | none => simp
  | one named => rfl

theorem named {next : UInt64} {wrapped : Wrapped} {names : ClassName.Supply}
    (h : Draws next (some wrapped) names) : wrapped.NamedBy (ClassName.spell next) := by
  cases h
  assumption

end Draws

variable {engine : Engine} {script full output module : Path} {args : List String}
  {session : Session} {files made : FileSystem} {next : UInt64} {wrapped : Wrapped}
  {operation : Operation}

/-! ## Making a unit -/

theorem mode_of_kind (kind : engine.kind files script = .ok .source) :
    engine.mode files script = (Mode.declared files script).map some := by
  unfold Engine.kind at kind
  simp [Engine.mode, Mode.of, kind]

theorem mode_of_kind_ne (kind : engine.kind files script ≠ .ok .source) :
    engine.mode files script = .ok none := by
  unfold Engine.kind at kind
  unfold Engine.mode Mode.of
  split
  · exact absurd (by assumption) kind
  · rfl

theorem draws_normalize (counting : session.names = .counting next) :
    Draws next (engine.wrappedUnit? script session) (engine.normalize script session).2.names := by
  unfold wrappedUnit? normalize
  cases engine.mode session.files script with
  | error failure => simpa [counting] using .none
  | ok mode? =>
    cases Source.read session.files script with
    | error failure => simpa [counting] using .none
    | ok text =>
      cases mode? with
      | none => simpa [counting] using .none
      | some mode =>
        cases mode with
        | complex => simpa [counting, Wrapping.normalize] using .none
        | simple => simpa [counting, Wrapping.normalize] using .one (.simple text)
        | single => simpa [counting, Wrapping.normalize] using .one (.single text)

/-- A text is wrapped if it is source text, has a mode that asks for it, and can be read. -/
theorem wrappedUnit?_eq_some_iff : engine.wrappedUnit? script session = some wrapped ↔
    engine.kind session.files script = .ok .source ∧
      Mode.declared session.files script = .ok wrapped.mode ∧ wrapped.mode ≠ .complex ∧
      Source.read session.files script = .ok wrapped.text ∧
      (engine.normalize script session).1 = .ok wrapped.unit := by
  constructor
  · intro h
    by_cases kind : engine.kind session.files script = .ok .source
    · rw [wrappedUnit?, mode_of_kind kind] at h
      split at h
      · rename_i mode text unit hmode read made
        split at h
        · cases h
        · rename_i hproper
          obtain rfl := Option.some.inj h
          cases declared : Mode.declared session.files script with
          | error failure => simp [declared, Except.map] at hmode
          | ok declaredMode =>
            obtain rfl : declaredMode = mode := by simpa [declared, Except.map] using hmode
            exact ⟨kind, rfl, hproper, read, made⟩
      · cases h
    · simp [wrappedUnit?, mode_of_kind_ne kind] at h
  · rintro ⟨kind, declared, hproper, read, made⟩
    simp [wrappedUnit?, mode_of_kind kind, declared, Except.map, read, made, hproper]

theorem wrappedUnit?_eq_none_iff : engine.wrappedUnit? script session = none ↔
    Operation.Unnamed engine session (.normalize script) := by
  constructor
  · intro hnone
    by_cases kind : engine.kind session.files script = .ok .source
    · cases declared : Mode.declared session.files script with
      | error failure => exact .modeless declared
      | ok mode =>
        by_cases hcomplex : mode = .complex
        · exact .complex (.normalize script) (hcomplex ▸ declared)
        · cases read : Source.read session.files script with
          | error failure => exact .unread read
          | ok text =>
            have made := normalize_of_source kind declared read
            simp [wrappedUnit?, mode_of_kind kind, declared, Except.map, read, made,
              hcomplex] at hnone
    · exact .module (.normalize script) kind
  · intro hunnamed
    refine Option.eq_none_iff_forall_ne_some.mpr fun wrapped hsome => ?_
    obtain ⟨kind, declared, hproper, read, -⟩ := wrappedUnit?_eq_some_iff.mp hsome
    cases hunnamed with
    | complex about declared' =>
      cases about
      exact hproper (Except.ok.inj (declared.symm.trans declared'))
    | module about kind' =>
      cases about
      exact kind' kind
    | modeless declared' => simp [declared] at declared'
    | unread read' => simp [read] at read'

/-! ## Compiling -/

theorem wrappedCompile?_eq_some_iff : engine.wrappedCompile? script session = some wrapped ↔
    ∃ full found, Source.canonical session.files script = .ok full ∧
      engine.resolve session.files full = .ok found ∧
      engine.wrappedUnit? full session = some wrapped := by
  unfold wrappedCompile?
  cases Source.canonical session.files script with
  | error failure => simp
  | ok full => cases hresolved : engine.resolve session.files full <;> simp [hresolved]

theorem names_build {found : Resolution} {unit : String} :
    (engine.build script found unit output session).2.names = session.names := by
  cases hwrite : session.files.write (unitPath script) (Text.Utf8.encode unit) with
  | error cause => rw [build_of_write_error hwrite]
  | ok given => rw [build_of_write hwrite]

theorem draws_compile (counting : session.names = .counting next) (output : Path) :
    Draws next (engine.wrappedCompile? script session)
      (engine.compile script output session).2.names := by
  unfold wrappedCompile? compile
  cases Source.canonical session.files script with
  | error failure => simpa [counting] using .none
  | ok full =>
    simp only
    cases engine.resolve session.files full with
    | error failure => simpa [counting] using .none
    | ok found =>
      have hunit : Draws next (engine.wrappedUnit? full session)
          (engine.normalize full session).2.names := draws_normalize counting
      simp only
      split
      · rename_i made
        simpa [made] using hunit
      · rename_i made
        rw [names_build]
        simpa [made] using hunit

theorem wrappedCompile?_eq_none_iff (output : Path) :
    engine.wrappedCompile? script session = none ↔
      Operation.Unnamed engine session (.compile script output) := by
  constructor
  · intro hnone
    cases located : Source.canonical session.files script with
    | error failure => exact .unlocated output located
    | ok full =>
      cases resolved : engine.resolve session.files full with
      | error failure => exact .unresolved output located resolved
      | ok found =>
        have hunit : engine.wrappedUnit? full session = none := by
          simpa [wrappedCompile?, located, resolved] using hnone
        exact .unit output located (wrappedUnit?_eq_none_iff.mp hunit)
  · intro hunnamed
    refine Option.eq_none_iff_forall_ne_some.mpr fun wrapped hsome => ?_
    obtain ⟨full, found, located, resolved, hunit⟩ := wrappedCompile?_eq_some_iff.mp hsome
    have hexcluded : ¬Operation.Unnamed engine session (.normalize full) := fun h => by
      simp [wrappedUnit?_eq_none_iff.mpr h] at hunit
    have hsame : ∀ {other}, Source.canonical session.files script = .ok other → other = full :=
      fun located' => Except.ok.inj (located'.symm.trans located)
    cases hunnamed with
    | complex about declared =>
      cases about with
      | compile output located' =>
        exact hexcluded (.complex (.normalize full) (hsame located' ▸ declared))
    | module about kind =>
      cases about with
      | compile output located' =>
        exact hexcluded (.module (.normalize full) (hsame located' ▸ kind))
    | unlocated output located' => simp [located] at located'
    | unresolved output located' resolved' => simp [hsame located', resolved] at resolved'
    | unit output located' hunit' => exact hexcluded (hsame located' ▸ hunit')

/-! ## Running -/

theorem wrappedRun?_eq_some_iff : engine.wrappedRun? script session = some wrapped ↔
    ∃ full module made lots, Source.canonical session.files script = .ok full ∧
      engine.kind session.files full = .ok .source ∧
      session.temporary engine.temporary = (.ok (module, made), lots) ∧
      engine.wrappedCompile? full { session with files := made, lots := lots } = some wrapped := by
  unfold wrappedRun?
  cases Source.canonical session.files script with
  | error failure => simp
  | ok full =>
    cases hkind : engine.kind session.files full with
    | error failure => simp [hkind]
    | ok kind =>
      cases kind with
      | source =>
        rcases engine.temporary_cases session with
          ⟨refusal, lots, temporary⟩ | ⟨module, made, lots, temporary⟩
        · simp [hkind, temporary]
        · simp [hkind, temporary]
      | _ => simp [hkind]

theorem lots_normalize : (engine.normalize script session).2.lots = session.lots := by
  unfold normalize
  split
  · rfl
  · split
    · rfl
    · split <;> rfl

theorem names_start : (engine.start script module args session).2.names = session.names := by
  rw [start_eq]
  split
  · rfl
  · split
    · rfl
    · split <;> rfl

theorem draws_run (counting : session.names = .counting next) (args : List String) :
    Draws next (engine.wrappedRun? script session) (engine.run script args session).2.names := by
  unfold wrappedRun? run
  cases Source.canonical session.files script with
  | error failure => simpa [counting] using .none
  | ok full =>
    simp only
    cases engine.kind session.files full with
    | error failure => simpa [counting] using .none
    | ok kind =>
      cases kind with
      | source =>
        simp only [runSource]
        rcases engine.temporary_cases session with
          ⟨refusal, lots, temporary⟩ | ⟨module, made, lots, temporary⟩
        · rw [temporary]
          simpa [counting] using .none
        · rw [temporary]
          have hmade : ({ session with files := made, lots := lots } : Session).names =
              .counting next := counting
          have hcompile : Draws next
              (engine.wrappedCompile? full { session with files := made, lots := lots })
              (engine.compile full module { session with files := made, lots := lots }).2.names :=
            draws_compile hmade module
          simp only
          split
          · rename_i ended
            simpa [ended] using hcompile
          · rename_i ended
            simpa [ended, names_start] using hcompile
      | binary => simpa [counting, names_start] using .none
      | invalid => simpa [counting, names_start] using .none

theorem declared_of_temporary {mode : Mode}
    (located : Source.canonical session.files script = .ok full)
    (temporary : (session.temporary engine.temporary).1 = .ok (module, made))
    (hfile : session.files.isFile full = true)
    (declared : Mode.declared session.files full = .ok mode) :
    Source.canonical made full = .ok full ∧ Mode.declared made full = .ok mode := by
  obtain ⟨spot, hmaking⟩ := making_of_temporary temporary
  have hcanonical := FileSystem.canonical_of_canonical (Source.canonical_of_ok located)
  have hheader := (hmaking.readsAlike (hmaking.resolve_ne hfile)).header
  exact ⟨(canonical_made hcanonical hfile hmaking).2,
    by simpa [Mode.declared, hheader] using declared⟩

theorem wrappedRun?_eq_none_iff (args : List String) :
    engine.wrappedRun? script session = none ↔
      Operation.Unnamed engine session (.run script args) := by
  constructor
  · intro hnone
    cases located : Source.canonical session.files script with
    | error failure => exact .notFound args located
    | ok full =>
      by_cases kind : engine.kind session.files full = .ok .source
      · rcases engine.temporary_cases session with
          ⟨refusal, lots, temporary⟩ | ⟨module, made, lots, temporary⟩
        · exact .noTemporary args temporary
        · have hcompile : engine.wrappedCompile? full
              { session with files := made, lots := lots } = none := by
            simpa [wrappedRun?, located, kind, temporary] using hnone
          exact .compiled args located temporary ((wrappedCompile?_eq_none_iff module).mp hcompile)
      · exact .module (.run args located) kind
  · intro hunnamed
    refine Option.eq_none_iff_forall_ne_some.mpr fun wrapped hsome => ?_
    obtain ⟨full, module, made, lots, located, kind, temporary, hcompile⟩ :=
      wrappedRun?_eq_some_iff.mp hsome
    let beside : Session := { session with files := made, lots := lots }
    have hexcluded : ¬Operation.Unnamed engine beside (.compile full module) := fun h => by
      have hnone : engine.wrappedCompile? full beside = none :=
        (wrappedCompile?_eq_none_iff module).mpr h
      simp [beside, hcompile] at hnone
    have hsame : ∀ {other}, Source.canonical session.files script = .ok other → other = full :=
      fun located' => Except.ok.inj (located'.symm.trans located)
    cases hunnamed with
    | complex about declared =>
      cases about with
      | run args located' =>
        obtain ⟨located'', declared'⟩ := declared_of_temporary located (congrArg Prod.fst temporary)
          (ScriptKind.isFile_of_kind kind) (hsame located' ▸ declared)
        exact hexcluded (.complex (.compile module located'') declared')
    | module about kind' =>
      cases about with
      | run args located' => exact kind' (hsame located' ▸ kind)
    | notFound args located' => simp [located] at located'
    | noTemporary args temporary' => simp [temporary] at temporary'
    | compiled args located' temporary' hunnamed' =>
      obtain ⟨⟨rfl, rfl⟩, rfl⟩ : (_ = module ∧ _ = made) ∧ _ = lots := by
        simpa [temporary] using temporary'.symm
      exact hexcluded (hsame located' ▸ hunnamed')

/-! ## One operation -/

theorem draws_after (counting : session.names = .counting next) (operation : Operation) :
    Draws next (operation.wrapped? engine session) (operation.after engine session).names := by
  cases operation with
  | normalize script => exact draws_normalize counting
  | compile script output => exact draws_compile counting output
  | run script args => exact draws_run counting args
  | _ => exact counting ▸ .none

/-- The operations that draw no name. -/
theorem wrapped?_eq_none_iff : operation.wrapped? engine session = none ↔
    operation.Unnamed engine session := by
  cases operation with
  | classify path => exact ⟨fun _ => .classify _ _, fun _ => rfl⟩
  | mode path => exact ⟨fun _ => .mode _ _, fun _ => rfl⟩
  | resolve script => exact ⟨fun _ => .resolve _ _, fun _ => rfl⟩
  | normalize script => exact wrappedUnit?_eq_none_iff
  | compile script output => exact wrappedCompile?_eq_none_iff output
  | run script args => exact wrappedRun?_eq_none_iff args

/-- Whatever the compiler is called for reads as the wrapped text where its first source is. -/
def Wrapped.GivenIn (wrapped : Wrapped) (made : List Call) : Prop :=
  ∀ request given, .compile request given ∈ made → ∃ path rest, request.sources = path :: rest ∧
    given.read path = .ok (Text.Utf8.encode wrapped.unit)

/-- The wrapped text is what an operation returns, or what it gives the compiler. -/
structure Shown (engine : Engine) (session : Session) (operation : Operation) (wrapped : Wrapped) :
    Prop where
  returned : ∀ script, operation = .normalize script →
    (engine.normalize script session).1 = .ok wrapped.unit
  given : ∃ made, (operation.after engine session).calls = session.calls ++ made ∧
    Wrapped.GivenIn wrapped made

theorem given_compile (h : engine.wrappedCompile? script session = some wrapped) (output : Path) :
    ∃ made, (engine.compile script output session).2.calls = session.calls ++ made ∧
      Wrapped.GivenIn wrapped made := by
  obtain ⟨full, found, located, resolved, hunit⟩ := wrappedCompile?_eq_some_iff.mp h
  obtain ⟨-, -, -, -, hmade⟩ := wrappedUnit?_eq_some_iff.mp hunit
  rcases compile_cases engine script output session with
    ⟨failure, after, hcompile, -, hcalls⟩ |
    ⟨full', found', unit, after, located', -, hnormalized, hcompile⟩
  · exact ⟨[], by rw [hcompile, hcalls, List.append_nil], by simp [Wrapped.GivenIn]⟩
  · obtain rfl : full' = full := Except.ok.inj (located'.symm.trans located)
    obtain ⟨hfiles, hcalls⟩ := files_of_normalize engine full' session
    rw [hnormalized] at hfiles hcalls hmade
    simp only at hfiles hcalls
    obtain rfl : unit = wrapped.unit := Except.ok.inj hmade
    cases hwrite : after.files.write (unitPath full') (Text.Utf8.encode wrapped.unit) with
    | error cause =>
      rw [build_of_write_error hwrite] at hcompile
      exact ⟨[], by rw [hcompile, hcalls, List.append_nil], by simp [Wrapped.GivenIn]⟩
    | ok given =>
      rw [build_of_write hwrite] at hcompile
      have hread : given.read (unitPath full') = .ok (Text.Utf8.encode wrapped.unit) :=
        FileSystem.read_of_write hwrite (isAbsolute_unitPath
          (FileSystem.canonical_of_canonical (Source.canonical_of_ok located)))
      refine ⟨_, by rw [hcompile, hcalls], fun request given' hmem => ?_⟩
      obtain ⟨rfl, rfl⟩ := Call.compile.inj (List.mem_singleton.mp hmem)
      exact ⟨_, _, rfl, hread⟩

theorem given_run (h : engine.wrappedRun? script session = some wrapped) (args : List String) :
    ∃ made, (engine.run script args session).2.calls = session.calls ++ made ∧
      Wrapped.GivenIn wrapped made := by
  obtain ⟨full, module, files, lots, located, kind, temporary, hwrapped⟩ :=
    wrappedRun?_eq_some_iff.mp h
  obtain ⟨made, hcalls, hgiven⟩ := given_compile hwrapped module
  cases hcompile : engine.compile full module { session with files := files, lots := lots } with
  | mk result after =>
    rw [hcompile] at hcalls
    cases result with
    | error failure =>
      obtain ⟨-, hrun⟩ := run_of_compile_error args located kind temporary hcompile
      exact ⟨made, hrun.trans hcalls, hgiven⟩
    | ok warnings =>
      obtain ⟨-, hrun⟩ := run_of_compile_ok args located kind temporary hcompile
      rcases engine.calls_of_start full module args after with hnone | ⟨_, _, _, hone⟩
      · exact ⟨made, by rw [hrun, hnone, hcalls], hgiven⟩
      · refine ⟨made ++ [_], by rw [hrun, hone, hcalls, List.append_assoc], ?_⟩
        intro request given hmem
        exact hgiven request given (by simpa using hmem)

theorem shown_after (h : operation.wrapped? engine session = some wrapped) :
    Shown engine session operation wrapped := by
  cases operation with
  | normalize script =>
    obtain ⟨-, -, -, -, hmade⟩ := wrappedUnit?_eq_some_iff.mp h
    have hcalls := (files_of_normalize engine script session).2
    refine ⟨fun other hother => by cases hother; exact hmade, [], ?_, by simp [Wrapped.GivenIn]⟩
    simpa [Operation.after] using hcalls
  | compile script output => exact ⟨by simp, given_compile h output⟩
  | run script args => exact ⟨by simp, given_run h args⟩
  | _ => cases h

/-- What one operation does between two values of the counter. -/
structure Advances (engine : Engine) (session : Session) (operation : Operation)
    (value next : UInt64) : Prop where
  before : session.names = .counting value
  after : (operation.after engine session).names = .counting next
  stays : operation.Unnamed engine session →
    operation.wrapped? engine session = none ∧ next = value
  /-- In every other case a text is wrapped, and takes the name that the counter spells. -/
  wraps : ¬operation.Unnamed engine session → ∃ wrapped,
    operation.wrapped? engine session = some wrapped ∧
      wrapped.NamedBy (ClassName.spell value) ∧ Shown engine session operation wrapped ∧
      next.toNat = value.toNat + 1

/-! ## A session -/

/-- One operation of a session, with the engine and the files as they are by then. -/
structure Turn where
  engine : Engine
  files : FileSystem
  operation : Operation

namespace Turn

def before (turn : Turn) (session : Session) : Session := { session with files := turn.files }

def wrapped? (turn : Turn) (session : Session) : Option Wrapped :=
  turn.operation.wrapped? turn.engine (turn.before session)

def after (turn : Turn) (session : Session) : Session :=
  turn.operation.after turn.engine (turn.before session)

end Turn

def afterAll (session : Session) (turns : List Turn) : Session :=
  turns.foldl (fun session turn => turn.after session) session

/-- The texts that are put into classes, in order. -/
def wrappings (session : Session) : List Turn → List Wrapped
  | [] => []
  | turn :: later => (turn.wrapped? session).toList ++ wrappings (turn.after session) later

/-- The names count on from the start, one for each text that is wrapped. -/
structure Consecutive (start : UInt64) (session : Session) (turns : List Turn) : Prop where
  named : ∀ index wrapped, (wrappings session turns)[index]? = some wrapped →
    ∃ value : UInt64, value.toNat = start.toNat + index ∧
      wrapped.NamedBy (ClassName.spell value)
  advances : ∀ earlier turn later, turns = earlier ++ turn :: later →
    ∃ value next : UInt64, value.toNat = start.toNat + (wrappings session earlier).length ∧
      Advances turn.engine (turn.before (afterAll session earlier)) turn.operation value next

variable {start : UInt64} {turns : List Turn}

theorem wrappings_append (session : Session) (earlier later : List Turn) :
    wrappings session (earlier ++ later) =
      wrappings session earlier ++ wrappings (afterAll session earlier) later := by
  induction earlier generalizing session with
  | nil => rfl
  | cons turn earlier ih => simp [wrappings, afterAll, ih, List.append_assoc]

theorem draws_turn (counting : session.names = .counting start) (turn : Turn) :
    Draws start (turn.wrapped? session) (turn.after session).names :=
  have hbefore : (turn.before session).names = .counting start := counting
  draws_after hbefore turn.operation

/-- Over a session the counter goes on by the number of texts that are wrapped. -/
theorem names_afterAll (counting : session.names = .counting start) (turns : List Turn) :
    (afterAll session turns).names =
      .counting (start + UInt64.ofNat (wrappings session turns).length) := by
  induction turns generalizing session start with
  | nil => simpa [afterAll, wrappings] using counting
  | cons turn later ih =>
    change (afterAll (turn.after session) later).names = _
    rw [ih (draws_turn counting turn).names, wrappings, List.length_append, UInt64.ofNat_add,
      UInt64.add_assoc]

/-- Each text takes the name that the counter spells by then. -/
theorem named_wrappings (counting : session.names = .counting start) {index : Nat}
    (h : (wrappings session turns)[index]? = some wrapped) :
    wrapped.NamedBy (ClassName.spell (start + UInt64.ofNat index)) := by
  induction turns generalizing session start index with
  | nil => simp [wrappings] at h
  | cons turn later ih =>
    have hdraws := draws_turn counting turn
    have hnames := hdraws.names
    rw [wrappings] at h
    cases hwrapped : turn.wrapped? session with
    | none =>
      rw [hwrapped] at h hnames
      simpa using ih hnames (by simpa using h)
    | some first =>
      rw [hwrapped] at h hnames hdraws
      cases index with
      | zero =>
        obtain rfl : first = wrapped := by simpa using h
        simpa using hdraws.named
      | succ index =>
        have hlater := ih hnames (by simpa using h)
        rw [UInt64.add_assoc, ← UInt64.ofNat_add, Nat.add_comm] at hlater
        exact hlater

/-- One operation takes the counter from its value to that or, if a text is wrapped, to the next. -/
theorem exists_advances (counting : session.names = .counting start)
    (few : start.toNat + (operation.wrapped? engine session).toList.length < 2 ^ 64) :
    ∃ next, Advances engine session operation start next := by
  have hdraws : Draws start (operation.wrapped? engine session)
      (operation.after engine session).names := draws_after counting operation
  refine ⟨_, counting, hdraws.names, fun hunnamed => ?_, fun hnamed => ?_⟩
  · have hnone := wrapped?_eq_none_iff.mpr hunnamed
    exact ⟨hnone, by simp [hnone]⟩
  · obtain ⟨wrapped, hwrapped⟩ : ∃ wrapped, operation.wrapped? engine session = some wrapped :=
      Option.ne_none_iff_exists'.mp fun hnone => hnamed (wrapped?_eq_none_iff.mp hnone)
    refine ⟨wrapped, hwrapped, (hwrapped ▸ hdraws).named, shown_after hwrapped, ?_⟩
    rw [hwrapped] at few ⊢
    exact toNat_add_ofNat few

/-! ## A script that is wrapped twice -/

def bodyOnly : String := "return 0;\n"

def wrappedBody (name : String) : Wrapped :=
  ⟨.single, bodyOnly, Wrapping.around (Wrapping.singleFrame name) bodyOnly⟩

theorem canonical_bodyOnly
    (hmain : files.node? ["main"] = some (.file (Text.Utf8.encode bodyOnly))) :
    Source.canonical files ⟨"/main"⟩ = .ok ⟨"/main"⟩ := by
  have hspelled := rootName_main.spelled hmain
  exact Source.canonical_of_locate (FileSystem.resolve_path_of_spelled hspelled) hmain
    (FileSystem.locate_path_of_spelled hspelled)

theorem read_bodyOnly
    (hmain : files.node? ["main"] = some (.file (Text.Utf8.encode bodyOnly))) :
    Source.read files ⟨"/main"⟩ = .ok bodyOnly ∧ Source.header files ⟨"/main"⟩ = .ok [] := by
  have hresolve := FileSystem.resolve_path_of_spelled (rootName_main.spelled hmain)
  have hread : Source.read files ⟨"/main"⟩ = .ok (Source.decode (Text.Utf8.encode bodyOnly)) :=
    Source.read_of_resolve hresolve hmain
  have hheader : Source.header files ⟨"/main"⟩ =
      .ok (Header.scan (Source.decode (Text.Utf8.encode bodyOnly))) :=
    Source.header_of_resolve hresolve hmain
  rw [hread, hheader]
  exact ⟨by cbv, by cbv⟩

theorem wrappedUnit?_bodyOnly
    (hmain : session.files.node? ["main"] = some (.file (Text.Utf8.encode bodyOnly)))
    (counting : session.names = .counting next) :
    idle.wrappedUnit? ⟨"/main"⟩ session = some (wrappedBody (ClassName.spell next)) := by
  obtain ⟨hread, hheader⟩ := read_bodyOnly hmain
  have hkind : idle.kind session.files ⟨"/main"⟩ = .ok .source :=
    ScriptKind.source_of_probe (Source.isFile_of_header hheader) rfl
  have hmode : Mode.declared session.files ⟨"/main"⟩ = .ok .single :=
    Mode.declared_of_header hheader rfl
  refine wrappedUnit?_eq_some_iff.mpr ⟨hkind, hmode, by simp [wrappedBody], hread, ?_⟩
  rw [normalize_of_source hkind hmode hread, counting]
  rfl

theorem wrappedRun?_bodyOnly
    (hmain : session.files.node? ["main"] = some (.file (Text.Utf8.encode bodyOnly)))
    (hfree : session.files.node? ["scs-AAAAAA.dll"] = none)
    {lots : List Lot} (hlots : session.lots = FileSystem.firstLot :: lots)
    (counting : session.names = .counting next) :
    idle.wrappedRun? ⟨"/main"⟩ session = some (wrappedBody (ClassName.spell next)) := by
  have hfile : session.files.isFile ⟨"/main"⟩ = true :=
    Source.isFile_of_header (read_bodyOnly hmain).2
  have hmain' : (session.files.set ["scs-AAAAAA.dll"] (.file [])).node? ["main"] =
      some (.file (Text.Utf8.encode bodyOnly)) := by
    rw [FileSystem.node?_set_of_ne (by decide), hmain]
  have hresolve : idle.resolve (session.files.set ["scs-AAAAAA.dll"] (.file [])) ⟨"/main"⟩ =
      .ok .empty :=
    Resolver.resolve_of_completes (canonical_bodyOnly hmain') (read_bodyOnly hmain').2
      (.finished (HeaderScan.next_of_nil rfl))
  have htemporary : session.temporary idle.temporary =
      (.ok (⟨"/scs-AAAAAA.dll"⟩, session.files.set ["scs-AAAAAA.dll"] (.file [])), lots) := by
    rw [Session.temporary, hlots]
    exact createTemporary_root hfree lots
  exact wrappedRun?_eq_some_iff.mpr ⟨⟨"/main"⟩, _, _, _, canonical_bodyOnly hmain,
    ScriptKind.source_of_probe hfile rfl, htemporary,
    wrappedCompile?_eq_some_iff.mpr ⟨⟨"/main"⟩, _, canonical_bodyOnly hmain', hresolve,
      wrappedUnit?_bodyOnly hmain' counting⟩⟩

def bodyAlone : FileSystem := ⟨[(["main"], .file (Text.Utf8.encode bodyOnly))], []⟩

def twice : List Turn :=
  [⟨idle, bodyAlone, .normalize ⟨"/main"⟩⟩, ⟨idle, bodyAlone, .run ⟨"/main"⟩ []⟩]

theorem wrappings_twice (counting : session.names = .counting 7)
    (hlots : session.lots = [FileSystem.firstLot]) :
    wrappings session twice = [wrappedBody "AAAAAAAAAH", wrappedBody "AAAAAAAAAI"] := by
  have hfirst : ClassName.spell 7 = "AAAAAAAAAH" := by decide
  have hsecond : ClassName.spell (7 + 1) = "AAAAAAAAAI" := by decide
  have hunit : Turn.wrapped? ⟨idle, bodyAlone, .normalize ⟨"/main"⟩⟩ session =
      some (wrappedBody "AAAAAAAAAH") :=
    hfirst ▸ wrappedUnit?_bodyOnly rfl counting
  have hdraws := draws_turn counting ⟨idle, bodyAlone, .normalize ⟨"/main"⟩⟩
  rw [hunit] at hdraws
  have hkept : (Turn.after ⟨idle, bodyAlone, .normalize ⟨"/main"⟩⟩ session).lots =
      [FileSystem.firstLot] := lots_normalize.trans hlots
  have hrun : ∀ later : Session, later.names = .counting (7 + 1) →
      later.lots = [FileSystem.firstLot] →
      Turn.wrapped? ⟨idle, bodyAlone, .run ⟨"/main"⟩ []⟩ later = some (wrappedBody "AAAAAAAAAI") :=
    fun _ hnames hleft => hsecond ▸ wrappedRun?_bodyOnly rfl rfl hleft hnames
  simp only [twice, wrappings, hunit, hrun _ hdraws.names hkept]
  rfl

/-- Over a session the names count on from the start, as long as the counter does not run over. -/
theorem names_consecutive (counting : session.names = .counting start)
    (few : start.toNat + (wrappings session turns).length < 2 ^ 64) :
    Consecutive start session turns where
  named index wrapped hget := by
    have hindex : index < (wrappings session turns).length := (List.getElem?_eq_some_iff.mp hget).1
    exact ⟨_, toNat_add_ofNat (by omega), named_wrappings counting hget⟩
  advances earlier turn later hturns := by
    rw [hturns, wrappings_append, wrappings, List.length_append, List.length_append] at few
    have hvalue : (start + UInt64.ofNat (wrappings session earlier).length).toNat =
        start.toNat + (wrappings session earlier).length := toNat_add_ofNat (by omega)
    have hroom : (start + UInt64.ofNat (wrappings session earlier).length).toNat +
        (turn.wrapped? (afterAll session earlier)).toList.length < 2 ^ 64 := by
      omega
    obtain ⟨next, hadvances⟩ : ∃ next, Advances turn.engine
        (turn.before (afterAll session earlier)) turn.operation _ next :=
      exists_advances (names_afterAll counting earlier) hroom
    exact ⟨_, next, hvalue, hadvances⟩

theorem names_consecutive_twice :
    wrappings ⟨bodyAlone, .counting 7, [FileSystem.firstLot], [], {}⟩ twice =
      [wrappedBody "AAAAAAAAAH", wrappedBody "AAAAAAAAAI"] ∧
    Consecutive 7 ⟨bodyAlone, .counting 7, [FileSystem.firstLot], [], {}⟩ twice := by
  have hwrappings : wrappings ⟨bodyAlone, .counting 7, [FileSystem.firstLot], [], {}⟩ twice =
      [wrappedBody "AAAAAAAAAH", wrappedBody "AAAAAAAAAI"] := wrappings_twice rfl rfl
  exact ⟨hwrappings, names_consecutive rfl (by rw [hwrappings]; decide)⟩

end Engine

end ScriptBuild
