import Mathlib.Logic.Relation
import ScriptBuild.Proofs.Resolution.Soundness
import ScriptBuild.Proofs.Text.Encoding

/-!
# A walk, one turn after another

A walk is a loop over its stack. One turn reads the innermost file on to its next directive and
follows that one, or leaves the file at its end; a turn that finds a new source file opens it and
puts it on the stack. `Walking` is what the loop has in hand between two turns, with a record of
the files opened so far.

What is opened behind the script is what is recorded as a source file, one for one. So no file is
opened twice under one path, and a walk with canonical paths opens no file twice under any. The
script is not recorded when it is opened, and an include may lead back to it once.

**Results.**
* `walk_eq_turn`: a walk is its turns, one after another.
* `goesOn_descends`, `wellFounded_goesOn`: no walk goes on for ever.
* `Orderly.goesOn`, `Orderly.run`: what is opened is what is recorded, and everything is recorded
  for a reason, between any two turns.
* `resolve_opens`: every resolution ends, and how often it opens a file.
-/
namespace ScriptBuild

namespace FileSystem

variable {files : FileSystem} {place : Place} {path : Path}

/-- Whether a path leads to a place. -/
def leadsTo (files : FileSystem) (place : Place) (path : Path) : Bool :=
  decide (files.resolve path = .ok place)

theorem leadsTo_iff : files.leadsTo place path = true ↔ files.resolve path = .ok place := by
  simp [leadsTo]

theorem eq_path_of_canonical (canonical : files.canonical path = .ok path)
    (leads : files.leadsTo place path = true) : path = place.path := by
  obtain ⟨spot, hpath, hspot⟩ := exists_place_of_canonical canonical
  obtain rfl : spot = place := Except.ok.inj (hspot.symm.trans (leadsTo_iff.mp leads))
  exact hpath

/-- Of paths that are all different, and canonical where they lead to a place, at most one leads
there. -/
theorem countP_leadsTo_le_one {paths : List Path} (distinct : paths.Nodup)
    (canonical : ∀ path ∈ paths, files.leadsTo place path = true →
      files.canonical path = .ok path) : paths.countP (files.leadsTo place) ≤ 1 := by
  have hcount : paths.countP (files.leadsTo place) ≤ paths.count place.path :=
    List.countP_mono_left fun path hmem hleads => by
      simpa using eq_path_of_canonical (canonical path hmem hleads) hleads
  exact Nat.le_trans hcount (List.nodup_iff_count_le_one.mp distinct _)

end FileSystem

namespace Resolver

/-- A walk between two turns. -/
structure Walking where
  found : Resolution
  stack : List Frame
  /-- The files opened so far, in the order opened. -/
  opened : List Path

/-- What a turn comes to. -/
inductive Turn
  | goesOn (next : Walking)
  | ends (result : Except Failure Resolution)

/-- Reads the innermost file on to its next directive and follows that, or leaves the file. -/
def turn (resolver : Resolver) (files : FileSystem) (walking : Walking) : Turn :=
  match walking.stack with
  | [] => .ends (.ok walking.found)
  | frame :: outer =>
    match frame.scan.next files with
    | (none, _) => .goesOn { walking with stack := outer }
    | (some (.error error), after) =>
      .ends (.error (unwind ({ frame with scan := after } :: outer) (.directive error)))
    | (some (.ok (line, directive)), after) =>
      match resolver.apply files walking.found frame.file line directive with
      | .error failure => .ends (.error (unwind ({ frame with scan := after } :: outer) failure))
      | .ok ⟨found, none⟩ =>
        .goesOn { walking with found := found, stack := { frame with scan := after } :: outer }
      | .ok ⟨found, some inner⟩ =>
        .goesOn ⟨found, inner :: { frame with scan := after } :: outer,
          walking.opened ++ [inner.file]⟩

/-- The walk before its first turn: only the script is open. -/
def outset (resolver : Resolver) (files : FileSystem) (script : Path) : Except Failure Walking :=
  match Source.canonical files script with
  | .error failure => .error failure
  | .ok root =>
    match resolver.openFile files root 0 with
    | .error failure => .error failure
    | .ok frame => .ok ⟨.empty, [frame], [root]⟩

/-- One turn leads from a walk to the next. -/
def GoesOn (resolver : Resolver) (files : FileSystem) (walking next : Walking) : Prop :=
  resolver.turn files walking = .goesOn next

def Runs (resolver : Resolver) (files : FileSystem) : Walking → Walking → Prop :=
  Relation.ReflTransGen (resolver.GoesOn files)

variable {resolver : Resolver} {files : FileSystem} {walking next start last : Walking}
  {root script : Path}

/-! ## The loop is its turns -/

/-- A walk is its turns, one after another. -/
theorem walk_eq_turn (resolver : Resolver) (files : FileSystem) (walking : Walking) :
    resolver.walk files walking.found walking.stack =
      match resolver.turn files walking with
      | .goesOn next => resolver.walk files next.found next.stack
      | .ends result => result := by
  obtain ⟨found, stack, opened⟩ := walking
  cases stack with
  | nil => simp [turn, walk]
  | cons frame outer =>
    cases hnext : frame.scan.next files with
    | mk item after =>
      cases item with
      | none => simp [turn, hnext, walk_of_next_none hnext]
      | some item =>
        cases item with
        | error error => simp [turn, hnext, walk_of_next_error hnext]
        | ok item =>
          obtain ⟨line, directive⟩ := item
          cases happly : resolver.apply files found frame.file line directive with
          | error failure => simp [turn, hnext, happly, walk_of_apply_error hnext happly]
          | ok applied =>
            obtain ⟨more, inner⟩ := applied
            cases inner with
            | none => simp [turn, hnext, happly, walk_of_apply_none hnext happly]
            | some inner => simp [turn, hnext, happly, walk_of_apply_some hnext happly]

theorem resolve_eq_walk_outset (resolver : Resolver) (files : FileSystem) (script : Path) :
    resolver.resolve files script =
      match resolver.outset files script with
      | .error failure => .error failure
      | .ok start => resolver.walk files start.found start.stack := by
  unfold resolve outset
  cases Source.canonical files script with
  | error failure => rfl
  | ok root => cases hopen : resolver.openFile files root 0 <;> simp [hopen]

/-- What one turn does to a walk that goes on: it leaves a file, or follows a directive, which may
open a file. -/
theorem goesOn_cases (h : resolver.GoesOn files walking next) :
    ∃ frame outer, walking.stack = frame :: outer ∧
      ((frame.scan.next files).1 = none ∧ next = { walking with stack := outer } ∨
      ∃ line directive after found opened,
        frame.scan.next files = (some (.ok (line, directive)), after) ∧
        resolver.apply files walking.found frame.file line directive = .ok ⟨found, opened⟩ ∧
        next = ⟨found, opened.toList ++ { frame with scan := after } :: outer,
          walking.opened ++ (opened.map Frame.file).toList⟩) := by
  obtain ⟨known, stack, before⟩ := walking
  unfold GoesOn turn at h
  cases stack with
  | nil => cases h
  | cons frame outer =>
    refine ⟨frame, outer, rfl, ?_⟩
    cases hnext : frame.scan.next files with
    | mk item after =>
      cases item with
      | none =>
        simp only [hnext] at h
        cases h
        exact .inl ⟨rfl, rfl⟩
      | some item =>
        cases item with
        | error error =>
          simp only [hnext] at h
          cases h
        | ok item =>
          obtain ⟨line, directive⟩ := item
          cases happly : resolver.apply files known frame.file line directive with
          | error failure =>
            simp only [hnext, happly] at h
            cases h
          | ok applied =>
            obtain ⟨found, opened⟩ := applied
            refine .inr ⟨line, directive, after, found, opened, rfl, happly, ?_⟩
            cases opened with
            | none =>
              simp only [hnext, happly] at h
              cases h
              simp
            | some inner =>
              simp only [hnext, happly] at h
              cases h
              simp

/-- A directive that is followed brings in what it stands for, if that is new, and opens what is
brought in exactly if that is a source file. -/
theorem apply_cases {found more : Resolution} {file : Path} {line : Nat} {directive : Directive}
    {opened : Option Frame}
    (h : resolver.apply files found file line directive = .ok ⟨more, opened⟩) :
    (opened = none ∧ (more = found ∨ ∃ dependency, Brings resolver files directive dependency ∧
      (dependency.source?.isSome → dependency.key ∈ found.keys) ∧
      more = found.insert dependency)) ∨
    ∃ target header, directive = .includes target ∧
      Brings resolver files directive (.file target) ∧ found.insert? (.file target) = some more ∧
      Source.header files target = .ok header ∧
      opened = some ⟨HeaderScan.start target header resolver.reference, line⟩ := by
  cases directive with
  | mode name =>
    cases h
    exact .inl ⟨rfl, .inl rfl⟩
  | reference name =>
    cases h
    exact .inl ⟨rfl, .inr ⟨_, .library name, by simp [Dependency.source?], rfl⟩⟩
  | includes target =>
    simp only [apply] at h
    split at h
    · cases h
    · rename_i kind
      cases h
      exact .inl ⟨rfl, .inr ⟨_, .binary kind, by simp [Dependency.source?], rfl⟩⟩
    · rename_i kind
      unfold includeSource at h
      split at h
      · cases h
      · rename_i mode declared
        split at h
        · cases h
        · rename_i whole
          obtain rfl : mode = .complex := by simpa using whole
          split at h
          · rename_i present
            cases h
            exact .inl ⟨rfl, .inl rfl⟩
          · rename_i grown added
            unfold openFile at h
            cases read : Source.header files target with
            | error cause => simp [read] at h
            | ok header =>
              obtain ⟨rfl, rfl⟩ :
                  grown = more ∧ some ⟨HeaderScan.start target header resolver.reference, line⟩ =
                    opened := by
                simpa [read] using h
              exact .inr ⟨target, header, rfl, .source kind declared, added, read, rfl⟩
    · cases h

/-! ## Every walk ends -/

/-- Each turn uses up room, or header lines on the stack. -/
theorem goesOn_descends (h : resolver.GoesOn files walking next) :
    Prod.Lex (· < ·) (· < ·) (next.found.room, workLeft next.stack)
      (walking.found.room, workLeft walking.stack) := by
  obtain ⟨frame, outer, hstack, ⟨-, rfl⟩ |
    ⟨line, directive, after, found, opened, hnext, happly, rfl⟩⟩ := goesOn_cases h
  · refine .right _ ?_
    simp only [hstack, workLeft]
    omega
  · cases opened with
    | none =>
      refine lex_of_le_of_lt (room_le_of_apply happly) ?_
      have := HeaderScan.next_shortens hnext
      simp only [hstack, Option.toList_none, List.nil_append, workLeft]
      omega
    | some inner => exact .left _ _ (room_lt_of_apply happly rfl)

/-- No walk goes on for ever. -/
theorem wellFounded_goesOn (resolver : Resolver) (files : FileSystem) :
    WellFounded fun next walking => resolver.GoesOn files walking next :=
  Subrelation.wf goesOn_descends
    (InvImage.wf (fun walking : Walking => (walking.found.room, workLeft walking.stack))
      (Prod.lex Nat.lt_wfRel Nat.lt_wfRel).wf)

/-- Every walk runs to a last turn, which gives its result. -/
theorem exists_last (resolver : Resolver) (files : FileSystem) (start : Walking) :
    ∃ last, resolver.Runs files start last ∧
      resolver.turn files last = .ends (resolver.walk files start.found start.stack) := by
  induction start using (wellFounded_goesOn resolver files).induction with
  | _ start ih =>
    have hwalk := walk_eq_turn resolver files start
    cases hturn : resolver.turn files start with
    | goesOn next =>
      obtain ⟨last, hrun, hlast⟩ := ih next hturn
      simp only [hturn] at hwalk
      exact ⟨last, .head hturn hrun, hwalk ▸ hlast⟩
    | ends result =>
      simp only [hturn] at hwalk
      exact ⟨start, .refl, hwalk ▸ hturn⟩

theorem found_of_ends {found : Resolution} (h : resolver.turn files walking = .ends (.ok found)) :
    walking.found = found := by
  unfold turn at h
  split at h
  · cases h
    rfl
  · split at h
    · cases h
    · cases h
    · split at h <;> cases h

/-! ## What is opened is what is recorded -/

theorem Reaches.mono {found more : Resolution} {file : Path}
    (h : Reaches resolver files found root file) (hsub : found.deps ⊆ more.deps) :
    Reaches resolver files more root file := by
  induction h with
  | root => exact .root
  | included reached gives kept ih => exact .included ih gives (hsub kept)

theorem Justified.mono {found more : Resolution} {dependency : Dependency}
    (h : Justified resolver files found root dependency) (hsub : found.deps ⊆ more.deps) :
    Justified resolver files more root dependency := by
  obtain ⟨file, line, directive, reached, gives, brings⟩ := h
  exact ⟨file, line, directive, reached.mono hsub, gives, brings⟩

/-- What every walk keeps to that begins at `root`. -/
structure Orderly (resolver : Resolver) (files : FileSystem) (root : Path) (walking : Walking) :
    Prop where
  opened : walking.opened = root :: walking.found.sources
  justified : ∀ dependency ∈ walking.found.deps,
    Justified resolver files walking.found root dependency
  stacked : ∀ frame ∈ walking.stack, Reaches resolver files walking.found root frame.file ∧
    Reads resolver files frame.scan

/-- One turn keeps a walk orderly. -/
theorem Orderly.goesOn (h : Orderly resolver files root walking)
    (hturn : resolver.GoesOn files walking next) : Orderly resolver files root next := by
  obtain ⟨frame, outer, hstack, ⟨-, rfl⟩ |
    ⟨line, directive, after, found, opened, hnext, happly, rfl⟩⟩ := goesOn_cases hturn
  · refine ⟨h.opened, h.justified, fun other hmem => h.stacked other ?_⟩
    exact hstack ▸ List.mem_cons_of_mem _ hmem
  · obtain ⟨hreached, hreads⟩ := h.stacked frame (hstack ▸ List.mem_cons_self)
    obtain ⟨hgives, hafter⟩ := hreads.next hnext
    have hfile : after.file = frame.file := HeaderScan.next_file hnext
    -- The frames that were there stay orderly in whatever more has been found.
    have hkept : walking.found.deps ⊆ found.deps → ∀ other ∈ { frame with scan := after } :: outer,
        Reaches resolver files found root other.file ∧ Reads resolver files other.scan := by
      intro hsub other hmem
      rcases List.mem_cons.mp hmem with rfl | hmem
      · refine ⟨?_, hafter⟩
        rw [Frame.file, hfile]
        exact hreached.mono hsub
      · obtain ⟨reached, reads⟩ := h.stacked other (hstack ▸ List.mem_cons_of_mem _ hmem)
        exact ⟨reached.mono hsub, reads⟩
    rcases apply_cases happly with ⟨rfl, rfl | ⟨dependency, brings, old, rfl⟩⟩ |
      ⟨target, header, rfl, brings, added, read, rfl⟩
    · exact ⟨by simpa using h.opened, h.justified, by simpa using hkept (List.Subset.refl _)⟩
    · have hsub : walking.found.deps ⊆ (walking.found.insert dependency).deps :=
        (Resolution.prefix_insert _ _).subset
      refine ⟨by simpa [Resolution.sources_insert old] using h.opened, fun other hmem => ?_,
        by simpa using hkept hsub⟩
      rcases Resolution.mem_deps_insert hmem with hmem | rfl
      · exact (h.justified other hmem).mono hsub
      · exact ⟨_, _, _, hreached.mono hsub, hgives, brings⟩
    · have hdeps := Resolution.deps_of_insert? added
      have hsub : walking.found.deps ⊆ found.deps := (Resolution.prefix_of_insert? added).subset
      have hmem : .file target ∈ found.deps := by simp [hdeps]
      refine ⟨?_, fun other hother => ?_, fun other hother => ?_⟩
      · simp [h.opened, Resolution.sources, hdeps, Dependency.source?, Frame.file,
          HeaderScan.start]
      · rw [hdeps, List.mem_append, List.mem_singleton] at hother
        rcases hother with hother | rfl
        · exact (h.justified other hother).mono hsub
        · exact ⟨_, _, _, hreached.mono hsub, hgives, brings⟩
      · rw [Option.toList_some, List.singleton_append] at hother
        rcases List.mem_cons.mp hother with rfl | hother
        · exact ⟨.included (hreached.mono hsub) hgives hmem, .start read⟩
        · exact hkept hsub other hother

theorem Orderly.run (h : Orderly resolver files root start)
    (hrun : resolver.Runs files start last) : Orderly resolver files root last := by
  induction hrun with
  | refl => exact h
  | tail _ hturn ih => exact ih.goesOn hturn

theorem orderly_outset (h : resolver.outset files script = .ok start) :
    ∃ root, Source.canonical files script = .ok root ∧ Orderly resolver files root start := by
  unfold outset openFile at h
  cases located : Source.canonical files script with
  | error failure => simp [located] at h
  | ok root =>
    cases read : Source.header files root with
    | error failure => simp [located, read] at h
    | ok header =>
      obtain rfl : (⟨.empty, [⟨HeaderScan.start root header resolver.reference, 0⟩], [root]⟩ :
          Walking) = start := by
        simpa [located, read] using h
      exact ⟨root, rfl, rfl, by simp [Resolution.empty], by simpa using ⟨.root, .start read⟩⟩

/-- Between any two turns of an orderly walk no file has been opened twice, and the script twice at
most, unless under a path that is not canonical because what is written was refused. -/
theorem Orderly.countP_le (h : Orderly resolver files root walking) (place : Place) :
    walking.opened.countP (files.leadsTo place) ≤ (if files.leadsTo place root then 2 else 1) ∨
    ∃ path ∈ walking.found.sources, files.leadsTo place path = true ∧
      files.canonical path ≠ .ok path ∧ Refused resolver files walking.found root path := by
  by_cases hcanonical : ∀ path ∈ walking.found.sources, files.leadsTo place path = true →
      files.canonical path = .ok path
  · have hle := FileSystem.countP_leadsTo_le_one walking.found.nodup_sources hcanonical
    left
    rw [h.opened, List.countP_cons]
    split <;> omega
  · right
    push Not at hcanonical
    obtain ⟨path, hmem, hleads, hother⟩ := hcanonical
    refine ⟨path, hmem, hleads, hother, ?_⟩
    have hsound := sound_of_justified h.justified
    exact (hsound.canonical _ (Resolution.mem_sources.mp hmem) path rfl).resolve_left hother

/-- A walk that has begun runs to the turn that gives the resolution. -/
theorem runs_of_outset (h : resolver.outset files script = .ok start) :
    ∃ root last, Source.canonical files script = .ok root ∧ Orderly resolver files root start ∧
      resolver.Runs files start last ∧
      resolver.turn files last = .ends (resolver.resolve files script) := by
  obtain ⟨root, located, horderly⟩ := orderly_outset h
  obtain ⟨last, hrun, hlast⟩ := exists_last resolver files start
  have hresolve := resolve_eq_walk_outset resolver files script
  simp only [h] at hresolve
  exact ⟨root, last, located, horderly, hrun, hresolve ▸ hlast⟩

/-- Every resolution ends: before its first turn, or with its last. A successful one has opened one
file more than it has source files. At no time has a file been opened twice under one path, nor
twice at all, the script excepted, which may be opened twice; what is opened more often than that
is opened under a path that is not canonical, because what an include writes was refused. -/
theorem resolve_opens (resolver : Resolver) (files : FileSystem) (script : Path) :
    (∃ failure, resolver.outset files script = .error failure ∧
      resolver.resolve files script = .error failure) ∨
    ∃ root start last, Source.canonical files script = .ok root ∧
      resolver.outset files script = .ok start ∧ resolver.Runs files start last ∧
      resolver.turn files last = .ends (resolver.resolve files script) ∧
      (∀ found, resolver.resolve files script = .ok found →
        last.opened.length = 1 + found.sources.length) ∧
      ∀ walking, resolver.Runs files start walking →
        walking.opened = root :: walking.found.sources ∧ walking.found.sources.Nodup ∧
        ∀ place, walking.opened.countP (files.leadsTo place) ≤
            (if files.leadsTo place root then 2 else 1) ∨
          ∃ path ∈ walking.found.sources, files.leadsTo place path = true ∧
            files.canonical path ≠ .ok path ∧ Refused resolver files walking.found root path := by
  cases hbegin : resolver.outset files script with
  | error failure =>
    have hresolve := resolve_eq_walk_outset resolver files script
    simp only [hbegin] at hresolve
    exact .inl ⟨failure, rfl, hresolve⟩
  | ok start =>
    obtain ⟨root, last, located, horderly, hrun, hlast⟩ := runs_of_outset hbegin
    refine .inr ⟨root, start, last, located, rfl, hrun, hlast, fun found hfound => ?_,
      fun walking hwalking => ?_⟩
    · have hopened := (horderly.run hrun).opened
      rw [found_of_ends (hfound ▸ hlast)] at hopened
      rw [hopened, List.length_cons, Nat.add_comm]
    · have hwalking := horderly.run hwalking
      exact ⟨hwalking.opened, walking.found.nodup_sources, hwalking.countP_le⟩

/-- Under a refused path a file can be opened that is opened once more under its own. -/
theorem resolve_opens_twice :
    ∃ start last, sourceOnly.outset includesTwice ⟨"/main"⟩ = .ok start ∧
      sourceOnly.Runs includesTwice start last ∧
      sourceOnly.turn includesTwice last = .ends (.ok foundTwice) ∧
      last.opened = [⟨"/main"⟩, ⟨"/link"⟩, ⟨"/unit"⟩] ∧
      includesTwice.leadsTo ["unit"] ⟨"/main"⟩ = false ∧
      last.opened.countP (includesTwice.leadsTo ["unit"]) = 2 := by
  cases hbegin : sourceOnly.outset includesTwice ⟨"/main"⟩ with
  | error failure =>
    have hresolve := resolve_eq_walk_outset sourceOnly includesTwice ⟨"/main"⟩
    simp [hbegin, resolve_includesTwice] at hresolve
  | ok start =>
    obtain ⟨root, last, located, horderly, hrun, hlast⟩ := runs_of_outset hbegin
    rw [resolve_includesTwice] at hlast
    obtain rfl : ⟨"/main"⟩ = root := Except.ok.inj (canonical_main.symm.trans located)
    have hopened : last.opened = [⟨"/main"⟩, ⟨"/link"⟩, ⟨"/unit"⟩] := by
      rw [(horderly.run hrun).opened, found_of_ends hlast]
      rfl
    have hmain : includesTwice.leadsTo ["unit"] ⟨"/main"⟩ = false := by
      simp [FileSystem.leadsTo, includesTwice, resolve_main]
    refine ⟨start, last, rfl, hrun, hlast, hopened, hmain, ?_⟩
    have hlink : includesTwice.leadsTo ["unit"] ⟨"/link"⟩ = true :=
      FileSystem.leadsTo_iff.mpr (resolve_unit (.inl rfl))
    have hunit : includesTwice.leadsTo ["unit"] ⟨"/unit"⟩ = true :=
      FileSystem.leadsTo_iff.mpr (resolve_unit (.inr rfl))
    simp [hopened, hmain, hlink, hunit]

end Resolver

end ScriptBuild
