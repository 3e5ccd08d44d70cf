import Mathlib
import ScriptBuild.Failure

/-!
# Three ways down a chain of failures

A directive fails because another one did, that one because of a third, and so on, down to one that
failed on its own or because of something else than a directive. A loop can go down and keep all
that it meets, a recursion can go down and keep only the last, and one can ask each failure in turn
what is behind it. The three pass the same directives in the same order. Asking goes on below the
last of them, to what made it fail and to what is behind that.

The loop is a recursion on what is still below, with a list of what has been met; the two recursions
are on the depth of nesting, and on size. They are compared along the data: either a directive's
failure has another one behind it, which is smaller, or it has not, and each function has one
equation for each case. What the loop has met so far is a prefix of what it gives, so its list can
be split off.

Failures that only pass on what another type of error says are transparent: asking them for what is
behind gives what is behind that error, and the error is not met twice.

**Results.**
* `chain_of_inner?`, `chain_of_inner?_eq_none`: what the loop gives, one directive at a time.
* `isChain_chain`, `length_chain`, `getLast?_chain`, `root_chain`: what the loop meets, and where it
  ends.
* `sources_eq_chain`, `sources_of_not_directive`: what asking gives.
* `chain_failure`, `innermost?_failure`, `causes_eq`: chain, innermost directive and causes of a
  failure are what the three ways give.
* `ways_agree`: the three ways agree.
-/
namespace ScriptBuild

/-- A directive's failure: the faulty directive, and what it failed because of. -/
structure DirectiveFailure where
  error : DirectiveError
  cause : Option Failure
deriving DecidableEq, Repr, Inhabited

def DirectiveFailure.failure : DirectiveFailure → Failure
  | ⟨error, none⟩ => .directive error
  | ⟨error, some cause⟩ => .causedBy error cause

namespace Failure

variable {failure : Failure} {outer : DirectiveFailure}

/-- Which directive's failure it is, if it is one. -/
def ofDirective? : Failure → Option DirectiveFailure
  | .directive error => some ⟨error, none⟩
  | .causedBy error cause => some ⟨error, some cause⟩
  | _ => none

/-- How many directives failed, each because of the next. -/
def depth : Failure → Nat
  | .directive _ => 1
  | .causedBy _ cause => cause.depth + 1
  | _ => 0

theorem ofDirective?_eq_some_iff :
    failure.ofDirective? = some outer ↔ failure = outer.failure := by
  constructor
  · intro h
    cases failure with
    | directive error | causedBy error cause =>
      obtain rfl := Option.some.inj h
      rfl
    | _ => cases h
  · rintro rfl
    obtain ⟨error, cause⟩ := outer
    cases cause <;> rfl

theorem ofDirective?_eq_none_iff : failure.ofDirective? = none ↔ failure.isDirective = false := by
  cases failure <;> simp [ofDirective?, isDirective]

theorem depth_of_not_directive (h : failure.isDirective = false) : failure.depth = 0 := by
  cases failure with
  | directive error | causedBy error cause => cases h
  | _ => rfl

end Failure

namespace DirectiveFailure

variable {outer inner : DirectiveFailure}

/-- The failure of another directive, if that is the cause. -/
def inner? (outer : DirectiveFailure) : Option DirectiveFailure :=
  outer.cause.bind Failure.ofDirective?

theorem message_failure (outer : DirectiveFailure) :
    outer.failure.message = outer.error.message := by
  obtain ⟨error, cause⟩ := outer
  cases cause <;> rfl

theorem inner?_eq_some_iff : outer.inner? = some inner ↔ outer.cause = some inner.failure := by
  simp [inner?, Option.bind_eq_some_iff, Failure.ofDirective?_eq_some_iff]

theorem inner?_eq_none_iff :
    outer.inner? = none ↔ ∀ cause, outer.cause = some cause → cause.isDirective = false := by
  simp [inner?, Option.bind_eq_none_iff, Failure.ofDirective?_eq_none_iff]

theorem depth_of_inner? (h : outer.inner? = some inner) :
    outer.failure.depth = inner.failure.depth + 1 := by
  obtain ⟨error, cause⟩ := outer
  obtain rfl : cause = some inner.failure := inner?_eq_some_iff.mp h
  rfl

theorem depth_of_inner?_eq_none (h : outer.inner? = none) : outer.failure.depth = 1 := by
  obtain ⟨error, cause⟩ := outer
  cases cause with
  | none => rfl
  | some cause =>
    have hplain : cause.isDirective = false := inner?_eq_none_iff.mp h cause rfl
    rw [failure, Failure.depth, Failure.depth_of_not_directive hplain]

/-! ## The recursion and the loop -/

/-- The last directive's failure on the way down: the one that no other directive caused. -/
def innermost (outer : DirectiveFailure) : DirectiveFailure :=
  match _h : outer.inner? with
  | some inner => inner.innermost
  | none => outer
termination_by outer.failure.depth
decreasing_by
  have := depth_of_inner? _h
  omega

/-- Goes on down from a directive's failure, with what has been met so far. -/
def descend (current : DirectiveFailure) (met : List DirectiveFailure) :
    List DirectiveFailure × Option Failure :=
  match _h : current.inner? with
  | some inner => inner.descend (met ++ [inner])
  | none => (met, current.cause)
termination_by current.failure.depth
decreasing_by
  have := depth_of_inner? _h
  omega

/-- What is met on the way down, from the outermost on, and what is at the end of it. -/
def chain (outer : DirectiveFailure) : List DirectiveFailure × Option Failure :=
  outer.descend [outer]

theorem descend_of_inner? (h : outer.inner? = some inner) (met : List DirectiveFailure) :
    outer.descend met = inner.descend (met ++ [inner]) := by
  rw [descend]
  split <;> simp_all

theorem descend_of_inner?_eq_none (h : outer.inner? = none) (met : List DirectiveFailure) :
    outer.descend met = (met, outer.cause) := by
  rw [descend]
  split <;> simp_all

theorem descend_append (current : DirectiveFailure) (before met : List DirectiveFailure) :
    current.descend (before ++ met) =
      (before ++ (current.descend met).1, (current.descend met).2) := by
  fun_induction descend current met with
  | case1 current met inner h ih => rw [descend_of_inner? h, List.append_assoc, ih]
  | case2 current met h => rw [descend_of_inner?_eq_none h]

theorem chain_of_inner? (h : outer.inner? = some inner) :
    outer.chain = (outer :: inner.chain.1, inner.chain.2) := by
  rw [chain, descend_of_inner? h, descend_append]
  rfl

theorem chain_of_inner?_eq_none (h : outer.inner? = none) : outer.chain = ([outer], outer.cause) :=
  descend_of_inner?_eq_none h _

theorem chain_eq_cons (outer : DirectiveFailure) :
    outer.chain.1 = outer :: outer.chain.1.tail := by
  cases h : outer.inner? with
  | none => rw [chain_of_inner?_eq_none h, List.tail_cons]
  | some inner => rw [chain_of_inner? h, List.tail_cons]

theorem isChain_chain (outer : DirectiveFailure) :
    outer.chain.1.IsChain fun one next => one.cause = some next.failure := by
  fun_induction innermost outer with
  | case1 outer inner h ih =>
    rw [chain_of_inner? h, chain_eq_cons inner]
    rw [chain_eq_cons inner] at ih
    exact ih.cons_cons (inner?_eq_some_iff.mp h)
  | case2 outer h =>
    rw [chain_of_inner?_eq_none h]
    exact .singleton _

theorem length_chain (outer : DirectiveFailure) :
    outer.chain.1.length = outer.failure.depth := by
  fun_induction innermost outer with
  | case1 outer inner h ih => rw [chain_of_inner? h, List.length_cons, ih, depth_of_inner? h]
  | case2 outer h =>
    rw [chain_of_inner?_eq_none h, List.length_singleton, depth_of_inner?_eq_none h]

theorem getLast?_chain (outer : DirectiveFailure) :
    outer.chain.1.getLast? = some outer.innermost := by
  fun_induction innermost outer with
  | case1 outer inner h ih => rw [chain_of_inner? h, List.getLast?_cons, ih, Option.getD_some]
  | case2 outer h => rw [chain_of_inner?_eq_none h, List.getLast?_singleton]

theorem root_chain (outer : DirectiveFailure) : outer.chain.2 = outer.innermost.cause := by
  fun_induction innermost outer with
  | case1 outer inner h ih => rw [chain_of_inner? h, ih]
  | case2 outer h => rw [chain_of_inner?_eq_none h]

/-- The chain of a failure is what the loop meets. -/
theorem chain_failure (outer : DirectiveFailure) :
    outer.failure.chain = (outer.chain.1.map (·.error), outer.chain.2) := by
  fun_induction innermost outer with
  | case1 outer inner h ih =>
    obtain ⟨error, cause⟩ := outer
    obtain rfl : cause = some inner.failure := inner?_eq_some_iff.mp h
    rw [chain_of_inner? h, failure, Failure.chain_causedBy, ih, List.map_cons]
  | case2 outer h =>
    obtain ⟨error, cause⟩ := outer
    rw [chain_of_inner?_eq_none h]
    cases cause with
    | none => rfl
    | some cause =>
      have hplain : cause.isDirective = false := inner?_eq_none_iff.mp h cause rfl
      rw [failure, Failure.chain_causedBy, Failure.chain_of_not_directive hplain]
      rfl

theorem isDirective_root {root : Failure} (h : outer.chain.2 = some root) :
    root.isDirective = false := by
  have hroot : outer.failure.chain.2 = some root := by rw [chain_failure, h]
  exact Failure.chain_root_not_directive hroot

theorem innermost?_failure (outer : DirectiveFailure) :
    outer.failure.innermost? = some outer.innermost.error := by
  rw [Failure.innermost?, chain_failure, List.getLast?_map, getLast?_chain]
  rfl

end DirectiveFailure

/-! ## Asking for what is behind -/

/-- What can be behind a failure: another failure, or a refusal of the operating system. -/
inductive Reason
  | failed (failure : Failure)
  | refused (refusal : IoError)
deriving DecidableEq, Repr, Inhabited

/-- Behind a directive's failure is its cause. -/
def DirectiveFailure.source? (outer : DirectiveFailure) : Option Reason :=
  outer.cause.map .failed

/-- Behind a tool's failure is the refusal to launch it. -/
def ToolError.source? : ToolError → Option Reason
  | .launch _ refusal => some (.refused refusal)
  | _ => none

/-- What is directly behind a failure. A failure that is a directive's or a tool's has behind it
what the directive's or the tool's has: it does not stand behind itself. -/
def Failure.source? : Failure → Option Reason
  | .io _ refusal => some (.refused refusal)
  | .directive error => DirectiveFailure.source? ⟨error, none⟩
  | .causedBy error cause => DirectiveFailure.source? ⟨error, some cause⟩
  | .tool error => error.source?
  | _ => none

namespace Reason

variable {reason next : Reason}

def message : Reason → String
  | .failed failure => failure.message
  | .refused refusal => refusal.message

def source? : Reason → Option Reason
  | .failed failure => failure.source?
  | .refused _ => none

theorem sizeOf_of_source? (h : reason.source? = some next) : sizeOf next < sizeOf reason := by
  cases reason with
  | refused refusal => cases h
  | failed failure =>
    cases failure with
    | io path refusal =>
      obtain rfl : refused refusal = next := Option.some.inj h
      simp only [failed.sizeOf_spec, refused.sizeOf_spec, Failure.io.sizeOf_spec]
      omega
    | causedBy error cause =>
      obtain rfl : failed cause = next := Option.some.inj h
      simp only [failed.sizeOf_spec, Failure.causedBy.sizeOf_spec]
      omega
    | tool error =>
      cases error with
      | launch program refusal =>
        obtain rfl : refused refusal = next := Option.some.inj h
        simp only [failed.sizeOf_spec, refused.sizeOf_spec, Failure.tool.sizeOf_spec,
          ToolError.launch.sizeOf_spec]
        omega
      | _ => cases h
    | _ => cases h

def sources (reason : Reason) : List Reason :=
  match _h : reason.source? with
  | some next => next :: next.sources
  | none => []
termination_by sizeOf reason
decreasing_by exact sizeOf_of_source? _h

theorem sources_of_source? (h : reason.source? = some next) :
    reason.sources = next :: next.sources := by
  rw [sources]
  split <;> simp_all

theorem sources_of_source?_eq_none (h : reason.source? = none) : reason.sources = [] := by
  rw [sources]
  split <;> simp_all

end Reason

/-- Behind a failure that is no directive's there is at most a refusal. -/
theorem Failure.sources_of_not_directive {failure : Failure} (h : failure.isDirective = false) :
    (Reason.failed failure).sources = failure.source?.toList := by
  change _ = (Reason.failed failure).source?.toList
  cases behind : (Reason.failed failure).source? with
  | none => exact Reason.sources_of_source?_eq_none behind
  | some reason =>
    have hlast : reason.source? = none := by
      cases failure with
      | directive error | causedBy error cause => cases h
      | io path refusal =>
        cases behind
        rfl
      | tool error =>
        cases error with
        | launch program refusal =>
          cases behind
          rfl
        | _ => cases behind
      | _ => cases behind
    rw [Reason.sources_of_source? behind, Reason.sources_of_source?_eq_none hlast]
    rfl

/-- The causes of a failure are the wordings of all that is behind it. -/
theorem Failure.causes_eq (failure : Failure) :
    failure.causes = (Reason.failed failure).sources.map Reason.message := by
  induction failure with
  | causedBy error cause ih =>
    rw [Reason.sources_of_source? rfl, List.map_cons, ← ih]
    rfl
  | directive error =>
    rw [Reason.sources_of_source?_eq_none rfl]
    rfl
  | tool error =>
    rw [sources_of_not_directive rfl]
    cases error <;> rfl
  | _ =>
    rw [sources_of_not_directive rfl]
    rfl

namespace DirectiveFailure

theorem sources_failure (outer : DirectiveFailure) :
    (Reason.failed outer.failure).sources =
      outer.cause.elim [] fun cause => .failed cause :: (Reason.failed cause).sources := by
  obtain ⟨error, cause⟩ := outer
  cases cause with
  | none => exact Reason.sources_of_source?_eq_none rfl
  | some cause => exact Reason.sources_of_source? rfl

/-- Asking passes what the loop meets, but for the first, and goes on with the root. -/
theorem sources_eq_chain (outer : DirectiveFailure) :
    (Reason.failed outer.failure).sources =
      outer.chain.1.tail.map (fun inner => .failed inner.failure) ++
        outer.chain.2.elim [] fun root => .failed root :: (Reason.failed root).sources := by
  fun_induction innermost outer with
  | case1 outer inner h ih =>
    rw [sources_failure, inner?_eq_some_iff.mp h, Option.elim_some, ih, chain_of_inner? h,
      List.tail_cons, chain_eq_cons inner]
    rfl
  | case2 outer h =>
    rw [sources_failure, chain_of_inner?_eq_none h]
    rfl

/-- The three ways down from a directive's failure agree with each other, and with what is known of
the failure. -/
structure WaysAgree (outer : DirectiveFailure) : Prop where
  /-- The loop meets the failure itself first. -/
  first : outer.chain.1.head? = some outer
  /-- Behind each one it meets the one that this failed because of. -/
  onward : outer.chain.1.IsChain fun one next => one.cause = some next.failure
  count : outer.chain.1.length = outer.failure.depth
  /-- The last that it meets is the one that the recursion finds. -/
  last : outer.chain.1.getLast? = some outer.innermost
  /-- At the end is what that one failed because of. -/
  root : outer.chain.2 = outer.innermost.cause
  plain : ∀ cause, outer.chain.2 = some cause → cause.isDirective = false
  /-- Asking passes the same ones but for the first, then the root, then all that is behind it. -/
  asked : (Reason.failed outer.failure).sources =
    outer.chain.1.tail.map (fun inner => .failed inner.failure) ++
      outer.chain.2.elim [] fun root => .failed root :: (Reason.failed root).sources
  /-- Behind the root is at most one thing. -/
  own : ∀ root, outer.chain.2 = some root →
    (Reason.failed root).sources = root.source?.toList
  /-- The same in words. -/
  told : (Reason.failed outer.failure).sources.map Reason.message =
    outer.chain.1.tail.map (·.error.message) ++
      outer.chain.2.elim [] fun root =>
        root.message :: (Reason.failed root).sources.map Reason.message
  /-- The failure's chain is the loop's, its innermost directive the recursion's, and its causes are
  what asking gives. -/
  known : outer.failure.chain = (outer.chain.1.map (·.error), outer.chain.2) ∧
    outer.failure.innermost? = some outer.innermost.error ∧
    outer.failure.causes = (Reason.failed outer.failure).sources.map Reason.message

theorem ways_agree (outer : DirectiveFailure) : WaysAgree outer where
  first := by rw [chain_eq_cons, List.head?_cons]
  onward := outer.isChain_chain
  last := outer.getLast?_chain
  count := outer.length_chain
  root := outer.root_chain
  plain _ h := isDirective_root h
  asked := outer.sources_eq_chain
  own _ h := Failure.sources_of_not_directive (isDirective_root h)
  told := by
    rw [sources_eq_chain, List.map_append, List.map_map]
    congr 1
    · exact List.map_congr_left fun inner _ => inner.message_failure
    · cases outer.chain.2 <;> rfl
  known := ⟨outer.chain_failure, outer.innermost?_failure, outer.failure.causes_eq⟩

/-- An include fails because of another, and that one because a file cannot be read. -/
example :
    (Failure.causedBy ⟨⟨"/main"⟩, 1, .includeFailed⟩
      (.causedBy ⟨⟨"/lib"⟩, 2, .includeFailed⟩ (.io ⟨"/deep"⟩ .nameTooLong))).causes =
      ["/lib(2): error processing //#include statement",
        "I/O error on '/deep': File name too long (os error 36)",
        "File name too long (os error 36)"] := by
  decide

end DirectiveFailure

end ScriptBuild
