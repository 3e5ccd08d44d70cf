import ScriptBuild.Proofs.FileSystem.Root
import ScriptBuild.Proofs.FileSystem.Walk
import ScriptBuild.Proofs.FileSystem.Writing
import ScriptBuild.Proofs.Module.Record
import ScriptBuild.Proofs.Text.Encoding
import ScriptBuild.Toolchain.ModuleHost

/-!
# How an invocation is settled

A host that has been started leaves two things: its status, and a result file. Where the file holds
a text that is not blank, that alone tells how the method ended, and the host is broken if it tells
nothing. Only without such a text does the status count: a host that failed went down with the
script, and one that succeeded is broken.

`Leaves` is what a call of the host leaves, whoever the host is: a status and the text of the result
file, empty if it cannot be read as text. The host may write that file or not, remove it, or change
others. Cases without a host come first: the result file cannot be made, or the host cannot be
started; both are errors of the tool and no result.

The status plays no part where there is a record. A host that reports a return and then fails has
returned. A text that is blank counts as none, so a host that made the file and wrote nothing is one
that told nothing.

**Results.**
* `outcome_of_leaves`: how a call ended, from what its host left.
* `leaves_of_ok`: a call that ended in any way but an error has a host that left something.
* `settled_by_result`: what settles a call.
-/
namespace ScriptBuild.ModuleHost

open Text.Utf8 (Bytes)
open ScriptBuild.Module (Spells)

/-- The text of what was found in a result file. What cannot be read, or is not UTF-8, counts as
empty. -/
def textOf : Except IoError Bytes → String
  | .ok content => (Text.Utf8.decode? content).getD ""
  | .error _ => ""

theorem textOf_encode (text : String) : textOf (.ok (Text.Utf8.encode text)) = text := by
  simp [textOf, Text.Utf8.decode?_encode]

theorem resultText_eq (files : FileSystem) (result : Path) :
    resultText files result = textOf (files.read result) := by
  unfold resultText FileSystem.readText
  cases files.read result with
  | error cause => rfl
  | ok content =>
    simp only [textOf]
    cases Text.Utf8.decode? content <;> rfl

/-- A call of a host: all that starting a method depends on. -/
structure Call where
  launcher : Launcher
  program : Program
  temporary : Place
  lots : List Lot
  module : Path
  typeName : String
  method : String
  args : Option (List String)
  files : FileSystem

namespace Call

variable {call : Call} {found : Except IoError Bytes} {content : Bytes} {status : ExitStatus}
  {invocation : Invocation}

def outcome (call : Call) : Except ToolError Invocation :=
  (invoke call.launcher call.program call.temporary call.lots call.module call.typeName call.method
    call.args call.files).outcome

def hostArgs (call : Call) (result : Path) : List Bytes :=
  invokeArgs call.program call.module call.typeName call.method result call.args

/-- The host was started and ended with this status, and this was found in the result file. -/
def Leaves (call : Call) (found : Except IoError Bytes) (status : ExitStatus) : Prop :=
  ∃ result given output after,
    (call.files.createTemporary call.temporary "scs-result-" ".json" call.lots).1 =
      .ok (result, given) ∧
    call.launcher.run call.program.name (call.hostArgs result) given = (.ok output, after) ∧
    output.status = status ∧ after.read result = found

/-- The host did not do as hosts do. -/
def IsBroken (call : Call) : Prop :=
  ∃ message, call.outcome = .error (.protocol call.program.name message)

theorem outcome_of_leaves (h : call.Leaves found status) :
    call.outcome =
      (Module.settle (textOf found) status).mapError (.protocol call.program.name) := by
  obtain ⟨result, given, output, after, hcreate, hrun, rfl, rfl⟩ := h
  rw [hostArgs] at hrun
  simp only [outcome, invoke, hcreate, hrun, resultText_eq]

/-- A call does not end well unless its host was started and left something. -/
theorem leaves_of_ok (h : call.outcome = .ok invocation) :
    ∃ found status, call.Leaves found status := by
  unfold outcome invoke at h
  split at h
  · cases h
  · rename_i result given hcreate
    split at h
    · cases h
    · rename_i output after hrun
      exact ⟨_, _, result, given, output, after, hcreate, hrun, rfl, rfl⟩

/-! ## Blank and other results -/

theorem outcome_of_blank_failure (h : call.Leaves found status)
    (blank : Text.allBlank (textOf found) = true) (failed : status.isSuccess = false) :
    call.outcome =
      .ok (.faulted ("script host terminated abnormally (" ++ status.message ++ ")")) := by
  rw [outcome_of_leaves h]
  simp [Module.settle, blank, failed, Except.mapError]

theorem isBroken_of_blank_success (h : call.Leaves found status)
    (blank : Text.allBlank (textOf found) = true) (succeeded : status.isSuccess = true) :
    call.IsBroken := by
  rw [IsBroken, outcome_of_leaves h]
  simp [Module.settle, blank, succeeded, Except.mapError]

theorem outcome_eq_ok_iff (h : call.Leaves found status)
    (solid : Text.allBlank (textOf found) = false) :
    call.outcome = .ok invocation ↔ Spells (textOf found) invocation := by
  rw [outcome_of_leaves h, ← Module.readResult?_eq_some_iff, Module.settle, solid]
  cases Module.readResult? (textOf found) <;> simp [Except.mapError]

theorem isBroken_iff (h : call.Leaves found status)
    (solid : Text.allBlank (textOf found) = false) :
    call.IsBroken ↔ ∀ invocation, ¬Spells (textOf found) invocation := by
  simp only [IsBroken, outcome_of_leaves h, ← Module.readResult?_eq_some_iff, Module.settle, solid]
  cases Module.readResult? (textOf found) <;> simp [Except.mapError]

theorem spells_of_returned {code : Option Int32} (h : call.outcome = .ok (.returned code)) :
    ∃ found status, call.Leaves found status ∧ Spells (textOf found) (.returned code) := by
  obtain ⟨found, status, hleaves⟩ := leaves_of_ok h
  refine ⟨found, status, hleaves, ?_⟩
  cases hblank : Text.allBlank (textOf found) with
  | false => exact (outcome_eq_ok_iff hleaves hblank).mp h
  | true =>
    cases hstatus : status.isSuccess with
    | false =>
      rw [outcome_of_blank_failure hleaves hblank hstatus] at h
      cases h
    | true =>
      obtain ⟨message, hbroken⟩ := isBroken_of_blank_success hleaves hblank hstatus
      rw [hbroken] at h
      cases h

/-- A call is settled by the text its host leaves, and by the host's status only where that text is
blank. A text that is not blank tells how the method ended, or that the host is broken, and it tells
the same with any status. Nothing is returned unless a text says so. -/
theorem settled_by_result (call : Call) :
    (∀ found status, call.Leaves found status →
      (Text.allBlank (textOf found) = true → status.isSuccess = false →
        call.outcome =
          .ok (.faulted ("script host terminated abnormally (" ++ status.message ++ ")"))) ∧
      (Text.allBlank (textOf found) = true → status.isSuccess = true → call.IsBroken) ∧
      (Text.allBlank (textOf found) = false →
        (∀ invocation, call.outcome = .ok invocation ↔ Spells (textOf found) invocation) ∧
        (call.IsBroken ↔ ∀ invocation, ¬Spells (textOf found) invocation)) ∧
      ∀ other found' status', Leaves other found' status' → textOf found' = textOf found →
        Text.allBlank (textOf found) = false →
        (∀ invocation, other.outcome = .ok invocation ↔ call.outcome = .ok invocation) ∧
          (other.IsBroken ↔ call.IsBroken)) ∧
    ∀ code, call.outcome = .ok (.returned code) →
      ∃ found status, call.Leaves found status ∧ Spells (textOf found) (.returned code) := by
  refine ⟨fun found status h => ⟨outcome_of_blank_failure h,
    isBroken_of_blank_success h, fun hsolid => ⟨fun invocation => outcome_eq_ok_iff h hsolid,
      isBroken_iff h hsolid⟩, fun other found' status' h' htext hsolid => ?_⟩,
    fun code => spells_of_returned⟩
  have hsolid' : Text.allBlank (textOf found') = false := htext ▸ hsolid
  refine ⟨fun invocation => ?_, ?_⟩
  · rw [outcome_eq_ok_iff h' hsolid', outcome_eq_ok_iff h hsolid, htext]
  · rw [isBroken_iff h' hsolid', isBroken_iff h hsolid, htext]

/-! ## A host that leaves a text -/

def resultName : Bytes := "scs-result-AAAAAA.json"

def firstResult : Path := ⟨"/scs-result-AAAAAA.json"⟩

theorem leaves_of_writes (root : call.temporary = []) (drawn : call.lots = [FileSystem.firstLot])
    (free : call.files.node? [resultName] = none)
    (writes : ∀ given, call.launcher.run call.program.name (call.hostArgs firstResult) given =
      (.ok ⟨status, {}⟩, (given.write firstResult content).toOption.getD given)) :
    call.Leaves (.ok content) status := by
  have hname : FileSystem.temporaryName "scs-result-" ".json" FileSystem.firstLot = resultName := by
    decide
  have hroot : FileSystem.RootName resultName := by decide
  let made := call.files.set [resultName] (.file [])
  let left := made.set [resultName] (.file content)
  have hcreate : call.files.createTemporary call.temporary "scs-result-" ".json" call.lots =
      (.ok (firstResult, made), []) := by
    rw [root, drawn]
    exact FileSystem.RootName.createTemporary (hname ▸ hroot) (hname ▸ free) []
  have hmade : made.node? [resultName] = some (.file []) := FileSystem.node?_set_self (by simp) _
  have hleft : left.node? [resultName] = some (.file content) :=
    FileSystem.node?_set_self (by simp) _
  have hwrite : made.write firstResult content = .ok left := hroot.write (.inr ⟨[], hmade⟩)
  have hread : left.read firstResult = .ok content :=
    FileSystem.read_iff.mpr ⟨_, FileSystem.resolve_path_of_spelled (hroot.spelled hleft), hleft⟩
  exact ⟨firstResult, made, ⟨status, {}⟩, left, congrArg Prod.fst hcreate,
    by rw [writes, hwrite]; rfl, rfl, hread⟩

/-- A host that leaves these octets and ends with this status. -/
def leaving (content : Bytes) (status : ExitStatus) : Launcher where
  start _ args files :=
    match args with
    | [_, _, _, _, _, result, _] =>
      (.ok ⟨status, {}⟩, (files.write ⟨result⟩ content).toOption.getD files)
    | _ => (.error .missing, files)

def callLeaving (content : Bytes) (status : ExitStatus) : Call :=
  ⟨leaving content status, ⟨"scs-host", []⟩, [], [FileSystem.firstLot], ⟨"/main"⟩, "P", "Main",
    none, ⟨[], []⟩⟩

theorem leaves_callLeaving (content : Bytes) (status : ExitStatus) :
    (callLeaving content status).Leaves (.ok content) status := by
  refine leaves_of_writes rfl rfl rfl fun given => ?_
  let given' : List Bytes := ["invoke", "/main", "P", "Main", "--result", firstResult.octets,
    "--no-args"]
  have hzero : ¬(Text.Utf8.encode "scs-host" :: given').any (·.contains 0) = true := by decide
  change (leaving content status).run "scs-host" given' given = _
  rw [Launcher.run, if_neg hzero]
  rfl

def returned7 : String := "\x7b\"status\":\"returned\",\"value\":7\x7d"

/-- A host that is killed after it has left its record has returned, and one that leaves an octet
that is no text has gone down with the script. -/
theorem settled_by_result_killed :
    (callLeaving (Text.Utf8.encode returned7) (.signal 9 false)).Leaves
      (.ok (Text.Utf8.encode returned7)) (.signal 9 false) ∧
    Text.allBlank (textOf (.ok (Text.Utf8.encode returned7))) = false ∧
    (callLeaving (Text.Utf8.encode returned7) (.signal 9 false)).outcome = .ok (.returned (some 7)) ∧
    (callLeaving (Text.Utf8.encode returned7) (.code 0)).outcome = .ok (.returned (some 7)) ∧
    (callLeaving [0xFF] (.signal 9 false)).Leaves (.ok [0xFF]) (.signal 9 false) ∧
    Text.allBlank (textOf (.ok [0xFF])) = true ∧ (ExitStatus.signal 9 false).isSuccess = false ∧
    (callLeaving [0xFF] (.signal 9 false)).outcome =
      .ok (.faulted "script host terminated abnormally (signal: 9 (SIGKILL))") := by
  have hkilled := leaves_callLeaving (Text.Utf8.encode returned7) (.signal 9 false)
  have hended := leaves_callLeaving (Text.Utf8.encode returned7) (.code 0)
  have hbroken := leaves_callLeaving [0xFF] (.signal 9 false)
  have hsolid : Text.allBlank (textOf (.ok (Text.Utf8.encode returned7))) = false := by
    rw [textOf_encode]
    decide
  have hspells : Spells (textOf (.ok (Text.Utf8.encode returned7))) (.returned (some 7)) := by
    rw [textOf_encode, ← Module.readResult?_eq_some_iff]
    decide +kernel
  have hblank : Text.allBlank (textOf (.ok [0xFF])) = true := by decide
  obtain ⟨-, -, hreturned, hother⟩ := (settled_by_result _).1 _ _ hkilled
  obtain ⟨hfaulted, -⟩ := (settled_by_result _).1 _ _ hbroken
  have houtcome := ((hreturned hsolid).1 _).mpr hspells
  exact ⟨hkilled, hsolid, houtcome, ((hother _ _ _ hended rfl hsolid).1 _).mpr houtcome, hbroken,
    hblank, rfl, hfaulted hblank rfl⟩

end Call

end ScriptBuild.ModuleHost
