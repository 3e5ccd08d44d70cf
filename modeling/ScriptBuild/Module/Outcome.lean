import ScriptBuild.Json.Value
import ScriptBuild.Text.Blank
import ScriptBuild.Toolchain

/-!
# Results of starting a method

A module host leaves a result as a JSON record with the field `status`: `returned`, with an
optional integer `value`, or `faulted`, with the text of an `exception`. Written as an array, the
status comes first. All of the record has to be sound, fields that mean nothing included.

The host's own exit status counts only when there is no result: then a failure is blamed on the
script and a success on the host. A result that is there but cannot be read is blamed on the host
whatever the status; the reason given for it stands for the reader's own words, which are not
modelled, while the status is quoted as it is.

A result is looked for in three steps, each a function of its own: the text is read as a value, the
value as a record, and the record as the end of a method. A value that is no integer of 32 bits, a
field that is there twice, or a status other than the two is no result.
-/
namespace ScriptBuild.Module

open Json (Value)

/-- How deep a result may nest. -/
def resultDepth : Nat := 127

/-- A status word, and the rest of the record. -/
def tagged? : Value → Option (String × Value)
  | .object members =>
    match members.filter (·.1 == some "status") with
    | [(_, .string (some status))] =>
      some (status, .object (members.filter (·.1 != some "status")))
    | _ => none
  | .array (.string (some status) :: rest) => some (status, .array rest)
  | _ => none

def int32? : Value → Option Int32
  | .number numeral => do
    let value ← numeral.integer?
    if -0x80000000 ≤ value ∧ value < 0x80000000 then some (Int32.ofInt value) else none
  | _ => none

def returned? : Value → Option (Option Int32)
  | .null => some none
  | value => (int32? value).map some

def result? (value : Value) : Option Invocation := do
  if !value.isSound resultDepth then none
  else
    let (status, record) ← tagged? value
    if status = "returned" then
      match ← record.fields? ["value"] with
      | [none] => some (.returned none)
      | [some value] => (returned? value).map .returned
      | _ => none
    else if status = "faulted" then
      match ← record.fields? ["exception"] with
      | [some message] => message.text?.map .faulted
      | _ => none
    else none

def readResult? (text : String) : Option Invocation := (Value.ofText? text).bind result?

/-- How a method ended, from the result its host left and the host's own exit status. -/
def settle (text : String) (status : ExitStatus) : Except String Invocation :=
  let exited := " (host exited with " ++ status.message ++ ")"
  if Text.allBlank text then
    if status.isSuccess then .error ("no invocation result" ++ exited)
    else .ok (.faulted ("script host terminated abnormally (" ++ status.message ++ ")"))
  else match readResult? text with
    | some invocation => .ok invocation
    | none => .error ("invalid invocation result: not a result record" ++ exited)

end ScriptBuild.Module
