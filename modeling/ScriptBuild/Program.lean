import ScriptBuild.FileSystem

/-!
# Programs

A program is started with arguments, may change the file system, and ends with a status after
writing to its two output streams. A `Launcher` is the world's side of this: it starts programs by
name, and fails if it cannot. Nothing else is known of a program, so what is said of programs holds
whatever they write, print and return.

Arguments are octets, because a path may be one of them. A zero ends a string on its way to the
system, so no name and no argument with a zero in it is passed on at all: the caller is refused
before anything is started.

A status is the code a program ended with or the signal that ended it, and then perhaps the dump of
its memory. Its wording is part of messages, so the names of the signals are here as well; what is
left out is a program that is only stopped, which nobody waits for.

Two things are not told apart. A program that could not be started has printed nothing and left the
files as it is said to, and why it could not is a refusal of the operating system like any other.
And a program's output is there as a whole when it has ended, so what it printed before it failed is
there as well.
-/
namespace ScriptBuild

open Text.Utf8 (Bytes)

inductive ExitStatus
  | code (value : Nat)
  /-- A signal ended it, and its memory was dumped or not. -/
  | signal (number : Nat) (dumped : Bool)
deriving DecidableEq, Repr, Inhabited

namespace ExitStatus

def isSuccess (status : ExitStatus) : Bool := status == .code 0

/-- The names of the signals, from number 1 on. -/
def signalNames : List String :=
  ["SIGHUP", "SIGINT", "SIGQUIT", "SIGILL", "SIGTRAP", "SIGABRT", "SIGBUS", "SIGFPE", "SIGKILL",
    "SIGUSR1", "SIGSEGV", "SIGUSR2", "SIGPIPE", "SIGALRM", "SIGTERM", "SIGSTKFLT", "SIGCHLD",
    "SIGCONT", "SIGSTOP", "SIGTSTP", "SIGTTIN", "SIGTTOU", "SIGURG", "SIGXCPU", "SIGXFSZ",
    "SIGVTALRM", "SIGPROF", "SIGWINCH", "SIGIO", "SIGPWR", "SIGSYS"]

/-- The name of a signal in parentheses, empty if it has none. -/
def signalName : Nat → String
  | 0 => ""
  | index + 1 => match signalNames[index]? with
    | some name => " (" ++ name ++ ")"
    | none => ""

def message : ExitStatus → String
  | .code value => "exit status: " ++ toString value
  | .signal number dumped =>
    "signal: " ++ toString number ++ signalName number ++ if dumped then " (core dumped)" else ""

end ExitStatus

structure Console where
  out : Bytes := []
  err : Bytes := []
deriving DecidableEq, Repr, Inhabited

/-- What was written to each stream, and then more. -/
def Console.append (first second : Console) : Console :=
  ⟨first.out ++ second.out, first.err ++ second.err⟩

instance : Append Console := ⟨Console.append⟩

/-- What a program that has ended leaves behind, besides files. -/
structure ProgramOutput where
  status : ExitStatus
  console : Console := {}
deriving DecidableEq, Repr, Inhabited

/-- Starts programs: name and arguments in, output and files out. -/
structure Launcher where
  start : String → List Bytes → FileSystem → Except IoError ProgramOutput × FileSystem

/-- Runs a program to its end. A zero can be in neither its name nor its arguments. -/
def Launcher.run (launcher : Launcher) (program : String) (args : List Bytes)
    (files : FileSystem) : Except IoError ProgramOutput × FileSystem :=
  if (Text.Utf8.encode program :: args).any (·.contains 0) then (.error .zeroInArgument, files)
  else launcher.start program args files

/-- A program to start and the arguments it always gets first. -/
structure Program where
  name : String
  args : List String := []
deriving DecidableEq, Repr, Inhabited

/-- The arguments that are always given first, as they are passed on. -/
def Program.firstArgs (program : Program) : List Bytes := program.args.map Text.Utf8.encode

end ScriptBuild
