import ScriptBuild.Path

/-!
# Command lines

The command's arguments are read from left to right. Options of the command itself may also stand
behind the name of an action, where they take precedence. Behind the script of a run, an argument
that is not an option of the command is the first of the script's own, and so is everything behind
that one; two dashes end the options wherever they stand.

An option is given by a long name with its value behind an equals sign or in the next argument, or
by a letter, several of which may stand behind one dash. Each option is taken once on a level, and
no value is empty. Asking for help or for the version ends the reading where it stands, before
anything behind it can be at fault.

What is read is a `Line`, or a reason to stop. Only the outcome of a misuse is modelled and not its
explanation, and the arguments are texts: one that is not UTF-8 is outside of what is said here.

Two levels know different options. In front of an action's name stand the options of the command;
behind it those of the action and, again, those of the command. An option given on both levels
counts as given behind the name. The reading of one level is a pass over its arguments with the
options given so far in hand, and with the option that still waits for its value.
-/
namespace ScriptBuild.Command

inductive Action
  | run (script : Path) (args : List String)
  | compile (script : Path) (output : Option Path)
  | deps (script : Path)
deriving DecidableEq, Repr, Inhabited

structure Line where
  config : Option Path
  debug : Bool
  verbose : Bool
  action : Action
deriving DecidableEq, Repr, Inhabited

/-- Why there is nothing to do. -/
inductive Stop
  | help
  | version
  | misuse
deriving DecidableEq, Repr, Inhabited

/-- Where on the line an argument stands: in front of the action's name, or behind it. -/
inductive Level
  | top
  | run
  | compile
  | deps
deriving DecidableEq, Repr, Inhabited

inductive Setting
  | config
  | output
deriving DecidableEq, Repr, Inhabited

inductive Switch
  | debug
  | verbose
  | help
  | version
deriving DecidableEq, Repr, Inhabited

def longOption? (level : Level) (name : String) : Option (Setting ⊕ Switch) :=
  match name with
  | "config" => some (.inl .config)
  | "output" => if level = .compile then some (.inl .output) else none
  | "debug" => some (.inr .debug)
  | "verbose" => some (.inr .verbose)
  | "help" => some (.inr .help)
  | "version" => if level = .top then some (.inr .version) else none
  | _ => none

def shortOption? (level : Level) (letter : Char) : Option (Setting ⊕ Switch) :=
  match letter with
  | 'o' => if level = .compile then some (.inl .output) else none
  | 'v' => some (.inr .verbose)
  | 'h' => some (.inr .help)
  | 'V' => if level = .top then some (.inr .version) else none
  | _ => none

/-- What is given at one level. -/
structure Given where
  config : Option String := none
  output : Option String := none
  debug : Bool := false
  verbose : Bool := false
  script : Option String := none
  args : List String := []
deriving DecidableEq, Repr, Inhabited

namespace Given

/-- Takes the value of an option: only once, and not an empty one. -/
def store (given : Given) (setting : Setting) (value : String) : Except Stop Given :=
  if value.isEmpty then .error .misuse
  else match setting with
    | .config =>
      if given.config.isSome then .error .misuse else .ok { given with config := some value }
    | .output =>
      if given.output.isSome then .error .misuse else .ok { given with output := some value }

/-- Takes a switch: only once. Help and version end the reading. -/
def turn (given : Given) : Switch → Except Stop Given
  | .debug => if given.debug then .error .misuse else .ok { given with debug := true }
  | .verbose => if given.verbose then .error .misuse else .ok { given with verbose := true }
  | .help => .error .help
  | .version => .error .version

/-- Takes operands behind which no option can follow. -/
def operands (level : Level) (given : Given) : List String → Except Stop Given
  | [] => .ok given
  | first :: rest =>
    match level, given.script with
    | .top, _ => .error .misuse
    | .run, some _ => .ok { given with args := first :: rest }
    | _, some _ => .error .misuse
    | _, none =>
      if first.isEmpty then .error .misuse
      else
        let given := { given with script := some first }
        match level, rest with
        | _, [] => .ok given
        | .run, rest => .ok { given with args := rest }
        | _, _ => .error .misuse

/-- Takes a cluster of letters: switches, and at the end possibly an option, whose value is the
rest of the cluster or, if that is empty, the next argument. -/
def cluster (level : Level) (given : Given) : List Char → Except Stop (Given × Option Setting)
  | [] => .ok (given, none)
  | letter :: rest =>
    match shortOption? level letter with
    | none => .error .misuse
    | some (.inr switch) => do cluster level (← given.turn switch) rest
    | some (.inl setting) =>
      match rest with
      | [] => .ok (given, some setting)
      | '=' :: value | value => do return (← given.store setting (String.ofList value), none)

end Given

/-- An argument by its form. -/
inductive Shape
  | dashes
  | long (name : String) (value : Option String)
  | short (letters : List Char)
  | operand
deriving DecidableEq, Repr, Inhabited

def shape (arg : String) : Shape :=
  match arg.toList with
  | ['-', '-'] => .dashes
  | '-' :: '-' :: rest =>
    let name := String.ofList (rest.takeWhile (· != '='))
    match rest.dropWhile (· != '=') with
    | [] => .long name none
    | _ :: value => .long name (some (String.ofList value))
  | '-' :: letter :: rest => .short (letter :: rest)
  | _ => .operand

/-- Whether an argument that looks like an unknown option is passed on to the script. -/
def passesOn (level : Level) (given : Given) : Bool := level == .run && given.script.isSome

/-- The level that an action's name leads to. -/
def level? : String → Option Level
  | "run" => some .run
  | "compile" => some .compile
  | "deps" => some .deps
  | _ => none

/-- What asking for help about topics comes to. -/
def helpOn : List String → Stop
  | [] => .help
  | [topic] => if (level? topic).isSome || topic == "help" then .help else .misuse
  | _ => .misuse

/-- What a level is left with: what was given, and what follows an action's name. -/
abbrev Reading := Except Stop (Given × Option (Level × List String))

/-- Reads the arguments of a level. An option that still lacks its value is `pending`. -/
def read (level : Level) (given : Given) (pending : Option Setting) : List String → Reading
  | [] => if pending.isSome then .error .misuse else .ok (given, none)
  | arg :: rest =>
    let operand : Unit → Reading := fun _ =>
      match pending with
      | some setting => do read level (← given.store setting arg) none rest
      | none =>
        if passesOn level given then .ok ({ given with args := arg :: rest }, none)
        else do read level (← given.operands level [arg]) none rest
    if level = .top ∧ pending = none ∧ arg = "help" then .error (helpOn rest)
    else if level = .top ∧ pending = none ∧ (level? arg).isSome then
      .ok (given, (level? arg).map (·, rest))
    else match shape arg with
      | .operand => operand ()
      | .dashes =>
        if pending.isSome then .error .misuse else do return (← given.operands level rest, none)
      | .long name value =>
        match longOption? level name with
        | none =>
          if passesOn level given then operand () else .error .misuse
        | some option =>
          if pending.isSome then .error .misuse
          else match option, value with
            | .inl setting, none => read level given (some setting) rest
            | .inl setting, some value => do read level (← given.store setting value) none rest
            | .inr switch, none => do read level (← given.turn switch) none rest
            | .inr _, some _ => .error .misuse
      | .short letters =>
        if passesOn level given ∧ letters.any (fun c => (shortOption? level c).isNone) then
          operand ()
        else if pending.isSome then .error .misuse
        else do
          let (given, pending) ← given.cluster level letters
          read level given pending rest

/-- The action of a level. A script is required. -/
def action? (level : Level) (given : Given) : Option Action :=
  match level, given.script with
  | .run, some script => some (.run (.ofText script) given.args)
  | .compile, some script => some (.compile (.ofText script) (given.output.map Path.ofText))
  | .deps, some script => some (.deps (.ofText script))
  | _, _ => none

def Line.read (args : List String) : Except Stop Line := do
  let (outer, next) ← Command.read .top {} none args
  match next with
  | none => .error .misuse
  | some (level, rest) =>
    let (inner, _) ← Command.read level {} none rest
    match action? level inner with
    | none => .error .misuse
    | some action =>
      return {
        config := (inner.config.or outer.config).map Path.ofText
        debug := outer.debug || inner.debug
        verbose := outer.verbose || inner.verbose
        action := action }

end ScriptBuild.Command
