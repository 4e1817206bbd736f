/-!
# Arguments

Arguments are options and operands.  An option has a long name and perhaps a short one; it may take
a value, which is joined to it (`--list=x`, `-lx`, `-l=x`) or follows as the next argument.  An
argument that begins with a hyphen is never an operand and never the next value, except the hyphen
alone, and what comes after `--` is always an operand.  No option may be given twice.
-/

namespace TrackerGuard.Command

/-- An option that is known. -/
structure OptionSpec where
  long : String
  short : Option Char := none
  takesValue : Bool := true
  deriving Repr

/-- Why arguments lead to no command. -/
inductive Refusal where
  /-- They ask for help. -/
  | help
  /-- They are not understood. -/
  | misused
  deriving DecidableEq, Repr

/-- Options with their values, and operands. -/
structure Arguments where
  /-- The options by their long names; those that take none have an empty value. -/
  options : List (String × String) := []
  operands : List String := []
  deriving Repr

namespace Arguments

/-- Adds an option that has not been given yet. -/
def addOption (a : Arguments) (name value : String) : Except Refusal Arguments :=
  if (a.options.lookup name).isSome then .error .misused
  else .ok { a with options := a.options ++ [(name, value)] }

/-- Adds operands. -/
def addOperands (a : Arguments) (operands : List String) : Arguments :=
  { a with operands := a.operands ++ operands }

/-- The value of an option. -/
def value? (a : Arguments) (name : String) : Option String := a.options.lookup name

/-- Whether an option has been given. -/
def has (a : Arguments) (name : String) : Bool := (a.value? name).isSome

end Arguments

/-- What an argument is. -/
inductive Argument where
  | operand
  /-- The sign that only operands follow. -/
  | divider
  /-- An option, with the value that is joined to it. -/
  | option (spec : OptionSpec) (value : Option String)
  /-- The request for help. -/
  | help
  | unknown
  deriving Repr

/-- Cuts a text at its first equals sign. -/
def splitValue (cs : List Char) : String × Option String :=
  match cs.span (· != '=') with
  | (name, _ :: value) => (String.ofList name, some (String.ofList value))
  | (name, []) => (String.ofList name, none)

/-- What an argument is, given the options that are known. -/
def classify (specs : List OptionSpec) (argument : String) : Argument :=
  match argument.toList with
  | ['-', '-'] => .divider
  | '-' :: '-' :: cs =>
    let (name, value) := splitValue cs
    match specs.find? (·.long == name) with
    | some spec => .option spec value
    | none => if name = "help" ∧ value = none then .help else .unknown
  | '-' :: c :: cs =>
    match specs.find? (·.short == some c) with
    | some spec =>
      let joined := match cs with
        | [] => none
        | '=' :: cs => some cs
        | cs => some cs
      .option spec (joined.map String.ofList)
    | none => if c = 'h' then .help else .unknown
  | _ => .operand

/-- Whether an argument can be the value of the option before it. -/
def isValue (argument : String) : Bool :=
  match argument.toList with
  | '-' :: _ :: _ => false
  | _ => true

/-- Reads arguments.  With `stops` set, reading ends at the first operand, which is left with what
follows it. -/
def readArguments (specs : List OptionSpec) (stops : Bool) (a : Arguments) :
    List String → Except Refusal (Arguments × List String)
  | [] => .ok (a, [])
  | argument :: rest =>
    match classify specs argument with
    | .operand =>
      if stops then .ok (a, argument :: rest)
      else readArguments specs stops (a.addOperands [argument]) rest
    | .divider => .ok (a.addOperands rest, [])
    | .help => .error .help
    | .unknown => .error .misused
    | .option spec value =>
      match spec.takesValue, value with
      | false, none => do readArguments specs stops (← a.addOption spec.long "") rest
      | false, some _ => .error .misused
      | true, some value => do readArguments specs stops (← a.addOption spec.long value) rest
      | true, none =>
        match rest with
        | [] => .error .misused
        | value :: rest =>
          if isValue value then do readArguments specs stops (← a.addOption spec.long value) rest
          else .error .misused

end TrackerGuard.Command
