import TrackerGuard.Command.Arguments
import TrackerGuard.Settings.Flag

/-!
# Invocations

What the arguments of the program ask for.  Each command has options of its own; the options
`--store` and `--psl` go with every command and may stand before or after its name.  An option that
is not given may have its value from the environment, and failing that a default.  A path is never
empty.
-/

namespace TrackerGuard.Command

/-- Values that the environment gives to options. -/
structure Environment where
  store : Option String := none
  psl : Option String := none
  list : Option String := none
  artifact : Option String := none
  deriving Repr

/-- What to do with a flag. -/
inductive FlagChange where
  | set (enabled : Bool)
  | toggle
  | reset
  deriving DecidableEq, Repr

/-- What the program is asked to do. -/
inductive Task where
  /-- Compile the tracker list into an artifact. -/
  | compile (list output : String) (strict : Bool)
  /-- Describe an artifact. -/
  | info (input : String)
  /-- Decide requests of a page. -/
  | check (list page : String) (json : Bool) (requests : List String)
  | allow (host : String)
  | disallow (host : String)
  /-- List the sites on which trackers are allowed. -/
  | safelist
  /-- Show a flag, or all flags, after changing it. -/
  | flag (name : Option String) (change : Option FlagChange)
  deriving Repr

/-- A task with what goes with every task. -/
structure Invocation where
  /-- The path of the settings. -/
  store : String
  /-- The path of a list of public suffixes. -/
  psl : Option String
  task : Task
  deriving Repr

/-! ## Options -/

/-- The options that go with every command. -/
def sharedOptions : List OptionSpec := [{ long := "store" }, { long := "psl" }]

/-- The names of the commands with their options. -/
def commands : List (String × List OptionSpec) :=
  [("compile", [{ long := "list", short := some 'l' }, { long := "output", short := some 'o' },
      { long := "strict", takesValue := false }]),
   ("info", [{ long := "input", short := some 'i' }]),
   ("check", [{ long := "list", short := some 'l' }, { long := "page", short := some 'p' },
      { long := "json", takesValue := false }]),
   ("allow", []), ("disallow", []), ("safelist", []),
   ("flag", [{ long := "set" }, { long := "toggle", takesValue := false },
      { long := "reset", takesValue := false }])]

/-- Where the settings are unless something else is said. -/
def defaultStore : String := "tp-settings.json"

/-- Where the artifact is unless something else is said. -/
def defaultArtifact : String := "contentBlockerList.json"

/-- A path: any text but the empty one. -/
def path (text : String) : Except Refusal String :=
  if text = "" then .error .misused else .ok text

/-- The path that an option or the environment gives. -/
def pathOf? (a : Arguments) (name : String) (environment : Option String) :
    Except Refusal (Option String) :=
  match (a.value? name).or environment with
  | some text => (path text).map some
  | none => .ok none

/-- The path of an option that goes with every command: one given after the name of the command
comes first, then one given before it, then that of the environment. -/
def sharedPath? (before after : Arguments) (name : String) (environment : Option String) :
    Except Refusal (Option String) := do
  let first ← pathOf? after name environment
  let second ← pathOf? before name environment
  pure (if after.has name then first else if before.has name then second else first)

/-- A value that must be there. -/
def required {α : Type} (x : Option α) : Except Refusal α :=
  match x with
  | some x => .ok x
  | none => .error .misused

/-! ## Tasks -/

/-- The only operand. -/
def soleOperand (a : Arguments) : Except Refusal String :=
  match a.operands with
  | [x] => .ok x
  | _ => .error .misused

/-- No operand, or one. -/
def operand? (a : Arguments) : Except Refusal (Option String) :=
  match a.operands with
  | [] => .ok none
  | [x] => .ok (some x)
  | _ => .error .misused

/-- That there are no operands. -/
def noOperands (a : Arguments) : Except Refusal Unit :=
  if a.operands.isEmpty then .ok () else .error .misused

/-- A truth value. -/
def truthValue (text : String) : Except Refusal Bool :=
  match text with
  | "true" => .ok true
  | "false" => .ok false
  | _ => .error .misused

/-- The change that options ask for, of which only one may be given. -/
def flagChange? (a : Arguments) : Except Refusal (Option FlagChange) :=
  match a.value? "set", a.has "toggle", a.has "reset" with
  | some text, false, false => (truthValue text).map fun enabled => some (.set enabled)
  | none, true, false => .ok (some .toggle)
  | none, false, true => .ok (some .reset)
  | none, false, false => .ok none
  | _, _, _ => .error .misused

/-- The task of a command. -/
def taskOf (env : Environment) (name : String) (a : Arguments) : Except Refusal Task :=
  match name with
  | "compile" => do
    noOperands a
    let list ← required (← pathOf? a "list" env.list)
    let output ← pathOf? a "output" env.artifact
    pure (.compile list (output.getD defaultArtifact) (a.has "strict"))
  | "info" => do
    noOperands a
    let input ← pathOf? a "input" env.artifact
    pure (.info (input.getD defaultArtifact))
  | "check" => do
    let list ← required (← pathOf? a "list" env.list)
    let page ← required (a.value? "page")
    if a.operands.isEmpty then .error .misused
    else pure (.check list page (a.has "json") a.operands)
  | "allow" => return .allow (← soleOperand a)
  | "disallow" => return .disallow (← soleOperand a)
  | "safelist" => do
    noOperands a
    pure .safelist
  | "flag" => do
    let flag ← operand? a
    pure (.flag flag (← flagChange? a))
  | _ => .error .misused

/-- What becomes of a request for help with the command of a name, or with none. -/
def refusalOfHelp (names : List String) : Refusal :=
  match names with
  | [] | ["help"] => .help
  | [name] => if (commands.lookup name).isSome then .help else .misused
  | _ => .misused

/-- What arguments ask for. -/
def Invocation.ofArguments (env : Environment) (arguments : List String) :
    Except Refusal Invocation := do
  let (before, rest) ← readArguments sharedOptions true {} arguments
  match rest with
  | [] => .error .misused
  | "help" :: names => .error (refusalOfHelp names)
  | name :: rest =>
    let options ← required (commands.lookup name)
    let (after, _) ← readArguments (options ++ sharedOptions) false {} rest
    let store ← sharedPath? before after "store" env.store
    let psl ← sharedPath? before after "psl" env.psl
    pure ⟨store.getD defaultStore, psl, ← taskOf env name after⟩

end TrackerGuard.Command
