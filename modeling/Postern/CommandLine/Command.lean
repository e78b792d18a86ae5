import Postern.CommandLine.Arguments

/-!
The commands of the tool.  `Invocation.read` makes one of arguments; what can be given for all commands may stand
before and after the command's name, and the later place counts.  Where no command can be run there is something to
be said.
-/

namespace Postern.CommandLine

/-! ### Commands -/

inductive Command where
  | listAccounts
  | createAccount (id : String)
  | destroyAccount (id : String)
  | apiKey (role : String)
  | getSecret (resource : String) (version : Option Nat)
  | setSecret (resource value : String)
  | loadPolicy (resource file : String)
  | purge
  deriving DecidableEq, Repr

/-- How results are printed. -/
inductive Format where
  | text | json
  deriving DecidableEq, Repr

/-- A command, where to send it, and how to print its result. -/
structure Invocation where
  server : String
  format : Format
  command : Command
  deriving DecidableEq, Repr

/-! ### Shapes -/

def commonSwitches : List Switch :=
  [⟨"url", none, .value .text⟩, ⟨"text", none, .set⟩, ⟨"json", none, .set⟩, ⟨"help", some 'h', .stop .help⟩]

def helpName : String := "help"

/-- A command: its name, its values by position and its own switches, and how it is made of the values. -/
structure CommandShape where
  name : String
  positions : List (String × ValueKind)
  switches : List Switch
  build : Reading → Option Command

def commandShapes : List CommandShape :=
  [⟨"list-accounts", [], [], fun _ => some .listAccounts⟩,
    ⟨"create-account", [("id", .text)], [], fun r => (r.get? "id").map .createAccount⟩,
    ⟨"destroy-account", [("id", .text)], [], fun r => (r.get? "id").map .destroyAccount⟩,
    ⟨"api-key", [("role_id", .text)], [], fun r => (r.get? "role_id").map .apiKey⟩,
    ⟨"get-secret", [("resource_id", .text)], [⟨"version", none, .value .number⟩], fun r =>
      (r.get? "resource_id").map (.getSecret · ((r.get? "version").bind number?))⟩,
    ⟨"set-secret", [("resource_id", .text), ("value", .text)], [], fun r =>
      (r.get? "resource_id").bind fun resource => (r.get? "value").map (.setSecret resource)⟩,
    ⟨"load-policy", [("resource_id", .text), ("file", .path)], [], fun r =>
      (r.get? "resource_id").bind fun resource => (r.get? "file").map (.loadPolicy resource)⟩,
    ⟨"purge", [], [], fun _ => some .purge⟩]

def commandNames : List String := commandShapes.map (·.name) ++ [helpName]

def outerShape : Shape := ⟨commonSwitches ++ [⟨"version", some 'V', .stop .version⟩], [], commandNames⟩

/-- What may be given after the name of a command. -/
def CommandShape.shape (c : CommandShape) : Shape := ⟨commonSwitches ++ c.switches, c.positions, []⟩

/-! ### Invocations -/

/-- Where the service is unless something else is said. -/
def defaultServer : String := "http://localhost:3000"

/-- What the arguments after `help` ask for: an explanation of one command that there is, or of all. -/
def explained (topics : List String) : Usage :=
  match topics with
  | [] => .help
  | [topic] => if commandNames.contains topic then .help else .unknownCommand
  | _ => .unknownCommand

/-- The command that arguments after its name make, and what else they say. -/
def CommandShape.read (c : CommandShape) (args : List String) : Except Usage (Command × Reading) := do
  let (r, _) ← Reading.read c.shape .start args
  let r ← r.settle
  match c.build r with
  | some command => return (command, r)
  | none => throw .missingArgument

namespace Invocation

/-- The fault of arguments without a command; an address in the surroundings counts as given. -/
def withoutCommand (server : Option String) (r : Reading) : Usage :=
  if r.settled = [] ∧ server = none then .nothingGiven else .missingCommand

/-- The invocation that arguments make, where `server` is the address that the surroundings give. -/
def read (server : Option String) (args : List String) : Except Usage Invocation := do
  let (outer, rest) ← Reading.read outerShape .start args
  match rest with
  | none => throw (withoutCommand server (← outer.settle))
  | some (name, args) =>
    match commandShapes.find? (·.name = name) with
    | none => throw (explained args)
    | some c =>
      let (command, inner) ← c.read args
      let outer ← outer.settle
      let asked := ((inner.get? "url").or (outer.get? "url")).or server
      let format := if ((inner.get? "json").or (outer.get? "json")).isSome then .json else .text
      return ⟨asked.getD defaultServer, format, command⟩

end Invocation

/-! ### Help -/

def CommandShape.usage (c : CommandShape) : String :=
  "  " ++ c.name ++ String.join (c.positions.map fun p => " <" ++ p.1 ++ ">")
    ++ String.join (c.switches.map fun s => " [--" ++ s.name ++ " <" ++ s.name ++ ">]") ++ "\n"

def helpText : String :=
  "Commands:\n" ++ String.join (commandShapes.map (·.usage)) ++ "Switches: --url <url>, --text, --json, --help\n"

def Usage.message : Usage → String
  | .unknownArgument => "error: unexpected argument\n"
  | .unknownCommand => "error: unrecognized command\n"
  | .missingCommand => "error: a command is required\n"
  | .nothingGiven => helpText
  | .missingArgument => "error: a required argument is missing\n"
  | .repeatedArgument => "error: an argument is given more than once\n"
  | .emptyValue => "error: a value is required\n"
  | .badValue => "error: invalid value\n"
  | .needlessValue => "error: unexpected value\n"
  | .help => helpText
  | .version => "0.1.0\n"

/-- Whether help or the version has been asked for. -/
def Usage.isWish : Usage → Bool
  | .help => true
  | .version => true
  | _ => false

end Postern.CommandLine
