import Postern.Text.Fields
import Postern.Text.Number

/-!
Arguments of a command line, read one after another.  A `Shape` says which switches and values are known; a
`Reading` holds what has been given, and the last value until the next argument settles it.
-/

namespace Postern.CommandLine

/-- Why no command can be run: a fault in the arguments, or a wish for help or for the version. -/
inductive Usage where
  | unknownArgument
  | unknownCommand
  | missingCommand
  | nothingGiven
  | missingArgument
  | repeatedArgument
  | emptyValue
  | badValue
  | needlessValue
  | help
  | version
  deriving DecidableEq, Repr

inductive ValueKind where
  | text | path | number
  deriving DecidableEq, Repr

inductive Effect where
  | set
  | value (kind : ValueKind)
  | stop (usage : Usage)
  deriving DecidableEq, Repr

/-- A switch.  Only switches that stop the reading have a letter of their own. -/
structure Switch where
  name : String
  letter : Option Char
  effect : Effect
  deriving DecidableEq, Repr

/-- What may be given: switches, values by position, and the names that end the reading. -/
structure Shape where
  switches : List Switch
  positions : List (String × ValueKind)
  commands : List String
  deriving Repr

/-- A value that has been announced, and has perhaps followed. -/
structure Waiting where
  name : String
  kind : ValueKind
  value : Option String
  deriving DecidableEq, Repr

/-- What has been read: settled values by name, one that is not settled, and how many were given by position. -/
structure Reading where
  settled : List (String × String)
  waiting : Option Waiting
  taken : Nat
  deriving DecidableEq, Repr

/-- A number of at most 32 bits; zero may be negative. -/
def number? (text : String) : Option Nat :=
  match text.toList with
  | '-' :: rest => (Text.numeral? 10 rest).filter (· = 0)
  | _ => Text.unsigned? (Text.maxWord 32) text

def ValueKind.check (kind : ValueKind) (text : String) : Except Usage Unit :=
  match kind with
  | .text => .ok ()
  | .path => if text = "" then .error .emptyValue else .ok ()
  | .number => if (number? text).isSome then .ok () else .error .badValue

namespace Reading

def start : Reading := ⟨[], none, 0⟩

def get? (r : Reading) (name : String) : Option String := (r.settled.find? (·.1 = name)).map (·.2)

/-- Adds a value, which no name gets twice. -/
def add (r : Reading) (name : String) (kind : ValueKind) (value : String) : Except Usage Reading :=
  if (r.get? name).isSome then .error .repeatedArgument
  else (kind.check value).map fun _ => { r with settled := r.settled ++ [(name, value)] }

/-- Settles the value that is waiting. -/
def settle (r : Reading) : Except Usage Reading :=
  match r.waiting with
  | none => .ok r
  | some ⟨_, _, none⟩ => .error .emptyValue
  | some ⟨name, kind, some value⟩ => { r with waiting := none }.add name kind value

/-- The announced value that is to follow. -/
def awaited? (r : Reading) : Option Waiting := r.waiting.filter (·.value.isNone)

def position (s : Shape) (r : Reading) (value : String) : Except Usage Reading :=
  match s.positions[r.taken]? with
  | some (name, kind) =>
    r.settle.map fun r => { r with waiting := some ⟨name, kind, some value⟩, taken := r.taken + 1 }
  | none => .error (if s.commands = [] then .unknownArgument else .unknownCommand)

/-- A switch, perhaps with a value of its own. -/
def switch (w : Switch) (r : Reading) (attached : Option String) : Except Usage Reading :=
  match w.effect, attached with
  | .set, none => r.settle.bind (·.add w.name .text "true")
  | .value kind, none => r.settle.map fun r => { r with waiting := some ⟨w.name, kind, none⟩ }
  | .value kind, some value => r.settle.bind (·.add w.name kind value)
  | .stop usage, none => r.settle.bind fun _ => .error usage
  | .set, some _ => .error .needlessValue
  | .stop _, some _ => .error .needlessValue

/-- A switch written out, where the value may follow an equals sign. -/
def long (s : Shape) (r : Reading) (cs : List Char) : Except Usage Reading :=
  let name := cs.takeWhile (· ≠ '=')
  let attached :=
    match cs.drop name.length with
    | _ :: value => some (String.ofList value)
    | [] => none
  match s.switches.find? (·.name = String.ofList name) with
  | some w => switch w r attached
  | none => .error .unknownArgument

/-- A switch given by its letter. -/
def short (s : Shape) (r : Reading) (letter : Char) : Except Usage Reading :=
  match s.switches.find? (·.letter = some letter) with
  | some w => switch w r none
  | none => .error .unknownArgument

def step (s : Shape) (r : Reading) (arg : String) : Except Usage Reading :=
  match arg.toList, r.awaited? with
  | '-' :: '-' :: cs, _ => long s r cs
  | '-' :: letter :: _, _ => short s r letter
  | _, some w => .ok { r with waiting := some { w with value := some arg } }
  | _, none => position s r arg

/-- Arguments of which none is a switch; the name of a command is out of place there. -/
def values (s : Shape) (r : Reading) : List String → Except Usage Reading
  | [] => .ok r
  | arg :: args =>
    match position s r arg with
    | .ok r => values s r args
    | .error e => .error (if s.commands.contains arg then .unknownArgument else e)

/-- Arguments up to the name of a command, that name, and the arguments after it. -/
def read (s : Shape) (r : Reading) : List String → Except Usage (Reading × Option (String × List String))
  | [] => .ok (r, none)
  | arg :: args =>
    if r.awaited? = none ∧ s.commands.contains arg then .ok (r, some (arg, args))
    else if arg = "--" then (values s r args).map fun r => (r, none)
    else
      match step s r arg with
      | .ok r => read s r args
      | .error e => .error e

end Reading
end Postern.CommandLine
