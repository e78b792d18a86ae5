import Postern.CommandLine.Command
import Postern.CommandLine.Run
import Postern.Service.Server
import Postern.Store.Memory

/-!
The program: commands against a service in the same process.  Arguments are one command; without any, each line of
the standard input is one, its words being the arguments.
-/

namespace Postern.Program

structure Running where
  app : App
  keys : KeySource
  store : IO.Ref Memory

/-- The time, counted from the start of the machine. -/
def now : IO Instant := do
  let nanos ← IO.monoNanosNow
  return ⟨nanos / 1000000000, nanos % 1000000000⟩

/-- There are no databases here, and nobody else to listen to. -/
def surroundings : Service.Surroundings IO Memory where
  memory := Memory.empty
  openDatabase _ _ := return .error (.connection (.database "no driver for databases"))
  listen _ := return .ok ()

def Running.transport (r : Running) : Client.Transport IO := fun request => do
  let time ← now
  let (response, memory) := (r.app.handle time request).run (Memory.backend r.keys) (← r.store.get)
  r.store.set memory
  return .ok response

def fileText (name : String) : IO (Option String) :=
  try
    return some (← IO.FS.readFile name)
  catch _ => return none

/-- Runs one command and gives the exit code. -/
def Running.command (r : Running) (args : List String) : IO UInt32 := do
  match CommandLine.Invocation.read (← IO.getEnv "DEV_GATEWAY_URL") args with
  | .error usage =>
    if usage.isWish then
      IO.print usage.message
      return 0
    IO.eprint usage.message
    return 2
  | .ok invocation =>
    let out ← invocation.run r.transport fileText
    IO.print (CommandLine.printed out)
    match out with
    | .ok _ => return 0
    | .error e =>
      IO.eprintln ("Error: " ++ e.message)
      return 1

/-- Runs commands line by line until the input ends. -/
partial def Running.commands (r : Running) (input : IO.FS.Stream) : IO UInt32 := do
  let line ← input.getLine
  if line = "" then return 0
  let words := (Text.fields ' ' (Text.trim line).toList).filter (· ≠ [])
  let _ ← r.command (words.map String.ofList)
  r.commands input

/-- The environment variables that settings are read from. -/
def environment : IO Environment := do
  let names := ["APP_ENV", "BIND_ADDR", "DEV_GATEWAY_PORT", "PORT", "DATABASE_URL", "DATABASE_MAX_CONNECTIONS",
    "SECURITY_ENABLE_CORS", "SECURITY_JWT_SECRET", "DEV_GATEWAY_ENABLED", "DEV_GATEWAY_ERROR_MODE",
    "DEV_GATEWAY_ALLOW_PURGE"]
  let values ← names.mapM fun name => do return (name, ← IO.getEnv name)
  return fun name => (values.find? (·.1 = name)).bind (·.2)

/-- Starts the service and runs the commands. -/
def run (args : List String) : IO UInt32 := do
  match ← Service.start surroundings (Settings.ofEnvironment (← environment)) with
  | .error e =>
    IO.eprintln e.message
    return 1
  | .ok (app, memory) =>
    let seed ← IO.getRandomBytes 32
    let r : Running := ⟨app, ApiKey.source seed.toList, ← IO.mkRef memory⟩
    if args = [] then r.commands (← IO.getStdin) else r.command args

end Postern.Program

def main (args : List String) : IO UInt32 := Postern.Program.run args
