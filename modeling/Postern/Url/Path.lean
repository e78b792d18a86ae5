import Postern.Text.Encoding
import Postern.Text.Fields

/-!
Paths of addresses.  Dots for "here" and "one up" are carried out while a path is read; one that looks like the
letter of a drive is never left.
-/

namespace Postern.Url

/-- A path: segments with a slash before each of them, or a text without a hierarchy. -/
inductive Path where
  | segments (names : List String)
  | plain (text : String)
  deriving DecidableEq, Repr

namespace Path

/-! ### Segments -/

def isSegmentChar (c : Char) : Bool :=
  0x20 < c.toNat && c.toNat < 0x7F && !"\x22#<>?\x60\x7b\x7d".toList.contains c

def escaped (cs : List Char) : String := String.ofList (Text.Percent.encode isSegmentChar (String.ofList cs))

/-- The ways of writing one dot. -/
def singleDots : List String := [".", "%2e", "%2E"]

/-- The ways of writing two dots. -/
def doubleDots : List String := ["..", "%2e%2e", "%2e%2E", "%2E%2e", "%2E%2E", "%2e.", "%2E.", ".%2e", ".%2E"]

def isDrive (name : String) : Bool :=
  match name.toList with
  | [letter, c] => Text.isLetter letter && (c = ':' || c = '|')
  | _ => false

/-- One segment up, but not out of a drive. -/
def up (names : List String) : List String :=
  match names.getLast? with
  | some last => if isDrive last then names else names.dropLast
  | none => []

/-- A segment after others; `final` says that no slash follows it. -/
def step (names : List String) (name : String) (final : Bool) : List String :=
  if doubleDots.contains name then up names ++ (if final then [""] else [])
  else if singleDots.contains name then names ++ (if final then [""] else [])
  else names ++ [name]

/-- Segments one after another, the last of them without a slash after it. -/
def walk : List String → List String → List String
  | names, [] => names
  | names, [name] => step names name true
  | names, name :: rest => walk (step names name false) rest

/-- The segments that a text writes, without the slash before the first of them. -/
def read (isSlash : Char → Bool) (cs : List Char) : List String :=
  walk [] ((Text.fields '/' (cs.map fun c => if isSlash c then '/' else c)).map escaped)

/-! ### Paths of files -/

def asDrive (name : String) : String :=
  match name.toList with
  | [letter, '|'] => String.ofList [letter, ':']
  | _ => name

/-- A first segment that begins with a drive is one of its own, and what follows it another. -/
def splitDrive (cs : List Char) : List Char :=
  match cs with
  | letter :: ':' :: c :: rest =>
    if Text.isLetter letter ∧ c ≠ '/' ∧ c ≠ '\\' then letter :: ':' :: '/' :: c :: rest else cs
  | _ => cs

/-- Segments without the empty ones before the others. -/
def trimmed (names : List String) : List String :=
  match names.dropWhile (· = "") with
  | [] => [""]
  | names => names

/-- The segments of a file's path, and whether the path begins with a drive. -/
def readFile (isSlash : Char → Bool) (cs : List Char) : List String × Bool :=
  match Text.fields '/' ((splitDrive cs).map fun c => if isSlash c then '/' else c) with
  | [] => ([""], false)
  | first :: rest =>
    let onDrive := isDrive (escaped first)
    let first := if onDrive then asDrive (escaped first) else escaped first
    (trimmed (walk [] (first :: rest.map escaped)), onDrive)

/-! ### Writing -/

def segmentsText (names : List String) : List Char := names.flatMap fun name => '/' :: name.toList

def text : Path → List Char
  | .segments names => segmentsText names
  | .plain text => text.toList

end Path
end Postern.Url
