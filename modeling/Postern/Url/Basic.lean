import Postern.Text.Encoding
import Postern.Url.Host
import Postern.Url.Path

/-!
Addresses of resources.  The parts of an address are kept as they are written in the end.
-/

namespace Postern

structure Url where
  scheme : String
  user : String
  password : String
  host : Option Url.Host
  port : Option Nat
  path : Url.Path
  query : Option String
  fragment : Option String
  deriving DecidableEq, Repr

namespace Url

/-- Who asks, before the host. -/
def credentials (user password : String) : List Char :=
  if user = "" ∧ password = "" then []
  else user.toList ++ (if password = "" then [] else ':' :: password.toList) ++ ['@']

def portText : Option Nat → List Char
  | some port => ':' :: Text.decimal port
  | none => []

/-- What stands between scheme and path.  Where there is no host, a path must not look like one. -/
def authorityText (u : Url) : List Char :=
  match u.host, u.path with
  | some host, _ => '/' :: '/' :: (credentials u.user u.password ++ host.text ++ portText u.port)
  | none, .segments ("" :: _ :: _) => ['/', '.']
  | none, _ => []

/-- A part that may be missing, after the character that introduces it. -/
def partText (introduction : Char) : Option String → List Char
  | some part => introduction :: part.toList
  | none => []

def text (u : Url) : String :=
  String.ofList (u.scheme.toList ++ ':' :: (u.authorityText ++ u.path.text ++ partText '?' u.query
    ++ partText '#' u.fragment))

/-- The address with a slash at the end of its path. -/
def asDirectory (u : Url) : Url :=
  match u.path with
  | .segments names => if names.getLast? = some "" then u else { u with path := .segments (names ++ [""]) }
  | .plain _ => u

/-- The address of `name` in place of the last segment, without query and fragment. -/
def sibling (u : Url) (name : String) : Except Fault Url :=
  match u.path with
  | .segments names => .ok { u with path := .segments (names.dropLast ++ [name]), query := none, fragment := none }
  | .plain _ => .error .noHierarchy

def withQuery (u : Url) (pairs : List (String × String)) : Url := { u with query := some (Text.Form.encode pairs) }

end Url

end Postern
