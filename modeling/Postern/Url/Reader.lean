import Postern.Url.Basic

/-!
Reading addresses.  `Url.read` takes the parts of a text one after another: scheme, host, path, query and fragment.
Well-known schemes are lenient with slashes and have default ports; of files, only the path counts.
-/

namespace Postern.Url

/-! ### Schemes -/

/-- How addresses of a scheme are read. -/
inductive Kind where
  | wellKnown (port : Nat)
  | file
  | other
  deriving DecidableEq, Repr

def Kind.ofScheme (scheme : String) : Kind :=
  if scheme = "http" ∨ scheme = "ws" then .wellKnown 80
  else if scheme = "https" ∨ scheme = "wss" then .wellKnown 443
  else if scheme = "ftp" then .wellKnown 21
  else if scheme = "file" then .file
  else .other

/-- Whether a character is a slash; a backslash is one but in schemes that are not well known. -/
def Kind.isSlash (kind : Kind) (c : Char) : Bool := c = '/' || (c = '\\' && kind ≠ .other)

def isSchemeChar (c : Char) : Bool := Text.isLetter c || Text.isDigit c || c = '+' || c = '-' || c = '.'

/-- The scheme of a text, in lower case, and what follows its colon. -/
def scheme? (cs : List Char) : Option (String × List Char) :=
  let scheme := cs.takeWhile isSchemeChar
  match scheme, cs.drop scheme.length with
  | c :: _, ':' :: rest => if Text.isLetter c then some (String.ofList (scheme.map Char.toLower), rest) else none
  | _, _ => none

/-! ### Queries and fragments -/

/-- A text up to a character and what follows that. -/
def cutAt (sep : Char) (cs : List Char) : List Char × Option (List Char) :=
  match cs.dropWhile (· ≠ sep) with
  | [] => (cs, none)
  | _ :: rest => (cs.takeWhile (· ≠ sep), some rest)

def isQueryChar (kind : Kind) (c : Char) : Bool :=
  0x20 < c.toNat && c.toNat < 0x7F && !"\x22#<>".toList.contains c && (c ≠ '\x27' || kind = .other)

def isFragmentChar (c : Char) : Bool := 0x20 < c.toNat && c.toNat < 0x7F && !"\x22<>\x60".toList.contains c

def escaped (keep : Char → Bool) (cs : List Char) : String :=
  String.ofList (Text.Percent.encode keep (String.ofList cs))

/-- What follows the scheme of an address, taken apart. -/
structure Pieces where
  hierarchy : List Char
  query : Option String
  fragment : Option String
  deriving Repr

/-- Query and fragment split off. -/
def Pieces.ofText (kind : Kind) (cs : List Char) : Pieces :=
  let (before, fragment) := cutAt '#' cs
  let (hierarchy, query) := cutAt '?' before
  ⟨hierarchy, query.map (escaped (isQueryChar kind)), fragment.map (escaped isFragmentChar)⟩

/-! ### Authorities -/

def isUserChar (c : Char) : Bool := Path.isSegmentChar c && !"/:;=@[\\]^|".toList.contains c

/-- The name and the password before a host. -/
def userinfo (cs : List Char) : String × String :=
  let (user, password) := cutAt ':' cs
  (escaped isUserChar user, (password.map (escaped isUserChar)).getD "")

/-- A host and what follows it: the colon of a port counts only outside of brackets. -/
def splitHost : Bool → List Char → List Char × List Char
  | _, [] => ([], [])
  | inside, c :: cs =>
    if c = ':' ∧ inside = false then ([], c :: cs)
    else
      let (host, rest) := splitHost (if c = '[' then true else if c = ']' then false else inside) cs
      (c :: host, rest)

/-- A port, which is left out where it is the default, and what follows it. -/
def readPort (default : Option Nat) (cs : List Char) : Except Fault (Option Nat × List Char) :=
  let digits := cs.takeWhile Text.isDigit
  let rest := cs.drop digits.length
  if rest ≠ [] ∧ rest.head? ≠ some '\\' then .error .badPort
  else
    match Text.numeral? 10 digits with
    | none => .ok (none, rest)
    | some n => if Text.maxWord 16 < n then .error .badPort else .ok (if default = some n then none else some n, rest)

def Kind.defaultPort : Kind → Option Nat
  | .wellKnown port => some port
  | .file => none
  | .other => none

/-- The host of an authority, which only schemes that are not well known may leave out. -/
def hostOf (kind : Kind) (cs rest : List Char) : Except Fault Host :=
  if cs = [] then (if kind = .other ∧ rest.head? ≠ some ':' then .ok (.domain "") else .error .emptyHost)
  else if kind = .other then Host.readPlain cs
  else Host.read cs

def pathAfter (kind : Kind) (cs : List Char) : List String :=
  match cs with
  | [] => if kind = .other then [] else [""]
  | c :: rest => Path.read kind.isSlash (if kind.isSlash c then rest else c :: rest)

def ofAuthority (scheme : String) (kind : Kind) (p : Pieces) (cs : List Char) : Except Fault Url := do
  let authority := cs.takeWhile (!kind.isSlash ·)
  let path := cs.drop authority.length
  let (who, hostAndPort) := (Text.splitLast? '@' authority).elim ([], authority) id
  if who = [] ∧ authority = ['@'] ∧ (path ≠ [] ∨ p.query.isSome ∨ p.fragment.isSome) then throw .emptyHost
  let (hostText, afterHost) := splitHost false hostAndPort
  let host ← hostOf kind hostText afterHost
  let (port, afterPort) ← readPort kind.defaultPort (afterHost.drop 1)
  let (user, password) := userinfo who
  if host = .domain "" ∧ credentials user password ≠ [] then throw .emptyHost
  return ⟨scheme, user, password, some host, port, .segments (pathAfter kind (afterPort ++ path)), p.query, p.fragment⟩

/-! ### Files -/

def localFile (p : Pieces) (cs : List Char) : Url :=
  ⟨"file", "", "", some (.domain ""), none, .segments (Path.readFile Kind.file.isSlash cs).1, p.query, p.fragment⟩

/-- The host of a file's address; the own one is left out. -/
def fileHost (cs : List Char) : Except Fault Host :=
  if cs = [] then .ok (.domain "")
  else (Host.read cs).map fun host => if host = .domain "localhost" then .domain "" else host

/-- An address of a file on a host.  A path that begins with a drive makes the host disappear. -/
def ofFileHost (p : Pieces) (cs : List Char) : Except Fault Url := do
  let name := cs.takeWhile (!Kind.file.isSlash ·)
  if Path.isDrive (String.ofList name) then return localFile p cs
  let host ← fileHost name
  let (names, onDrive) := Path.readFile Kind.file.isSlash (cs.drop (name.length + 1))
  return ⟨"file", "", "", some (if onDrive then .domain "" else host), none, .segments names, p.query, p.fragment⟩

def ofFile (p : Pieces) : Except Fault Url :=
  match p.hierarchy with
  | a :: b :: rest =>
    if Kind.file.isSlash a then
      if Kind.file.isSlash b then ofFileHost p rest else .ok (localFile p (b :: rest))
    else .ok (localFile p (a :: b :: rest))
  | [a] => .ok (localFile p (if Kind.file.isSlash a then [] else [a]))
  | [] => .ok (localFile p [])

/-! ### Addresses -/

/-- An address of a scheme that is not well known. -/
def ofOther (scheme : String) (p : Pieces) : Except Fault Url :=
  match p.hierarchy with
  | '/' :: '/' :: rest => ofAuthority scheme .other p rest
  | '/' :: rest =>
    .ok ⟨scheme, "", "", none, none, .segments (Path.read Kind.other.isSlash rest), p.query, p.fragment⟩
  | cs => .ok ⟨scheme, "", "", none, none, .plain (escaped Host.isPrintable cs), p.query, p.fragment⟩

/-- A text without the blanks and control characters around it, and without tabs and line ends. -/
def cleaned (text : String) : List Char :=
  let outer (c : Char) : Bool := c.toNat ≤ 0x20
  ((text.toList.dropWhile outer).reverse.dropWhile outer).reverse.filter fun c => c ≠ '\t' ∧ c ≠ '\n' ∧ c ≠ '\r'

def read (text : String) : Except Fault Url :=
  match scheme? (cleaned text) with
  | none => .error .relative
  | some (scheme, rest) =>
    let kind := Kind.ofScheme scheme
    let p := Pieces.ofText kind rest
    match kind with
    | .wellKnown _ => ofAuthority scheme kind p (p.hierarchy.dropWhile kind.isSlash)
    | .file => ofFile p
    | .other => ofOther scheme p

end Postern.Url
