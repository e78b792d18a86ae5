import Postern.Json.Printer
import Postern.Store.Table
import Postern.Text.Encoding
import Postern.Text.Number

/-!
HTTP requests and responses.  `HttpRequest.ofParts?` accepts a method, a target and headers that may be sent, and takes
the target apart.  A target is a path with a query, an absolute address, an authority alone, or `*`.  Names of headers
are in lower case.
-/

namespace Postern.Status

/-! ### Status codes -/

/-- The codes that have a name, in ascending order. -/
def reasons : List (Nat × String) :=
  [(100, "Continue"), (101, "Switching Protocols"), (102, "Processing"), (200, "OK"), (201, "Created"),
    (202, "Accepted"), (203, "Non Authoritative Information"), (204, "No Content"), (205, "Reset Content"),
    (206, "Partial Content"), (207, "Multi-Status"), (208, "Already Reported"), (226, "IM Used"),
    (300, "Multiple Choices"), (301, "Moved Permanently"), (302, "Found"), (303, "See Other"), (304, "Not Modified"),
    (305, "Use Proxy"), (307, "Temporary Redirect"), (308, "Permanent Redirect"), (400, "Bad Request"),
    (401, "Unauthorized"), (402, "Payment Required"), (403, "Forbidden"), (404, "Not Found"),
    (405, "Method Not Allowed"), (406, "Not Acceptable"), (407, "Proxy Authentication Required"),
    (408, "Request Timeout"), (409, "Conflict"), (410, "Gone"), (411, "Length Required"), (412, "Precondition Failed"),
    (413, "Payload Too Large"), (414, "URI Too Long"), (415, "Unsupported Media Type"), (416, "Range Not Satisfiable"),
    (417, "Expectation Failed"), (418, "I'm a teapot"), (421, "Misdirected Request"), (422, "Unprocessable Entity"),
    (423, "Locked"), (424, "Failed Dependency"), (425, "Too Early"), (426, "Upgrade Required"),
    (428, "Precondition Required"), (429, "Too Many Requests"), (431, "Request Header Fields Too Large"),
    (451, "Unavailable For Legal Reasons"), (500, "Internal Server Error"), (501, "Not Implemented"),
    (502, "Bad Gateway"), (503, "Service Unavailable"), (504, "Gateway Timeout"), (505, "HTTP Version Not Supported"),
    (506, "Variant Also Negotiates"), (507, "Insufficient Storage"), (508, "Loop Detected"), (510, "Not Extended"),
    (511, "Network Authentication Required")]

def reason (code : Nat) : String := ((reasons.find? (·.1 = code)).map (·.2)).getD "<unknown status code>"

def text (code : Nat) : String := Text.showNat code ++ " " ++ reason code

def isSuccess (code : Nat) : Bool := 200 ≤ code && code < 300

end Postern.Status

namespace Postern

/-- A request.  Header names are in lower case; a target without a path has the empty one. -/
structure HttpRequest where
  method : String
  path : String
  query : Option String
  headers : List (String × String)
  deriving DecidableEq, Repr, Inhabited

namespace HttpRequest

/-! ### Methods and headers -/

/-- The characters of methods and of header names. -/
def isTokenChar (c : Char) : Bool :=
  Text.isDigit c || Text.isLetter c || c = '!' || c = '#' || c = '$' || c = '%' || c = '&' || c = '\x27' || c = '*'
    || c = '+' || c = '-' || c = '.' || c = '^' || c = '_' || c = '\x60' || c = '|' || c = '~'

def isMethod (s : String) : Bool := s ≠ "" && s.toList.all isTokenChar

def longestName : Nat := 65535

def isHeaderName (s : String) : Bool := s ≠ "" && s.toList.all isTokenChar && decide (s.length ≤ longestName)

/-- Whether a text may be the value of a header: no control characters but tabs. -/
def isHeaderValue (s : String) : Bool := s.toList.all fun c => c = '\t' || (0x20 ≤ c.toNat && c.toNat ≠ 0x7F)

/-- Whether the value of a header is text: visible ASCII, blanks and tabs. -/
def isTextValue (s : String) : Bool := s.toList.all fun c => c = '\t' || (0x20 ≤ c.toNat && c.toNat < 0x7F)

/-- A header with its name in lower case. -/
def header? (h : String × String) : Option (String × String) :=
  if isHeaderName h.1 && isHeaderValue h.2 then some (h.1.map Char.toLower, h.2) else none

/-! ### Targets -/

def isPathChar (c : Char) : Bool :=
  let n := c.toNat
  n = 0x21 || n = 0x22 || (0x24 ≤ n && n ≤ 0x3B) || n = 0x3D || (0x40 ≤ n && n ≤ 0x5F) || (0x61 ≤ n && n ≤ 0x7B)
    || 0x7C ≤ n

def isQueryChar (c : Char) : Bool :=
  let n := c.toNat
  n = 0x21 || (0x24 ≤ n && n ≤ 0x3B) || n = 0x3D || 0x3F ≤ n

/-- A path and a query; what follows a number sign is dropped. -/
def pathAndQuery? (cs : List Char) : Option (String × Option String) :=
  let path := cs.takeWhile fun c => c ≠ '?' ∧ c ≠ '#'
  let shown := if path = [] then "/" else String.ofList path
  if path.all isPathChar then
    match cs.drop path.length with
    | '?' :: rest =>
      let query := rest.takeWhile (· ≠ '#')
      if query.all isQueryChar then some (shown, some (String.ofList query)) else none
    | _ => some (shown, none)
  else none

structure Authority where
  colons : Nat
  opened : Bool
  closed : Bool
  percent : Bool
  endsAt : Bool
  deriving DecidableEq, Repr

namespace Authority

def start : Authority := ⟨0, false, false, false, false⟩

/-- Whether a character without a part of its own may stand in an authority. -/
def isPlain (c : Char) : Bool :=
  Text.isDigit c || Text.isLetter c || c = '!' || c = '$' || c = '&' || c = '\x27' || c = '(' || c = ')' || c = '*'
    || c = '+' || c = ',' || c = '-' || c = '.' || c = ';' || c = '=' || c = '_' || c = '~'

/-- One more character.  Colons and percent signs before an at sign or inside brackets do not count. -/
def step? (a : Authority) (c : Char) : Option Authority :=
  let a := { a with endsAt := c = '@' }
  if c = ':' then (if 8 ≤ a.colons then none else some { a with colons := a.colons + 1 })
  else if c = '[' then (if a.percent || a.opened then none else some { a with opened := true })
  else if c = ']' then
    (if !a.opened || a.closed then none else some { a with closed := true, colons := 0, percent := false })
  else if c = '@' then some { a with colons := 0, percent := false }
  else if c = '%' then some { a with percent := true }
  else if isPlain c then some a
  else none

def isComplete (a : Authority) : Bool := a.opened = a.closed && decide (a.colons ≤ 1) && !a.endsAt && !a.percent

def skip? : Authority → List Char → Option (List Char)
  | a, [] => if a.isComplete then some [] else none
  | a, c :: rest =>
    if c = '/' ∨ c = '?' ∨ c = '#' then (if a.isComplete then some (c :: rest) else none)
    else
      match a.step? c with
      | some a => skip? a rest
      | none => none

end Authority

def isSchemeChar (c : Char) : Bool :=
  Text.isDigit c || Text.isLetter c || c = '+' || c = '-' || c = '.' || c = '~'

def longestScheme : Nat := 64

/-- What follows the scheme of a target: `none` where there is no scheme, and a fault where it is too long. -/
def afterScheme (cs : List Char) : Except Unit (Option (List Char)) :=
  let scheme := cs.takeWhile isSchemeChar
  match cs.drop scheme.length with
  | ':' :: '/' :: '/' :: rest => if scheme.length ≤ longestScheme then .ok (some rest) else .error ()
  | _ => .ok none

def longestTarget : Nat := 65534

/-- The path and the query of a target that is no path itself. -/
def absolute? (cs : List Char) : Option (String × Option String) :=
  match afterScheme cs with
  | .error () => none
  | .ok none =>
    match Authority.start.skip? cs with
    | some [] => some ("", none)
    | _ => none
  | .ok (some rest) =>
    match Authority.start.skip? rest with
    | some after => if after = rest then none else pathAndQuery? after
    | none => none

def target? (s : String) : Option (String × Option String) :=
  if longestTarget < Text.Utf8.size s then none
  else
    match s.toList with
    | [] => none
    | ['*'] => some ("*", none)
    | '/' :: rest => pathAndQuery? ('/' :: rest)
    | cs => absolute? cs

/-! ### Requests -/

def ofParts? (method target : String) (headers : List (String × String)) : Option HttpRequest :=
  if isMethod method then
    match target? target, headers.mapM header? with
    | some (path, query), some headers => some ⟨method, path, query, headers⟩
    | _, _ => none
  else none

/-- The value of a header, the first one of its name. -/
def value? (r : HttpRequest) (name : String) : Option String := (r.headers.find? (·.1 = name)).map (·.2)

/-- The parameters of a request's query; of one that is repeated the last value counts. -/
def parameters (r : HttpRequest) : Store.Table String String := .ofList (Text.Form.decode (r.query.getD ""))

end HttpRequest

/-! ### Responses -/

structure Response where
  status : Nat
  headers : List (String × String)
  body : String
  deriving DecidableEq, Repr, Inhabited

namespace Response

def empty (status : Nat) : Response := ⟨status, [], ""⟩

def json (status : Nat) (body : Json) : Response := ⟨status, [("content-type", "application/json")], body.compact⟩

def text (status : Nat) (body : String) : Response :=
  ⟨status, [("content-type", "text/plain; charset=utf-8")], body⟩

def header? (name : String) (r : Response) : Option String := (r.headers.find? (·.1 = name)).map (·.2)

end Response

end Postern
