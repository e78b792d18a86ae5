import Postern.Text.Number
import Postern.Yaml.Token

/-!
YAML values.  A value under a local tag keeps the tag; `same` is the equality that decides whether two mapping
keys are one, in which the order of a mapping's entries does not count.

A plain scalar is null, a truth value, a number or else a string; a tag of the core schema asks for one type, in
whichever style the scalar is written.
-/

namespace Postern

/-! ### Values -/

inductive Yaml.Real where
  | finite (negative : Bool) (magnitude : Decimal.Binary64)
  | infinite (negative : Bool)
  | nan
  deriving DecidableEq, Repr

inductive Yaml where
  | null
  | bool (b : Bool)
  | int (n : Int)
  | real (r : Yaml.Real)
  | str (s : String)
  | seq (items : List Yaml)
  | map (entries : List (Yaml × Yaml))
  | tagged (tag : String) (value : Yaml)
  deriving Inhabited, Repr

namespace Yaml

/-- A value without the tags that it carries. -/
def untagged : Yaml → Yaml
  | .tagged _ v => untagged v
  | v => v

/-- The text of a string, looking through tags. -/
def text? (v : Yaml) : Option String :=
  match v.untagged with
  | .str s => some s
  | _ => none

/-- The value of the entry whose key is the string `name`. -/
def findIn (name : String) : List (Yaml × Yaml) → Option Yaml
  | [] => none
  | (.str k, v) :: es => if k = name then some v else findIn name es
  | _ :: es => findIn name es

/-- Whether two numbers count as one; minus zero is zero. -/
def Real.same : Real → Real → Bool
  | .finite n m, .finite n' m' => m = m' && (n = n' || m.mantissa = 0)
  | .infinite n, .infinite n' => n = n'
  | .nan, .nan => true
  | _, _ => false

mutual

/-- Whether two values count as one key. -/
def same : Yaml → Yaml → Bool
  | .null, .null => true
  | .bool a, .bool b => a = b
  | .int a, .int b => a = b
  | .real a, .real b => a.same b
  | .str a, .str b => a = b
  | .seq as, .seq bs => sameItems as bs
  | .map as, .map bs => as.length = bs.length && sameEntries as bs
  | .tagged t a, .tagged u b => t = u && same a b
  | _, _ => false

def sameItems : List Yaml → List Yaml → Bool
  | [], [] => true
  | a :: as, b :: bs => same a b && sameItems as bs
  | _, _ => false

/-- Whether each entry of a mapping is an entry of another. -/
def sameEntries : List (Yaml × Yaml) → List (Yaml × Yaml) → Bool
  | [], _ => true
  | (k, v) :: es, bs => bs.any (fun b => same k b.1 && same v b.2) && sameEntries es bs

end

end Yaml

end Postern

namespace Postern.Yaml

/-! ### Scalars -/

def isNull (s : String) : Bool := s = "null" || s = "Null" || s = "NULL" || s = "~"

def bool? (s : String) : Option Bool :=
  if s = "true" ∨ s = "True" ∨ s = "TRUE" then some true
  else if s = "false" ∨ s = "False" ∨ s = "FALSE" then some false
  else none

/-! ### Numbers -/

/-- A sign: whether it is a minus, and the text after it. -/
def signed : List Char → Bool × List Char
  | '-' :: cs => (true, cs)
  | '+' :: cs => (false, cs)
  | cs => (false, cs)

/-- Digits that are no number: more than one, the first of them zero. -/
def hasLeadingZero (cs : List Char) : Bool :=
  match (signed cs).2 with
  | '0' :: d :: ds => (d :: ds).all Text.isDigit
  | _ => false

/-- The integer that a text spells in decimal, or in another base after `0x`, `0o` or `0b`. -/
def integer? (cs : List Char) : Option Int :=
  let (negative, digits) := signed cs
  let magnitude :=
    match digits with
    | '0' :: 'x' :: rest => Text.numeral? 16 rest
    | '0' :: 'o' :: rest => Text.numeral? 8 rest
    | '0' :: 'b' :: rest => Text.numeral? 2 rest
    | _ => if hasLeadingZero cs then none else Text.numeral? 10 digits
  magnitude.map fun n => if negative then -(n : Int) else n

def exponent? : List Char → Option Int
  | [] => some 0
  | e :: cs =>
    if e = 'e' ∨ e = 'E' then
      let (negative, digits) := signed cs
      (Text.numeral? 10 digits).map fun n => if negative then -(n : Int) else n
    else none

/-- The number that digits with a point or an exponent spell; none that is too large. -/
def decimal? (cs : List Char) : Option Real :=
  let (negative, cs) := signed cs
  let whole := cs.takeWhile Text.isDigit
  let cs := cs.dropWhile Text.isDigit
  let (fraction, cs) :=
    match cs with
    | '.' :: rest => (rest.takeWhile Text.isDigit, rest.dropWhile Text.isDigit)
    | _ => ([], cs)
  match Text.numeral? 10 (whole ++ fraction), exponent? cs with
  | some mantissa, some e => (Decimal.round? mantissa (e - fraction.length)).map (.finite negative)
  | _, _ => none

/-- The number that a text spells, infinities and the like included. -/
def real? (cs : List Char) : Option Real :=
  let s := String.ofList cs
  if s = ".inf" ∨ s = ".Inf" ∨ s = ".INF" ∨ s = "+.inf" ∨ s = "+.Inf" ∨ s = "+.INF" then some (.infinite false)
  else if s = "-.inf" ∨ s = "-.Inf" ∨ s = "-.INF" then some (.infinite true)
  else if s = ".nan" ∨ s = ".NaN" ∨ s = ".NAN" then some .nan
  else decimal? cs

/-- An integer as a value: one of more than 64 bits is refused, and one of more than 128 bits is no integer. -/
def ofInteger? (n : Int) : Option (Except Fault Yaml) :=
  if -Text.wordCount 63 ≤ n ∧ n < Text.wordCount 64 then some (.ok (.int n))
  else if -Text.wordCount 127 ≤ n ∧ n < Text.wordCount 128 then some (.error .badScalar)
  else none

/-! ### Typing -/

def ofPlain (s : String) : Except Fault Yaml :=
  let cs := s.toList
  if cs = [] || isNull s then .ok .null
  else
    match bool? s with
    | some b => .ok (.bool b)
    | none =>
      match (integer? cs).bind ofInteger? with
      | some r => r
      | none =>
        if hasLeadingZero cs then .ok (.str s)
        else
          match real? cs with
          | some r => .ok (.real r)
          | none => .ok (.str s)

/-- The types of the core schema that a tag can ask for. -/
inductive CoreType where
  | null | bool | int | float
  deriving DecidableEq, Repr

def ofCore (t : CoreType) (s : String) : Except Fault Yaml :=
  let cs := s.toList
  match t with
  | .null => if isNull s then .ok .null else .error .badScalar
  | .bool =>
    match bool? s with
    | some b => .ok (.bool b)
    | none => .error .badScalar
  | .int =>
    match (integer? cs).bind ofInteger? with
    | some r => r
    | none => .error .badScalar
  | .float =>
    match real? cs with
    | some r => .ok (.real r)
    | none => .error .badScalar

end Postern.Yaml
