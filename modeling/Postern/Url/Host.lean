import Postern.Text.Encoding
import Postern.Url.Domain

/-!
Hosts, and what can be wrong with an address.  A host is a name, or an address of either length.  The host of a
well-known scheme is a domain name or an address; that of any other scheme is kept as it is, with percent escapes for
what it cannot show.
-/

namespace Postern.Url

/-- Why a text is no address, or why no other address can be found relative to one. -/
inductive Fault where
  | emptyHost
  | badDomain
  | badDomainCharacter
  | badPort
  | badIpv4
  | badIpv6
  | relative
  | noHierarchy
  deriving DecidableEq, Repr

/-- What is said about a text that is no address. -/
def Fault.message : Fault → String
  | .emptyHost => "empty host"
  | .badDomain => "invalid international domain name"
  | .badDomainCharacter => "invalid domain character"
  | .badPort => "invalid port number"
  | .badIpv4 => "invalid IPv4 address"
  | .badIpv6 => "invalid IPv6 address"
  | .relative => "relative URL without a base"
  | .noHierarchy => "relative URL with a cannot-be-a-base base"

/-- A host.  The long kind of address is eight groups of sixteen bits. -/
inductive Host where
  | domain (name : String)
  | short (address : Nat)
  | long (groups : List Nat)
  deriving DecidableEq, Repr

namespace Host

/-! ### Short addresses -/

/-- A number with the marks `0x` for sixteen and `0` for eight as its base. -/
def number? (cs : List Char) : Option Nat :=
  match cs with
  | [] => none
  | ['0'] => some 0
  | '0' :: c :: rest =>
    if c = 'x' ∨ c = 'X' then (if rest = [] then some 0 else Text.numeral? 16 rest) else Text.numeral? 8 (c :: rest)
  | cs => Text.numeral? 10 cs

/-- The parts of a name between its dots; a dot at the end does not count. -/
def parts (cs : List Char) : List (List Char) :=
  let fs := Text.fields '.' cs
  if 1 < fs.length ∧ fs.getLast? = some [] then fs.dropLast else fs

/-- Whether a name has to be an address, because its last part is a number. -/
def endsInNumber (cs : List Char) : Bool :=
  match (parts cs).getLast? with
  | some part => part ≠ [] && (part.all Text.isDigit || (number? part).isSome)
  | none => false

/-- The address that numbers give: each but the last stands for one byte, and the last for all that remain. -/
def ofNumbers? : List Nat → Option Nat
  | [] => none
  | ns =>
    let leading := ns.dropLast
    let last := ns.getLast?.getD 0
    let remaining := 8 * (4 - leading.length)
    if ns.length ≤ 4 ∧ leading.all (· < 256) ∧ last < Text.wordCount remaining then
      some (leading.foldl (fun sum n => sum * 256 + n) 0 * Text.wordCount remaining + last)
    else none

/-- The short address that a text writes. -/
def short? (cs : List Char) : Option Nat := ((parts cs).mapM number?).bind ofNumbers?

/-! ### Long addresses -/

def group? (cs : List Char) : Option Nat := if cs.length ≤ 4 then Text.numeral? 16 cs else none

def byte? (cs : List Char) : Option Nat :=
  if cs.length ≤ 3 ∧ (cs.head? ≠ some '0' ∨ cs = ['0']) then (Text.numeral? 10 cs).filter (· < 256) else none

/-- Two groups that are written as four bytes. -/
def bytePairs? (cs : List Char) : Option (List Nat) :=
  match (Text.fields '.' cs).mapM byte? with
  | some [a, b, c, d] => some [a * 256 + b, c * 256 + d]
  | _ => none

/-- The groups between colons; the last of them may be written as four bytes. -/
def groups? : List (List Char) → Option (List Nat)
  | [] => some []
  | [f] => if f.contains '.' then bytePairs? f else (group? f).map fun n => [n]
  | f :: fs =>
    match group? f, groups? fs with
    | some n, some ns => some (n :: ns)
    | _, _ => none

/-- What stands before and after the first two colons in a row. -/
def splitAtGap? : List Char → Option (List Char × List Char)
  | [] => none
  | ':' :: ':' :: cs => some ([], cs)
  | c :: cs => (splitAtGap? cs).map fun (before, after) => (c :: before, after)

/-- The groups of a text that may be empty. -/
def side? (cs : List Char) : Option (List Nat) := if cs = [] then some [] else groups? (Text.fields ':' cs)

/-- The long address that a text writes.  Two colons in a row stand for all groups that are missing, at least one. -/
def long? (cs : List Char) : Option (List Nat) :=
  match splitAtGap? cs with
  | some (before, after) =>
    match side? before, side? after with
    | some left, some right =>
      let missing := 8 - (left.length + right.length)
      if 0 < missing ∧ !before.contains '.' then some (left ++ List.replicate missing 0 ++ right) else none
    | _, _ => none
  | none => (side? cs).filter (·.length = 8)

/-! ### Reading -/

/-- A long address in brackets; the opening one has been seen. -/
def bracketed (cs : List Char) : Except Fault Host :=
  match cs.getLast?, long? cs.dropLast with
  | some ']', some groups => .ok (.long groups)
  | _, _ => .error .badIpv6

/-- The host of a well-known scheme. -/
def read (cs : List Char) : Except Fault Host :=
  match cs with
  | '[' :: rest => bracketed rest
  | cs =>
    match (Text.Utf8.decode? (Text.Percent.decode (Text.Utf8.encode (String.ofList cs)))).bind Domain.ascii? with
    | none => .error .badDomain
    | some name =>
      if name = "" then .error .emptyHost
      else if endsInNumber name.toList then
        match short? name.toList with
        | some address => .ok (.short address)
        | none => .error .badIpv4
      else .ok (.domain name)

/-- Characters that stand in no host. -/
def isExcluded (c : Char) : Bool := "\x00\t\n\r #/:<>?@[\\]^|".toList.contains c

def isPrintable (c : Char) : Bool := 0x20 ≤ c.toNat && c.toNat < 0x7F

def readPlain (cs : List Char) : Except Fault Host :=
  match cs with
  | '[' :: rest => bracketed rest
  | cs =>
    if cs.any isExcluded then .error .badDomainCharacter
    else .ok (.domain (String.ofList (Text.Percent.encode isPrintable (String.ofList cs))))

/-! ### Writing -/

def shortText (address : Nat) : List Char :=
  Text.joined '.' ([16777216, 65536, 256, 1].map fun unit => Text.decimal (address / unit % 256))

/-- How many zeros a list begins with. -/
def zeros (groups : List Nat) : Nat := (groups.takeWhile (· = 0)).length

/-- Where the first of the longest runs of zeros begins and how long it is. -/
def longestGap : List Nat → Nat × Nat
  | [] => (0, 0)
  | n :: ns =>
    let (start, length) := longestGap ns
    if length ≤ zeros (n :: ns) then (0, zeros (n :: ns)) else (start + 1, length)

/-- Groups in hexadecimal digits, with colons between them. -/
def groupsText (groups : List Nat) : List Char := Text.joined ':' (groups.map (Nat.toDigits 16))

/-- The groups of a long address, with two colons for the longest run of zeros unless it is a single one. -/
def longText (groups : List Nat) : List Char :=
  let (start, length) := longestGap groups
  if length < 2 then groupsText groups
  else groupsText (groups.take start) ++ ':' :: ':' :: groupsText (groups.drop (start + length))

def text : Host → List Char
  | .domain name => name.toList
  | .short address => shortText address
  | .long groups => '[' :: longText groups ++ [']']

end Host
end Postern.Url
