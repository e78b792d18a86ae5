import Postern.Json.Basic
import Postern.Text.Number

/-!
JSON text.  `compact` has no blanks; `pretty` puts each item on a line of its own, two blanks deeper than the
line that opens its container.  A string escapes the quote, the backslash and the control characters below a
blank, and nothing else.
-/

namespace Postern.Json

/-- The lower-case hexadecimal digit of a number below sixteen. -/
def hexDigit (n : Nat) : Char := Char.ofNat (if n < 10 then 0x30 + n else 0x57 + n)

/-- One character inside a string literal. -/
def escape (c : Char) : List Char :=
  if c = '\x22' then ['\\', '\x22']
  else if c = '\\' then ['\\', '\\']
  else if c = '\x08' then ['\\', 'b']
  else if c = '\x0c' then ['\\', 'f']
  else if c = '\n' then ['\\', 'n']
  else if c = '\r' then ['\\', 'r']
  else if c = '\t' then ['\\', 't']
  else if c.toNat < 0x20 then ['\\', 'u', '0', '0', hexDigit (c.toNat / 16), hexDigit (c.toNat % 16)]
  else [c]

def quoted (s : String) : List Char := '\x22' :: (s.toList.flatMap escape ++ ['\x22'])

def scalar : Json → List Char
  | .null => ['n', 'u', 'l', 'l']
  | .bool true => ['t', 'r', 'u', 'e']
  | .bool false => ['f', 'a', 'l', 's', 'e']
  | .int n => Text.signedDecimal n
  | .real literal => literal.toList
  | .str s => quoted s
  | .arr _ => ['[', ']']
  | .obj _ => ['\x7b', '\x7d']

mutual

def compactChars : Json → List Char
  | .arr (j :: js) => '[' :: (compactChars j ++ compactItems js)
  | .obj ((n, j) :: ms) => '\x7b' :: (quoted n ++ ':' :: (compactChars j ++ compactMembers ms))
  | j => scalar j

/-- The items after the first and the bracket that ends them. -/
def compactItems : List Json → List Char
  | [] => [']']
  | j :: js => ',' :: (compactChars j ++ compactItems js)

def compactMembers : List (String × Json) → List Char
  | [] => ['\x7d']
  | (n, j) :: ms => ',' :: (quoted n ++ ':' :: (compactChars j ++ compactMembers ms))

end

def newLine (depth : Nat) : List Char := '\n' :: List.replicate (2 * depth) ' '

mutual

/-- A value that starts on a line of depth `depth`. -/
def prettyChars (depth : Nat) : Json → List Char
  | .arr (j :: js) => '[' :: (newLine (depth + 1) ++ prettyChars (depth + 1) j ++ prettyItems depth js)
  | .obj ((n, j) :: ms) =>
    '\x7b' :: (newLine (depth + 1) ++ quoted n ++ ':' :: ' ' :: (prettyChars (depth + 1) j
      ++ prettyMembers depth ms))
  | j => scalar j

/-- The items after the first and the bracket that ends them. -/
def prettyItems (depth : Nat) : List Json → List Char
  | [] => newLine depth ++ [']']
  | j :: js => ',' :: (newLine (depth + 1) ++ prettyChars (depth + 1) j ++ prettyItems depth js)

def prettyMembers (depth : Nat) : List (String × Json) → List Char
  | [] => newLine depth ++ ['\x7d']
  | (n, j) :: ms =>
    ',' :: (newLine (depth + 1) ++ quoted n ++ ':' :: ' ' :: (prettyChars (depth + 1) j
      ++ prettyMembers depth ms))

end

def compact (j : Json) : String := String.ofList (compactChars j)

/-- The text of a value over several lines. -/
def pretty (j : Json) : String := String.ofList (prettyChars 0 j)

end Postern.Json
