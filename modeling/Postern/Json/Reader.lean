import Postern.Json.Basic
import Postern.Text.Encoding
import Postern.Text.Number

/-!
Reading JSON.  A text is read from its bytes, each of them given as the character of its number, so that the marks of
the format stand for themselves; what a string is made of has to be UTF-8 in the end.  Each reader takes what it reads
off the front and returns the rest.

`value?` reads a value, whose containers may be nested up to a given depth, and `read?` wants the whole text to be one
value between blanks.
-/

namespace Postern.Json

def isSpace (c : Char) : Bool := c = ' ' || c = '\t' || c = '\n' || c = '\r'

/-- A text without its leading blanks. -/
def skip (cs : List Char) : List Char := cs.dropWhile isSpace

def hex4? : List Char → Option (Nat × List Char)
  | a :: b :: c :: d :: rest => (Text.numeral? 16 [a, b, c, d]).map (·, rest)
  | _ => none

/-- The character of `\uXXXX` after the `u`; a high surrogate needs a low one after it. -/
def unicode? (cs : List Char) : Option (Char × List Char) :=
  match hex4? cs with
  | none => none
  | some (hi, rest) =>
    if hi < 0xD800 ∨ 0xE000 ≤ hi then some (Char.ofNat hi, rest)
    else if 0xDC00 ≤ hi then none
    else
      match rest with
      | '\\' :: 'u' :: rest =>
        match hex4? rest with
        | none => none
        | some (lo, rest) =>
          if 0xDC00 ≤ lo ∧ lo < 0xE000 then
            some (Char.ofNat (0x10000 + (hi - 0xD800) * 0x400 + (lo - 0xDC00)), rest)
          else none
      | _ => none

def escaped? (c : Char) : Option Char :=
  if c = '\x22' ∨ c = '\\' ∨ c = '/' then some c
  else if c = 'b' then some '\x08'
  else if c = 'f' then some '\x0c'
  else if c = 'n' then some '\n'
  else if c = 'r' then some '\r'
  else if c = 't' then some '\t'
  else none

/-- The bytes of one character of a string, written plainly or as an escape. -/
def stringChar? : List Char → Option (List Char × List Char)
  | [] => none
  | '\\' :: 'u' :: rest => (unicode? rest).map fun (c, rest) => (Text.Utf8.octets (Text.Utf8.encodeChar c), rest)
  | '\\' :: c :: rest => (escaped? c).map fun c => ([c], rest)
  | c :: rest => if c = '\\' ∨ c.toNat < 0x20 then none else some ([c], rest)

section
variable {α : Type} (char : List Char → Option (α × List Char))

/-- The characters of a string up to the quote that ends it, in at most `fuel` steps. -/
def stringChars? : Nat → List Char → Option (List α × List Char)
  | 0, _ => none
  | fuel + 1, cs =>
    match cs with
    | '\x22' :: rest => some ([], rest)
    | cs =>
      match char cs with
      | none => none
      | some (c, rest) => (stringChars? fuel rest).map fun (s, rest) => (c :: s, rest)

end

/-- The text of a string after the quote that opens it. -/
def string? (cs : List Char) : Option (String × List Char) :=
  (stringChars? stringChar? (cs.length + 1) cs).bind fun (s, rest) =>
    (Text.Utf8.decode? (Text.Utf8.ofOctets s.flatten)).map (·, rest)

def digits (cs : List Char) : List Char × List Char := (cs.takeWhile Text.isDigit, cs.dropWhile Text.isDigit)

/-- The whole part of a numeral: one zero, or digits that do not begin with one. -/
def whole? (cs : List Char) : Option (List Char × List Char) :=
  match digits cs with
  | ([], _) => none
  | ('0' :: [], rest) => some (['0'], rest)
  | ('0' :: _ :: _, _) => none
  | (ds, rest) => some (ds, rest)

/-- The fraction of a numeral, if a point follows. -/
def fraction? : List Char → Option (List Char × List Char)
  | '.' :: cs =>
    match digits cs with
    | ([], _) => none
    | (ds, rest) => some ('.' :: ds, rest)
  | cs => some ([], cs)

def exponent? : List Char → Option (List Char × List Char)
  | [] => some ([], [])
  | e :: cs =>
    if e = 'e' ∨ e = 'E' then
      let (sign, cs) :=
        match cs with
        | '+' :: cs => (['+'], cs)
        | '-' :: cs => (['-'], cs)
        | cs => ([], cs)
      match digits cs with
      | ([], _) => none
      | (ds, rest) => some (e :: (sign ++ ds), rest)
    else some ([], e :: cs)

/-- A numeral: its sign, and its parts with the marks before them. -/
structure Numeral where
  negative : Bool
  whole : List Char
  fraction : List Char
  exponent : List Char

namespace Numeral

/-- The digits of the exponent, and whether it is negative. -/
def power (n : Numeral) : Bool × List Char :=
  match n.exponent.drop 1 with
  | '-' :: ds => (true, ds)
  | '+' :: ds => (false, ds)
  | ds => (false, ds)

/-- Whether it is in the range of binary numbers of 64 bits. -/
def isFinite (n : Numeral) : Bool :=
  let power : Int := (Text.numeral? 10 n.power.2).getD 0
  let exponent := (if n.power.1 then -power else power) - (n.fraction.drop 1).length
  (Decimal.round? ((Text.numeral? 10 (n.whole ++ n.fraction.drop 1)).getD 0) exponent).isSome

/-- Its number.  Minus zero and whatever needs more than 64 bits count as real. -/
def value? (n : Numeral) : Option Json :=
  let literal := String.ofList ((if n.negative then ['-'] else []) ++ n.whole ++ n.fraction ++ n.exponent)
  let real : Option Json := if n.isFinite then some (.real literal) else none
  match n.fraction ++ n.exponent, Text.numeral? 10 n.whole with
  | [], some m =>
    if n.negative then
      if 0 < m ∧ m ≤ Text.wordCount 63 then some (.int (-m)) else real
    else if m ≤ Text.maxWord 64 then some (.int m) else real
  | _, _ => real

end Numeral

def numeral? (cs : List Char) : Option (Numeral × List Char) :=
  let (negative, cs) :=
    match cs with
    | '-' :: cs => (true, cs)
    | cs => (false, cs)
  match whole? cs with
  | none => none
  | some (whole, cs) =>
    match fraction? cs with
    | none => none
    | some (fraction, cs) => (exponent? cs).map fun (exponent, rest) => (⟨negative, whole, fraction, exponent⟩, rest)

def number? (cs : List Char) : Option (Json × List Char) :=
  (numeral? cs).bind fun (n, rest) => n.value?.map (·, rest)

section
variable {α : Type} (item : List Char → Option (α × List Char)) (close : Char)

/-- What follows an item: the bracket that ends the container, or a comma and more items. -/
def moreItems? : Nat → List Char → Option (List α × List Char)
  | 0, _ => none
  | fuel + 1, cs =>
    match skip cs with
    | [] => none
    | c :: rest =>
      if c = close then some ([], rest)
      else if c = ',' then
        match item rest with
        | none => none
        | some (x, rest) => (moreItems? fuel rest).map fun (xs, rest) => (x :: xs, rest)
      else none

/-- The items of a container after the bracket that opens it. -/
def items? (cs : List Char) : Option (List α × List Char) :=
  match skip cs with
  | [] => none
  | c :: rest =>
    if c = close then some ([], rest)
    else
      match item (c :: rest) with
      | none => none
      | some (x, rest) => (moreItems? item close (rest.length + 1) rest).map fun (xs, rest) => (x :: xs, rest)

end

/-- A member: a name, a colon and what stands behind it. -/
def memberOf? {ν α : Type} (name : List Char → Option (ν × List Char))
    (value : ν → List Char → Option (α × List Char)) (cs : List Char) : Option ((ν × α) × List Char) :=
  match skip cs with
  | '\x22' :: rest =>
    match name rest with
    | none => none
    | some (n, rest) =>
      match skip rest with
      | ':' :: rest => (value n rest).map fun (x, rest) => ((n, x), rest)
      | _ => none
  | _ => none

/-- What a value begins with. -/
inductive Lead where
  | word (j : Json)
  | quote
  | bracket
  | brace
  | other

/-- What a text begins with as a value, and the rest after it. -/
def lead : List Char → Lead × List Char
  | 'n' :: 'u' :: 'l' :: 'l' :: rest => (.word .null, rest)
  | 't' :: 'r' :: 'u' :: 'e' :: rest => (.word (.bool true), rest)
  | 'f' :: 'a' :: 'l' :: 's' :: 'e' :: rest => (.word (.bool false), rest)
  | '\x22' :: rest => (.quote, rest)
  | '[' :: rest => (.bracket, rest)
  | '\x7b' :: rest => (.brace, rest)
  | cs => (.other, cs)

/-- A value whose containers are nested at most `depth` deep, after leading blanks. -/
def value? : Nat → List Char → Option (Json × List Char)
  | depth, cs =>
    match lead (skip cs) with
    | (.word j, rest) => some (j, rest)
    | (.quote, rest) => (string? rest).map fun (s, rest) => (.str s, rest)
    | (.bracket, rest) =>
      match depth with
      | 0 => none
      | depth + 1 => (items? (value? depth) ']' rest).map fun (xs, rest) => (.arr xs, rest)
    | (.brace, rest) =>
      match depth with
      | 0 => none
      | depth + 1 =>
        (items? (memberOf? string? fun _ => value? depth) '\x7d' rest).map fun (ms, rest) => (.obj ms, rest)
    | (.other, rest) => number? rest

/-- The deepest nesting that is read. -/
def maxDepth : Nat := 127

/-- The value that bytes are, containers being nested at most `depth` deep. -/
def readBytes? (depth : Nat) (bytes : List UInt8) : Option Json :=
  match value? depth (Text.Utf8.octets bytes) with
  | some (j, rest) => if skip rest = [] then some j else none
  | none => none

/-- The value that a text is, containers being nested at most `depth` deep. -/
def readWithin? (depth : Nat) (s : String) : Option Json := readBytes? depth (Text.Utf8.encode s)

def read? (s : String) : Option Json := readWithin? maxDepth s

end Postern.Json
