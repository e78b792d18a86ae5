import Postern.Text.Fields
import Postern.Text.Number

/-!
Encodings of text: UTF-8, base64 with the URL-safe alphabet and without padding, percent escapes, and query strings in
the `application/x-www-form-urlencoded` format.
-/

namespace Postern.Text.Utf8

/-! ### UTF-8

`encode` writes, `decode?` reads well-formed input only, and `decodeLossy` reads any bytes, putting U+FFFD for each
longest run of bytes that could still have begun a character. -/

def encodeChar (c : Char) : List UInt8 :=
  let n := c.toNat
  if n < 0x80 then [UInt8.ofNat n]
  else if n < 0x800 then [UInt8.ofNat (0xC0 + n / 0x40), UInt8.ofNat (0x80 + n % 0x40)]
  else if n < 0x10000 then
    [UInt8.ofNat (0xE0 + n / 0x1000), UInt8.ofNat (0x80 + n / 0x40 % 0x40), UInt8.ofNat (0x80 + n % 0x40)]
  else
    [UInt8.ofNat (0xF0 + n / 0x40000), UInt8.ofNat (0x80 + n / 0x1000 % 0x40),
      UInt8.ofNat (0x80 + n / 0x40 % 0x40), UInt8.ofNat (0x80 + n % 0x40)]

def encode (s : String) : List UInt8 := s.toList.flatMap encodeChar

def isCont (b : UInt8) : Bool := 0x80 ≤ b.toNat && b.toNat < 0xC0

/-- Whether `b` may follow the lead byte `lead`: no overlong form, no surrogate, nothing above U+10FFFF. -/
def canFollow (lead b : UInt8) : Bool :=
  isCont b && (lead.toNat != 0xE0 || 0xA0 ≤ b.toNat) && (lead.toNat != 0xED || b.toNat < 0xA0)
    && (lead.toNat != 0xF0 || 0x90 ≤ b.toNat) && (lead.toNat != 0xF4 || b.toNat < 0x90)

def payload (b : UInt8) : Nat := b.toNat - 0x80

/-- Takes one character off a byte sequence.  The character is missing where the bytes taken begin none. -/
def next : List UInt8 → Option (Option Char × List UInt8)
  | [] => none
  | a :: rest =>
    let n := a.toNat
    if n < 0x80 then some (some (Char.ofNat n), rest)
    else if n < 0xC2 ∨ 0xF5 ≤ n then some (none, rest)
    else
      match rest with
      | [] => some (none, [])
      | b :: rest₁ =>
        if !canFollow a b then some (none, b :: rest₁)
        else if n < 0xE0 then some (some (Char.ofNat ((n - 0xC0) * 0x40 + payload b)), rest₁)
        else
          match rest₁ with
          | [] => some (none, [])
          | c :: rest₂ =>
            if !isCont c then some (none, c :: rest₂)
            else if n < 0xF0 then
              some (some (Char.ofNat ((n - 0xE0) * 0x1000 + payload b * 0x40 + payload c)), rest₂)
            else
              match rest₂ with
              | [] => some (none, [])
              | d :: rest₃ =>
                if !isCont d then some (none, d :: rest₃)
                else
                  some (some (Char.ofNat
                    ((n - 0xF0) * 0x40000 + payload b * 0x1000 + payload c * 0x40 + payload d)), rest₃)

/-- The characters of at most `fuel` steps; `none` stands for bytes that begin no character. -/
def scan : Nat → List UInt8 → List (Option Char)
  | 0, _ => []
  | fuel + 1, bs =>
    match next bs with
    | none => []
    | some (c, rest) => c :: scan fuel rest

/-- The text of well-formed bytes. -/
def decode? (bs : List UInt8) : Option String :=
  ((scan bs.length bs).mapM id).map String.ofList

/-- The text of any bytes, with U+FFFD where they are not well formed. -/
def decodeLossy (bs : List UInt8) : String :=
  String.ofList ((scan bs.length bs).map (·.getD (Char.ofNat 0xFFFD)))

def byteOf (c : Char) : UInt8 := UInt8.ofNat c.toNat

def octets (bs : List UInt8) : List Char := bs.map fun b => Char.ofNat b.toNat

def ofOctets (cs : List Char) : List UInt8 := cs.map byteOf

def size (s : String) : Nat := (encode s).length

end Postern.Text.Utf8

namespace Postern.Text.Base64

/-! ### Base64

The reader is strict: it refuses padding, characters outside the alphabet, a single left-over character, and left-over
bits that are not zero. -/

/-- The character of a six-bit value. -/
def digit (n : Nat) : Char :=
  if n < 26 then Char.ofNat (0x41 + n)
  else if n < 52 then Char.ofNat (0x61 + (n - 26))
  else if n < 62 then Char.ofNat (0x30 + (n - 52))
  else if n = 62 then '-'
  else '_'

def value? (c : Char) : Option Nat :=
  if 'A' ≤ c ∧ c ≤ 'Z' then some (c.toNat - 0x41)
  else if 'a' ≤ c ∧ c ≤ 'z' then some (c.toNat - 0x61 + 26)
  else if '0' ≤ c ∧ c ≤ '9' then some (c.toNat - 0x30 + 52)
  else if c = '-' then some 62
  else if c = '_' then some 63
  else none

/-- Bytes as text, three bytes to four characters. -/
def encode : List UInt8 → List Char
  | [] => []
  | [a] => [digit (a.toNat / 4), digit (a.toNat % 4 * 16)]
  | [a, b] =>
    [digit (a.toNat / 4), digit (a.toNat % 4 * 16 + b.toNat / 16), digit (b.toNat % 16 * 4)]
  | a :: b :: c :: rest =>
    digit (a.toNat / 4) :: digit (a.toNat % 4 * 16 + b.toNat / 16)
      :: digit (b.toNat % 16 * 4 + c.toNat / 64) :: digit (c.toNat % 64) :: encode rest

/-- Bytes of six-bit values, four values to three bytes. -/
def bytes? : List Nat → Option (List UInt8)
  | [] => some []
  | [_] => none
  | [p, q] => if q % 16 = 0 then some [UInt8.ofNat (p * 4 + q / 16)] else none
  | [p, q, r] =>
    if r % 4 = 0 then some [UInt8.ofNat (p * 4 + q / 16), UInt8.ofNat (q % 16 * 16 + r / 4)] else none
  | p :: q :: r :: s :: rest =>
    (bytes? rest).map fun bs =>
      UInt8.ofNat (p * 4 + q / 16) :: UInt8.ofNat (q % 16 * 16 + r / 4) :: UInt8.ofNat (r % 4 * 64 + s) :: bs

def decode? (cs : List Char) : Option (List UInt8) := (cs.mapM value?).bind bytes?

end Postern.Text.Base64

namespace Postern.Text.Percent

/-! ### Percent escapes

A byte is written `%` and two hexadecimal digits; reading leaves an escape that is not followed by two such digits as
it stands. -/

/-- The upper-case hexadecimal digit of a number below sixteen. -/
def hexDigit (n : Nat) : Char := Char.ofNat (if n < 10 then 0x30 + n else 0x37 + n)

def escape (b : UInt8) : List Char := ['%', hexDigit (b.toNat / 16), hexDigit (b.toNat % 16)]

/-- The byte whose hexadecimal digits are the ASCII bytes `hi` and `lo`. -/
def unescape? (hi lo : UInt8) : Option UInt8 :=
  match digitValue? (Char.ofNat hi.toNat), digitValue? (Char.ofNat lo.toNat) with
  | some h, some l => some (UInt8.ofNat (h * 16 + l))
  | _, _ => none

/-- Bytes with their percent escapes read. -/
def decode : List UInt8 → List UInt8
  | [] => []
  | [a] => [a]
  | [a, b] => [a, b]
  | a :: b :: c :: rest =>
    if a = 0x25 then
      match unescape? b c with
      | some x => x :: decode rest
      | none => a :: decode (b :: c :: rest)
    else a :: decode (b :: c :: rest)

/-- A text with every byte escaped for which `keep` does not hold. -/
def encode (keep : Char → Bool) (s : String) : List Char :=
  s.toList.flatMap fun c => if keep c then [c] else (Utf8.encodeChar c).flatMap escape

end Postern.Text.Percent

namespace Postern.Text.Form

/-! ### Queries

Pairs are joined by `&`, name and value separated by the first `=`, a blank written `+`, and every other byte outside a
small set percent-escaped. -/

def isPlain (c : Char) : Bool :=
  isDigit c || isLetter c || c = '*' || c = '-' || c = '.' || c = '_'

/-- One character of a name or value as it is written. -/
def encodeChar (c : Char) : List Char :=
  if c = ' ' then ['+'] else if isPlain c then [c] else (Utf8.encodeChar c).flatMap Percent.escape

def encodePart (s : String) : List Char := s.toList.flatMap encodeChar

def encodePair (p : String × String) : List Char := encodePart p.1 ++ '=' :: encodePart p.2

def encode (ps : List (String × String)) : String := String.ofList (joined '&' (ps.map encodePair))

/-- Text of a name or a value: `+` is a blank, then percent escapes, then UTF-8 with replacement. -/
def decodePart (cs : List Char) : String :=
  let bytes := (Utf8.encode (String.ofList cs)).map fun b => if b = 0x2B then 0x20 else b
  Utf8.decodeLossy (Percent.decode bytes)

/-- The pair that one piece of a query string stands for; without `=` the value is empty. -/
def decodePair (cs : List Char) : String × String :=
  (decodePart (cs.takeWhile (· ≠ '=')), decodePart ((cs.dropWhile (· ≠ '=')).drop 1))

/-- The pairs of a query string, empty pieces skipped. -/
def decode (query : String) : List (String × String) :=
  ((fields '&' query.toList).filter (· ≠ [])).map decodePair

end Postern.Text.Form
