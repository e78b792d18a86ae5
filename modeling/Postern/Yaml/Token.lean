import Postern.Text.Number

/-!
The tokens of a YAML text, the classes of characters that they are made of, what can be wrong with a text, and places
in it.
-/

namespace Postern.Yaml

/-! ### Characters -/

def isAllowed (c : Char) : Bool :=
  let n := c.toNat
  n = 0x09 || n = 0x0A || n = 0x0D || (0x20 ≤ n && n ≤ 0x7E) || n = 0x85 || (0xA0 ≤ n && n ≤ 0xD7FF)
    || (0xE000 ≤ n && n ≤ 0xFFFD) || 0x10000 ≤ n

def isBreak (c : Char) : Bool :=
  c = '\n' || c = '\r' || c.toNat = 0x85 || c.toNat = 0x2028 || c.toNat = 0x2029

def isBlank (c : Char) : Bool := c = ' ' || c = '\t'

def isWhite (c : Char) : Bool := isBlank c || isBreak c

def isWord (c : Char) : Bool := Text.isDigit c || Text.isLetter c || c = '-' || c = '_'

/-- The mark that may stand at the start of a line without being part of it. -/
def byteOrderMark : Char := Char.ofNat 0xFEFF

/-- Whether a text is at its end or begins with a space, a tab or a line break. -/
def atWhite : List Char → Bool
  | [] => true
  | c :: _ => isWhite c

def atBlank : List Char → Bool
  | [] => false
  | c :: _ => isBlank c

def atBreak : List Char → Bool
  | [] => false
  | c :: _ => isBreak c

def atChar (p : Char → Bool) : List Char → Bool
  | [] => false
  | c :: _ => p c

def atDocumentMark : List Char → Bool
  | '-' :: '-' :: '-' :: rest => atWhite rest
  | '.' :: '.' :: '.' :: rest => atWhite rest
  | _ => false

/-! ### Faults -/

/-- What is wrong with a text. -/
inductive Fault where
  | controlCharacter
  | unexpectedCharacter
  | unfinishedKey
  | entryNotAllowed
  | keyNotAllowed
  | valueNotAllowed
  | badDirective
  | badAnchor
  | badTag
  | badEscape
  | unfinishedScalar
  | badBlockHeader
  | tabInIndentation
  | colonInFlow
  | unexpectedToken
  | repeatedDirective
  | wrongVersion
  | unknownTagHandle
  | unknownAlias
  | severalDocuments
  | tooDeep
  | tooManyAliases
  | repeatedKey
  | badScalar
  deriving DecidableEq, Repr

/-- What is said about a fault.  Each text stands for what a reader of YAML says itself, which often adds the line and
the column, or says more of what it was about to read. -/
def Fault.message : Fault → String
  | .controlCharacter => "control characters are not allowed"
  | .unexpectedCharacter => "found character that cannot start any token"
  | .unfinishedKey => "could not find expected ':'"
  | .entryNotAllowed => "block sequence entries are not allowed in this context"
  | .keyNotAllowed => "mapping keys are not allowed in this context"
  | .valueNotAllowed => "mapping values are not allowed in this context"
  | .badDirective => "malformed directive"
  | .badAnchor => "did not find expected alphabetic or numeric character"
  | .badTag => "malformed tag"
  | .badEscape => "malformed escape sequence"
  | .unfinishedScalar => "found unexpected end of stream"
  | .badBlockHeader => "did not find expected comment or line break"
  | .tabInIndentation => "found a tab character where an indentation space is expected"
  | .colonInFlow => "found unexpected ':'"
  | .unexpectedToken => "did not find expected node content"
  | .repeatedDirective => "found duplicate directive"
  | .wrongVersion => "found incompatible YAML document"
  | .unknownTagHandle => "found undefined tag handle"
  | .unknownAlias => "unknown anchor"
  | .severalDocuments => "deserializing from YAML containing more than one document is not supported"
  | .tooDeep => "recursion limit exceeded"
  | .tooManyAliases => "repetition limit exceeded"
  | .repeatedKey => "duplicate entry"
  | .badScalar => "scalar does not match its tag"

/-! ### Tokens -/

/-- How a scalar is written. -/
inductive Style where
  | plain | singleQuoted | doubleQuoted | literal | folded
  deriving DecidableEq, Repr

/-- A token.  Suffixes and prefixes of tags are bytes, since escapes in them need not make up characters. -/
inductive Token where
  | version (major minor : Nat)
  | tagHandle (handle : List Char) (start : List UInt8)
  | documentStart
  | documentEnd
  | blockSequenceStart
  | blockMappingStart
  | blockEnd
  | flowSequenceStart
  | flowSequenceEnd
  | flowMappingStart
  | flowMappingEnd
  | blockEntry
  | flowEntry
  | key
  | value
  | alias (name : List Char)
  | anchor (name : List Char)
  | tag (handle : List Char) (suffix : List UInt8)
  | scalar (style : Style) (text : List Char)
  deriving DecidableEq, Repr

/-! ### Places -/

/-- A place in a text. -/
structure Cursor where
  rest : List Char
  index : Nat
  line : Nat
  column : Nat
  deriving Repr

namespace Cursor

def start (cs : List Char) : Cursor := ⟨cs, 0, 0, 0⟩

/-- The place `n` characters further on the same line. -/
def skip (n : Nat) (c : Cursor) : Cursor := ⟨c.rest.drop n, c.index + n, c.line, c.column + n⟩

/-- The characters on this line from here that satisfy `p`, and the place after them. -/
def takeWhile (p : Char → Bool) (c : Cursor) : List Char × Cursor :=
  let taken := c.rest.takeWhile p
  (taken, c.skip taken.length)

/-- The place after the characters that satisfy `p`. -/
def skipWhile (p : Char → Bool) (c : Cursor) : Cursor := (c.takeWhile p).2

/-- A line break as it counts in a scalar, and the start of the next line. -/
def takeBreak? (c : Cursor) : Option (Char × Cursor) :=
  match c.rest with
  | '\r' :: '\n' :: rest => some ('\n', ⟨rest, c.index + 2, c.line + 1, 0⟩)
  | b :: rest =>
    if isBreak b then
      let counted := if b.toNat = 0x2028 ∨ b.toNat = 0x2029 then b else '\n'
      some (counted, ⟨rest, c.index + 1, c.line + 1, 0⟩)
    else none
  | [] => none

/-- The start of the next line, where a line break is here. -/
def skipBreak (c : Cursor) : Cursor :=
  match c.takeBreak? with
  | some (_, next) => next
  | none => c

/-- The place after blanks and a comment, which must be the end of the line. -/
def endOfLine? (c : Cursor) : Option Cursor :=
  let c := c.skipWhile isBlank
  let c := if atChar (· = '#') c.rest then c.skipWhile (!isBreak ·) else c
  if c.rest = [] ∨ atBreak c.rest then some c.skipBreak else none

def atDocumentMark (c : Cursor) : Bool := c.column = 0 && Yaml.atDocumentMark c.rest

end Cursor

end Postern.Yaml
