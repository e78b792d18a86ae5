import Postern.Text.Encoding
import Postern.Yaml.Token

/-!
Tags, anchors and directives.  Escapes in a tag give bytes, each sequence of them as long as its first byte says;
a zero byte ends the tag.
-/

namespace Postern.Yaml

def endsAnchor (cs : List Char) : Bool :=
  atWhite cs || atChar (fun c => c = '?' || c = ':' || c = ',' || c = ']' || c = '\x7d' || c = '%' || c = '@'
    || c = '\x60') cs

def anchorName (c : Cursor) : Except Fault (List Char × Cursor) :=
  let (name, c) := (c.skip 1).takeWhile isWord
  if name ≠ [] ∧ endsAnchor c.rest then .ok (name, c) else .error .badAnchor

/-! ### Tags -/

/-- The characters of a tag; `verbatim` ones may hold commas and square brackets. -/
def isTagChar (verbatim : Bool) (c : Char) : Bool :=
  isWord c || c = ';' || c = '/' || c = '?' || c = ':' || c = '@' || c = '&' || c = '=' || c = '+' || c = '$'
    || c = '.' || c = '%' || c = '!' || c = '~' || c = '*' || c = '\x27' || c = '(' || c = ')'
    || (verbatim && (c = ',' || c = '[' || c = ']'))

def escapedByte? : List Char → Option (Nat × List Char)
  | '%' :: a :: b :: rest => (Text.numeral? 16 [a, b]).map (·, rest)
  | _ => none

/-- How many bytes a sequence has that starts with `lead`. -/
def sequenceWidth? (lead : Nat) : Option Nat :=
  if lead < 0x80 then some 1
  else if 0xC0 ≤ lead ∧ lead < 0xE0 then some 2
  else if 0xE0 ≤ lead ∧ lead < 0xF0 then some 3
  else if 0xF0 ≤ lead ∧ lead < 0xF8 then some 4
  else none

/-- As many escaped bytes as are wanted, each one a continuation. -/
def continuations? : Nat → List Char → Option (List UInt8)
  | 0, _ => some []
  | n + 1, cs =>
    match escapedByte? cs with
    | some (b, rest) =>
      if 0x80 ≤ b ∧ b < 0xC0 then (continuations? n rest).map (UInt8.ofNat b :: ·) else none
    | none => none

def escapedSequence? (cs : List Char) : Option (List UInt8) :=
  match escapedByte? cs with
  | some (lead, rest) =>
    match sequenceWidth? lead with
    | some (n + 1) => (continuations? n rest).map (UInt8.ofNat lead :: ·)
    | _ => none
  | none => none

/-- The bytes of a tag's characters, in at most `fuel` steps. -/
def tagBytes (verbatim : Bool) : Nat → Cursor → Except Fault (List UInt8 × Cursor)
  | 0, c => .ok ([], c)
  | fuel + 1, c =>
    match c.rest with
    | [] => .ok ([], c)
    | x :: _ =>
      if x = '%' then
        match escapedSequence? c.rest with
        | some bytes => do
          let (more, last) ← tagBytes verbatim fuel (c.skip (3 * bytes.length))
          return (bytes ++ more, last)
        | none => .error .badTag
      else if isTagChar verbatim x then do
        let (more, last) ← tagBytes verbatim fuel (c.skip 1)
        return (Text.Utf8.encodeChar x ++ more, last)
      else .ok ([], c)

/-- A tag's bytes up to a zero byte, and whether anything at all was written. -/
def tagText (verbatim : Bool) (c : Cursor) : Except Fault (List UInt8 × Bool × Cursor) := do
  let (bytes, last) ← tagBytes verbatim (c.rest.length + 1) c
  return (bytes.takeWhile (· ≠ 0), bytes ≠ [], last)

/-- An exclamation mark, word characters, and a second exclamation mark where there is one. -/
def tagHandle (c : Cursor) : List Char × Cursor :=
  let (word, c) := (c.skip 1).takeWhile isWord
  if atChar (· = '!') c.rest then ('!' :: word ++ ['!'], c.skip 1) else ('!' :: word, c)

/-- A tag, from its exclamation mark on.  The lone mark has an empty handle. -/
def tagToken (flow : Bool) (c : Cursor) : Except Fault (Token × Cursor) := do
  let (token, last) ←
    match c.rest with
    | _ :: '<' :: _ => do
      let (suffix, written, c) ← tagText true (c.skip 2)
      if written && atChar (· = '>') c.rest then pure (Token.tag [] suffix, c.skip 1)
      else throw .badTag
    | _ =>
      let (handle, next) := tagHandle c
      if 2 ≤ handle.length ∧ handle.getLast? = some '!' then do
        let (suffix, written, c) ← tagText false next
        if written then pure (Token.tag handle suffix, c) else throw .badTag
      else do
        let (more, _, c) ← tagText false next
        let suffix := (handle.drop 1).flatMap Text.Utf8.encodeChar ++ more
        pure (if suffix = [] then Token.tag [] [0x21] else Token.tag ['!'] suffix, c)
  if atWhite last.rest || (flow && atChar (· = ',') last.rest) then return (token, last) else throw .badTag

/-! ### Directives -/

def versionPart (c : Cursor) : Except Fault (Nat × Cursor) :=
  let (digits, c) := c.takeWhile Text.isDigit
  match Text.numeral? 10 digits with
  | some n => if digits.length ≤ 9 then .ok (n, c) else .error .badDirective
  | none => .error .badDirective

def versionToken (c : Cursor) : Except Fault (Token × Cursor) := do
  let (major, c) ← versionPart (c.skipWhile isBlank)
  if atChar (· = '.') c.rest then
    let (minor, c) ← versionPart (c.skip 1)
    return (.version major minor, c)
  else throw .badDirective

def handleToken (c : Cursor) : Except Fault (Token × Cursor) := do
  let c := c.skipWhile isBlank
  if !atChar (· = '!') c.rest then throw .badDirective
  let (handle, c) := tagHandle c
  if handle.getLast? ≠ some '!' || !atBlank c.rest then throw .badDirective
  let (start, written, c) ← tagText true (c.skipWhile isBlank)
  if written && atWhite c.rest then return (.tagHandle handle start, c) else throw .badDirective

/-- A directive, from its percent sign to the end of its line. -/
def directiveToken (c : Cursor) : Except Fault (Token × Cursor) := do
  let (name, c) := (c.skip 1).takeWhile isWord
  if !atWhite c.rest then throw .badDirective
  let (token, c) ←
    if name = ['Y', 'A', 'M', 'L'] then versionToken c
    else if name = ['T', 'A', 'G'] then handleToken c
    else throw .badDirective
  match c.endOfLine? with
  | some c => return (token, c)
  | none => throw .badDirective

end Postern.Yaml
