import Postern.Yaml.Token.Scalar
import Postern.Yaml.Token.Tag

/-!
The tokens of a whole text.  A key without an indicator is known as one only at the colon after it, so each place
where such a key may have begun is kept, innermost flow collection first, and its tokens are put in afterwards.
Outside of flow collections, indentation opens and closes blocks.
-/

namespace Postern.Yaml

/-- A place where a key may have begun, before the token of number `position`. -/
structure KeyPlace where
  position : Nat
  required : Bool
  index : Nat
  line : Nat
  column : Nat
  deriving Repr

/-- How far a text is read. -/
structure Lexer where
  cursor : Cursor
  /-- The tokens so far, the latest first. -/
  tokens : List Token
  /-- The indentation of the innermost block, `-1` outside of all. -/
  indent : Int
  /-- The indentation of the blocks around it. -/
  outerIndents : List Int
  /-- Where a key of the innermost flow collection, or of the block, may have begun. -/
  key : Option KeyPlace
  /-- The same for the collections around it; there is one for each open flow collection. -/
  outerKeys : List (Option KeyPlace)
  /-- Whether a key may begin here. -/
  keyAllowed : Bool
  deriving Repr

namespace Lexer

def start (cs : List Char) : Lexer := ⟨.start cs, [], -1, [], none, [], true⟩

def inFlow (l : Lexer) : Bool := l.outerKeys ≠ []

def emit (t : Token) (l : Lexer) : Lexer := { l with tokens := t :: l.tokens }

/-- Puts a token in before the token of number `position`. -/
def emitAt (position : Nat) (t : Token) (l : Lexer) : Lexer :=
  let after := l.tokens.length - position
  { l with tokens := l.tokens.take after ++ t :: l.tokens.drop after }

def take (n : Nat) (t : Token) (l : Lexer) : Lexer := { l.emit t with cursor := l.cursor.skip n }

/-! ### Keys -/

/-- Gives up the place where a key may have begun. -/
def dropKey (l : Lexer) : Except Fault Lexer :=
  if l.key.any (·.required) then .error .unfinishedKey else .ok { l with key := none }

/-- Notes that a key may begin here, where it may. -/
def noteKey (l : Lexer) : Except Fault Lexer := do
  if l.keyAllowed then
    let c := l.cursor
    let place := ⟨l.tokens.length, !l.inFlow && l.indent = c.column, c.index, c.line, c.column⟩
    return { ← l.dropKey with key := some place }
  else return l

/-- Whether a key that began at `p` has become too long: it takes one line and at most 1024 characters. -/
def isStale (c : Cursor) (p : KeyPlace) : Bool := p.line < c.line || p.index + 1024 < c.index

/-- A place of a key unless the key has become too long. -/
def fresh (c : Cursor) : Option KeyPlace → Except Fault (Option KeyPlace)
  | none => .ok none
  | some p =>
    if isStale c p then (if p.required then .error .unfinishedKey else .ok none) else .ok (some p)

/-- Gives up the places of keys that have become too long. -/
def dropStaleKeys (l : Lexer) : Except Fault Lexer := do
  let outer ← l.outerKeys.mapM (fresh l.cursor)
  return { l with key := ← fresh l.cursor l.key, outerKeys := outer }

/-! ### Blocks -/

/-- Opens a block at `column` where that is deeper than the innermost block; `insert` puts its token in. -/
def openBlock (column : Nat) (insert : Lexer → Lexer) (l : Lexer) : Lexer :=
  if !l.inFlow && decide (l.indent < column) then
    insert { l with indent := column, outerIndents := l.indent :: l.outerIndents }
  else l

/-- Closes the blocks that are deeper than `column`, those around the innermost one being `outer`. -/
def closeFrom (column : Int) : Int → List Int → List Token → Int × List Int × List Token
  | indent, [], tokens => (indent, [], tokens)
  | indent, i :: outer, tokens =>
    if column < indent then closeFrom column i outer (.blockEnd :: tokens) else (indent, i :: outer, tokens)

/-- Closes the blocks that are deeper than `column`. -/
def closeBlocks (column : Int) (l : Lexer) : Lexer :=
  if l.inFlow then l
  else
    let (indent, outer, tokens) := closeFrom column l.indent l.outerIndents l.tokens
    { l with indent := indent, outerIndents := outer, tokens := tokens }

/-! ### Between tokens -/

/-- Moves to the next token, past blanks, comments and line breaks, in at most `fuel` steps. -/
def skipSpace : Nat → Lexer → Lexer
  | 0, l => l
  | fuel + 1, l =>
    let c := l.cursor
    let c := if c.column = 0 && atChar (· = byteOrderMark) c.rest then c.skip 1 else c
    let c := c.skipWhile fun x => x = ' ' || ((l.inFlow || !l.keyAllowed) && x = '\t')
    let c := if atChar (· = '#') c.rest then c.skipWhile (!isBreak ·) else c
    if atBreak c.rest then
      skipSpace fuel { l with cursor := c.skipBreak, keyAllowed := l.keyAllowed || !l.inFlow }
    else { l with cursor := c }

/-! ### Single tokens -/

/-- A token that stands outside of all blocks. -/
def outermost (l : Lexer) : Except Fault Lexer := do
  return { ← (l.closeBlocks (-1)).dropKey with keyAllowed := false }

def directive (l : Lexer) : Except Fault Lexer := do
  let l ← l.outermost
  let (t, c) ← directiveToken l.cursor
  return { l.emit t with cursor := c }

def documentMark (t : Token) (l : Lexer) : Except Fault Lexer := do
  return (← l.outermost).take 3 t

def openFlow (t : Token) (l : Lexer) : Except Fault Lexer := do
  let l ← l.noteKey
  return { l with key := none, outerKeys := l.key :: l.outerKeys, keyAllowed := true }.take 1 t

def closeFlow (t : Token) (l : Lexer) : Except Fault Lexer := do
  let l ← l.dropKey
  match l.outerKeys with
  | key :: outer => return { l with key := key, outerKeys := outer, keyAllowed := false }.take 1 t
  | [] => return { l with keyAllowed := false }.take 1 t

/-- A comma between the entries of a flow collection. -/
def flowEntry (l : Lexer) : Except Fault Lexer := do
  return { ← l.dropKey with keyAllowed := true }.take 1 .flowEntry

def blockEntry (l : Lexer) : Except Fault Lexer := do
  if !l.inFlow && !l.keyAllowed then throw .entryNotAllowed
  let l ← (l.openBlock l.cursor.column (emit .blockSequenceStart)).dropKey
  return { l with keyAllowed := true }.take 1 .blockEntry

def explicitKey (l : Lexer) : Except Fault Lexer := do
  if !l.inFlow && !l.keyAllowed then throw .keyNotAllowed
  let l ← (l.openBlock l.cursor.column (emit .blockMappingStart)).dropKey
  return { l with keyAllowed := !l.inFlow }.take 1 .key

def value (l : Lexer) : Except Fault Lexer := do
  match l.key with
  | some p =>
    let l := (l.emitAt p.position .key).openBlock p.column (emitAt p.position .blockMappingStart)
    return { l with key := none, keyAllowed := false }.take 1 .value
  | none =>
    if !l.inFlow && !l.keyAllowed then throw .valueNotAllowed
    let l := l.openBlock l.cursor.column (emit .blockMappingStart)
    return { l with keyAllowed := !l.inFlow }.take 1 .value

/-- An alias or an anchor, made into a token by `make`. -/
def named (make : List Char → Token) (l : Lexer) : Except Fault Lexer := do
  let l ← l.noteKey
  let (name, c) ← anchorName l.cursor
  return { l.emit (make name) with cursor := c, keyAllowed := false }

def tag (l : Lexer) : Except Fault Lexer := do
  let l ← l.noteKey
  let (t, c) ← tagToken l.inFlow l.cursor
  return { l.emit t with cursor := c, keyAllowed := false }

def block (folded : Bool) (l : Lexer) : Except Fault Lexer := do
  let l ← l.dropKey
  let (text, c) ← blockScalar folded l.indent l.cursor
  return { l.emit (.scalar (if folded then .folded else .literal) text) with cursor := c, keyAllowed := true }

def quoted (single : Bool) (l : Lexer) : Except Fault Lexer := do
  let l ← l.noteKey
  let (text, c) ← quotedScalar single l.cursor
  let style := if single then Style.singleQuoted else Style.doubleQuoted
  return { l.emit (.scalar style text) with cursor := c, keyAllowed := false }

def plain (l : Lexer) : Except Fault Lexer := do
  let l ← l.noteKey
  let (text, broken, c) ← plainScalar l.inFlow (l.indent + 1) l.cursor
  return { l.emit (.scalar .plain text) with cursor := c, keyAllowed := broken }

/-- The characters with which no plain scalar begins. -/
def isIndicator (c : Char) : Bool :=
  isFlowMark c || c = '-' || c = '?' || c = ':' || c = '#' || c = '&' || c = '*' || c = '!' || c = '|' || c = '>'
    || c = '\x27' || c = '\x22' || c = '%' || c = '@' || c = '\x60'

def token (x : Char) (rest : List Char) (l : Lexer) : Except Fault Lexer :=
  if l.cursor.column = 0 && x = '%' then l.directive
  else if l.cursor.atDocumentMark then
    l.documentMark (if x = '-' then .documentStart else .documentEnd)
  else if x = '[' then l.openFlow .flowSequenceStart
  else if x = '\x7b' then l.openFlow .flowMappingStart
  else if x = ']' then l.closeFlow .flowSequenceEnd
  else if x = '\x7d' then l.closeFlow .flowMappingEnd
  else if x = ',' then l.flowEntry
  else if x = '-' && atWhite rest then l.blockEntry
  else if x = '?' && (l.inFlow || atWhite rest) then l.explicitKey
  else if x = ':' && (l.inFlow || atWhite rest) then l.value
  else if x = '*' then l.named .alias
  else if x = '&' then l.named .anchor
  else if x = '!' then l.tag
  else if (x = '|' || x = '>') && !l.inFlow then l.block (x = '>')
  else if x = '\x27' || x = '\x22' then l.quoted (x = '\x27')
  else if (!isWhite x && !isIndicator x) || (x = '-' && !atBlank rest)
      || (!l.inFlow && (x = '?' || x = ':') && !atWhite rest) then l.plain
  else .error .unexpectedCharacter

/-- Reads on to the end of the text, in at most `fuel` tokens. -/
def run : Nat → Lexer → Except Fault Lexer
  | 0, l => .ok l
  | fuel + 1, l => do
    let l ← (l.skipSpace (l.cursor.rest.length + 1)).dropStaleKeys
    let l := l.closeBlocks l.cursor.column
    match l.cursor.rest with
    | [] => l.outermost
    | x :: rest => run fuel (← l.token x rest)

end Lexer

def tokens (s : String) : Except Fault (List Token) :=
  let cs := s.toList
  if cs.all isAllowed then do
    let l ← (Lexer.start cs).run (cs.length + 1)
    return l.tokens.reverse
  else .error .controlCharacter

end Postern.Yaml
