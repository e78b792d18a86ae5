import Postern.Yaml.Token

/-!
Scalars: plain ones, those in quotes, and block scalars.  Line breaks inside a plain or quoted scalar are
folded: a single one becomes a space, of several the first is dropped.
-/

namespace Postern.Yaml

/-! ### Blanks between words -/

/-- White space between two words: the blanks of one line, or line breaks. -/
structure Gap where
  blanks : List Char
  broken : Bool
  first : Option Char
  more : List Char
  deriving Repr

namespace Gap

def none : Gap := ⟨[], false, .none, []⟩

/-- The gap after a line break that was escaped. -/
def escaped : Gap := ⟨[], true, .none, []⟩

/-- What a gap counts as between two words. -/
def folded (g : Gap) : List Char :=
  if g.broken then
    match g.first with
    | some c => if c = '\n' then (if g.more = [] then [' '] else g.more) else c :: g.more
    | .none => g.more
  else g.blanks

/-- Extends a gap by the white space that follows, in at most `fuel` steps.  Where `tabLimit` is a column, a
tab at the start of a line before it is a fault. -/
def extend (tabLimit : Option Int) : Nat → Gap → Cursor → Except Fault (Gap × Cursor)
  | 0, g, c => .ok (g, c)
  | fuel + 1, g, c =>
    match c.takeBreak? with
    | some (b, next) =>
      if g.broken then extend tabLimit fuel { g with more := g.more ++ [b] } next
      else extend tabLimit fuel { g with blanks := [], broken := true, first := some b } next
    | .none =>
      match c.rest with
      | b :: _ =>
        if isBlank b then
          let tabFault :=
            match tabLimit with
            | some column => g.broken && b = '\t' && decide ((c.column : Int) < column)
            | .none => false
          if tabFault then .error .tabInIndentation
          else if g.broken then extend tabLimit fuel g (c.skip 1)
          else extend tabLimit fuel { g with blanks := g.blanks ++ [b] } (c.skip 1)
        else .ok (g, c)
      | [] => .ok (g, c)

end Gap

/-! ### Plain scalars -/

def isFlowMark (c : Char) : Bool := c = ',' || c = '[' || c = ']' || c = '\x7b' || c = '\x7d'

def plainWord (flow : Bool) : List Char → Except Fault (List Char)
  | [] => .ok []
  | c :: rest =>
    if isWhite c then .ok []
    else if flow && c = ':' && atChar (fun d => isFlowMark d || d = '?') rest then .error .colonInFlow
    else if c = ':' && atWhite rest then .ok []
    else if flow && isFlowMark c then .ok []
    else
      match plainWord flow rest with
      | .ok w => .ok (c :: w)
      | .error e => .error e

/-- A plain scalar, what is read of it being `text` and `gap` the white space after that.  The result says
also whether a line break follows. -/
def plainFrom (flow : Bool) (indent : Int) :
    Nat → List Char → Gap → Cursor → Except Fault (List Char × Bool × Cursor)
  | 0, text, gap, c => .ok (text, gap.broken, c)
  | fuel + 1, text, gap, c =>
    if c.atDocumentMark || atChar (· = '#') c.rest then .ok (text, gap.broken, c)
    else
      match plainWord flow c.rest with
      | .error e => .error e
      | .ok [] => .ok (text, gap.broken, c)
      | .ok (w :: ws) =>
        let text := text ++ gap.folded ++ w :: ws
        let c := c.skip (ws.length + 1)
        match Gap.extend (some indent) (c.rest.length + 1) Gap.none c with
        | .error e => .error e
        | .ok (gap, next) =>
          if gap.blanks = [] && !gap.broken then .ok (text, false, next)
          else if !flow && decide ((next.column : Int) < indent) then .ok (text, gap.broken, next)
          else plainFrom flow indent fuel text gap next

/-- A plain scalar; its continuation lines are indented by at least `indent` outside of flow collections. -/
def plainScalar (flow : Bool) (indent : Int) (c : Cursor) : Except Fault (List Char × Bool × Cursor) :=
  plainFrom flow indent (c.rest.length + 1) [] Gap.none c

/-! ### Scalars in quotes -/

/-- The character that a letter after a backslash stands for. -/
def escapedChar? (c : Char) : Option Char :=
  if c = '0' then some (Char.ofNat 0)
  else if c = 'a' then some (Char.ofNat 7)
  else if c = 'b' then some (Char.ofNat 8)
  else if c = 't' ∨ c = '\t' then some '\t'
  else if c = 'n' then some '\n'
  else if c = 'v' then some (Char.ofNat 11)
  else if c = 'f' then some (Char.ofNat 12)
  else if c = 'r' then some '\r'
  else if c = 'e' then some (Char.ofNat 27)
  else if c = ' ' ∨ c = '\x22' ∨ c = '/' ∨ c = '\\' then some c
  else if c = 'N' then some (Char.ofNat 0x85)
  else if c = '_' then some (Char.ofNat 0xA0)
  else if c = 'L' then some (Char.ofNat 0x2028)
  else if c = 'P' then some (Char.ofNat 0x2029)
  else none

/-- How many hexadecimal digits follow a letter after a backslash. -/
def escapeWidth? (c : Char) : Option Nat :=
  if c = 'x' then some 2 else if c = 'u' then some 4 else if c = 'U' then some 8 else none

/-- The character of an escape without its backslash, and the number of characters that it takes. -/
def escape? : List Char → Option (Char × Nat)
  | [] => none
  | c :: rest =>
    match escapeWidth? c with
    | some w =>
      let digits := rest.take w
      if digits.length < w then none
      else
        match Text.numeral? 16 digits with
        | some n => if (0xD800 ≤ n ∧ n ≤ 0xDFFF) ∨ 0x10FFFF < n then none else some (Char.ofNat n, w + 1)
        | none => none
    | none => (escapedChar? c).map (·, 1)

/-- How one word inside quotes ends. -/
inductive WordEnd where
  | quote | white | escapedBreak
  deriving DecidableEq, Repr

/-- The characters of one word inside quotes, in at most `fuel` steps. -/
def quotedWord (single : Bool) : Nat → Cursor → Except Fault (List Char × WordEnd × Cursor)
  | 0, c => .ok ([], .white, c)
  | fuel + 1, c =>
    let more (x : Char) (next : Cursor) : Except Fault (List Char × WordEnd × Cursor) :=
      match quotedWord single fuel next with
      | .ok (w, e, last) => .ok (x :: w, e, last)
      | .error e => .error e
    match c.rest with
    | [] => .ok ([], .white, c)
    | x :: rest =>
      if isWhite x then .ok ([], .white, c)
      else if single && x = '\x27' && atChar (· = '\x27') rest then more '\x27' (c.skip 2)
      else if x = (if single then '\x27' else '\x22') then .ok ([], .quote, c)
      else if !single && x = '\\' && atBreak rest then .ok ([], .escapedBreak, (c.skip 1).skipBreak)
      else if !single && x = '\\' then
        match escape? rest with
        | some (y, n) => more y (c.skip (n + 1))
        | none => .error .badEscape
      else more x (c.skip 1)

/-- A scalar in quotes after the opening quote, what is read of it being `text`. -/
def quotedFrom (single : Bool) : Nat → List Char → Cursor → Except Fault (List Char × Cursor)
  | 0, _, _ => .error .unfinishedScalar
  | fuel + 1, text, c =>
    if c.atDocumentMark then .error .unfinishedScalar
    else if c.rest = [] then .error .unfinishedScalar
    else
      match quotedWord single (c.rest.length + 1) c with
      | .error e => .error e
      | .ok (w, wordEnd, next) =>
        let text := text ++ w
        if atChar (· = (if single then '\x27' else '\x22')) next.rest then .ok (text, next.skip 1)
        else
          let gap := if wordEnd = .escapedBreak then Gap.escaped else Gap.none
          match gap.extend none (next.rest.length + 1) next with
          | .error e => .error e
          | .ok (gap, last) => quotedFrom single fuel (text ++ gap.folded) last

def quotedScalar (single : Bool) (c : Cursor) : Except Fault (List Char × Cursor) :=
  quotedFrom single (c.rest.length + 1) [] (c.skip 1)

/-! ### Block scalars -/

/-- What becomes of the line breaks at the end of a block scalar. -/
inductive Chomping where
  | strip | clip | keep
  deriving DecidableEq, Repr

/-- The indicators after `|` or `>`: chomping and indentation, in either order. -/
def blockHeader (c : Cursor) : Except Fault (Chomping × Option Nat × Cursor) :=
  let chomping? (x : Char) : Option Chomping :=
    if x = '+' then some .keep else if x = '-' then some .strip else none
  let width? (x : Char) : Option Nat := if Text.isDigit x then some (x.toNat - '0'.toNat) else none
  match c.rest with
  | x :: rest =>
    match chomping? x with
    | some chomping =>
      match rest with
      | y :: _ =>
        match width? y with
        | some 0 => .error .badBlockHeader
        | some w => .ok (chomping, some w, c.skip 2)
        | none => .ok (chomping, none, c.skip 1)
      | [] => .ok (chomping, none, c.skip 1)
    | none =>
      match width? x with
      | some 0 => .error .badBlockHeader
      | some w =>
        match rest with
        | y :: _ =>
          match chomping? y with
          | some chomping => .ok (chomping, some w, c.skip 2)
          | none => .ok (.clip, some w, c.skip 1)
        | [] => .ok (.clip, some w, c.skip 1)
      | none => .ok (.clip, none, c)
  | [] => .ok (.clip, none, c)

/-- The line breaks before the next line with content, and the deepest indentation met on the way.  `indent` is
the indentation of the scalar where it is known. -/
def blockBreaks (indent : Option Nat) :
    Nat → List Char → Nat → Cursor → Except Fault (List Char × Nat × Cursor)
  | 0, breaks, deepest, c => .ok (breaks, deepest, c)
  | fuel + 1, breaks, deepest, c =>
    let spaces := c.rest.takeWhile (· = ' ')
    let n :=
      match indent with
      | some i => min spaces.length (i - c.column)
      | none => spaces.length
    let c := c.skip n
    let deepest := max deepest c.column
    let inside :=
      match indent with
      | some i => decide (c.column < i)
      | none => true
    if inside && atChar (· = '\t') c.rest then .error .tabInIndentation
    else
      match c.takeBreak? with
      | some (b, next) => blockBreaks indent fuel (breaks ++ [b]) deepest next
      | none => .ok (breaks, deepest, c)

/-- The lines of a block scalar.  `text` is what is read of it, `lastBreak` the break after that and `breaks`
the empty lines that follow; `wasBlank` says whether the last line began with a blank. -/
def blockLines (folded : Bool) (indent : Nat) :
    Nat → List Char → Bool → List Char → List Char → Cursor →
      Except Fault (List Char × List Char × List Char × Cursor)
  | 0, text, _, lastBreak, breaks, c => .ok (text, lastBreak, breaks, c)
  | fuel + 1, text, wasBlank, lastBreak, breaks, c =>
    if c.column ≠ indent ∨ c.rest = [] then .ok (text, lastBreak, breaks, c)
    else
      let blank := atBlank c.rest
      let joint :=
        if folded && lastBreak = ['\n'] && !wasBlank && !blank then
          (if breaks = [] then [' '] else [])
        else lastBreak
      let (line, c) := c.takeWhile (!isBreak ·)
      let (lastBreak, c) :=
        match c.takeBreak? with
        | some (b, next) => ([b], next)
        | none => ([], c)
      match blockBreaks (some indent) (c.rest.length + 1) [] 0 c with
      | .error e => .error e
      | .ok (more, _, next) =>
        blockLines folded indent fuel (text ++ joint ++ breaks ++ line) blank lastBreak more next

/-- A block scalar, from its indicator on, inside a block indented by `outer`. -/
def blockScalar (folded : Bool) (outer : Int) (c : Cursor) : Except Fault (List Char × Cursor) :=
  match blockHeader (c.skip 1) with
  | .error e => .error e
  | .ok (chomping, width, c) =>
    match c.endOfLine? with
    | none => .error .badBlockHeader
    | some c =>
      let given := width.map fun w => if 0 ≤ outer then outer.toNat + w else w
      match blockBreaks given (c.rest.length + 1) [] 0 c with
      | .error e => .error e
      | .ok (breaks, deepest, c) =>
        let indent := given.getD (max deepest (max (outer + 1).toNat 1))
        match blockLines folded indent (c.rest.length + 1) [] false [] breaks c with
        | .error e => .error e
        | .ok (text, lastBreak, breaks, c) =>
          let tail :=
            match chomping with
            | .strip => []
            | .clip => lastBreak
            | .keep => lastBreak ++ breaks
          .ok (text ++ tail, c)

end Postern.Yaml
