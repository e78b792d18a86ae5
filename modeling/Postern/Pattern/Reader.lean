import Postern.Pattern.Basic

/-!
Reading patterns.  Groups may carry a name or flags; flags set by a group of their own hold to the end of the group
around them.  A closing brace or bracket that closes nothing stands for itself, an opening brace never does.  There are
no references to earlier groups and no looking ahead or behind.
-/

namespace Postern.Pattern

/-- What flags say: ignore case, let `^` and `$` match at lines, let the point match line feeds, swap greed, know
all scripts, ignore blanks in the pattern, and count a carriage return with a line feed as an end of line. -/
structure Flags where
  ignoreCase : Bool
  multiLine : Bool
  dotAll : Bool
  swapGreed : Bool
  unicode : Bool
  extended : Bool
  crlf : Bool
  deriving DecidableEq, Repr

def Flags.start : Flags := ⟨false, false, false, false, true, false, false⟩

def Flags.set? (f : Flags) (letter : Char) (on : Bool) : Option Flags :=
  if letter = 'i' then some { f with ignoreCase := on }
  else if letter = 'm' then some { f with multiLine := on }
  else if letter = 's' then some { f with dotAll := on }
  else if letter = 'U' then some { f with swapGreed := on }
  else if letter = 'u' then some { f with unicode := on }
  else if letter = 'x' then some { f with extended := on }
  else if letter = 'R' then some { f with crlf := on }
  else none

def Flags.caseRule (f : Flags) : CaseRule :=
  if !f.ignoreCase then .exact else if f.unicode then .unicode else .ascii

/-- Whether a character can be told from bytes: without Unicode only those in ASCII can. -/
def Flags.admits (f : Flags) (c : Char) : Bool := f.unicode || c.toNat < 0x80

def Flags.word (f : Flags) : ClassName := if f.unicode then .word else .asciiWord

/-- How far a pattern is read. -/
structure Source where
  rest : List Char
  flags : Flags
  /-- The names of the groups so far. -/
  names : List (List Char)
  deriving Repr

namespace Source

def drop (n : Nat) (s : Source) : Source := { s with rest := s.rest.drop n }

def afterComment (cs : List Char) : List Char := (cs.dropWhile (· ≠ '\n')).drop 1

/-- Text without blanks and comments at its front, in at most `fuel` steps. -/
def skipFrom : Nat → List Char → List Char
  | 0, cs => cs
  | fuel + 1, cs =>
    match cs with
    | [] => []
    | c :: rest =>
      if Text.isBlank c then skipFrom fuel rest
      else if c = '#' then skipFrom fuel (afterComment rest)
      else c :: rest

/-- The source after blanks and comments, where flags say that they do not count. -/
def skip (s : Source) : Source :=
  if s.flags.extended then { s with rest := skipFrom (s.rest.length + 1) s.rest } else s

/-- The source after its next `n` characters and the blanks that follow. -/
def next (n : Nat) (s : Source) : Source := (s.drop n).skip

end Source

/-! ### Escapes -/

/-- What a single piece of a pattern is: a character, a named class, a property, or an assertion.  A named class holds
all cases of its characters already, and a property need not. -/
inductive Piece where
  | literal (c : Char)
  | named (name : ClassName) (negated : Bool)
  | property (p : Property) (negated : Bool)
  | assertion (a : Assertion)
  deriving Repr

/-- The character of a number, which is no surrogate. -/
def charOf? (n : Nat) : Option Char :=
  if (0xD800 ≤ n ∧ n ≤ 0xDFFF) ∨ 0x10FFFF < n then none else some (Char.ofNat n)

/-- Characters up to the brace that closes them, all of which are admitted, in at most `fuel` steps. -/
def braced (admits : Char → Bool) : Nat → Source → Option (List Char × Source)
  | 0, _ => none
  | fuel + 1, s =>
    match s.rest with
    | [] => none
    | c :: _ =>
      if c = '\x7d' then some ([], s.drop 1)
      else if admits c then (braced admits fuel (s.next 1)).map fun (cs, s) => (c :: cs, s)
      else none

def fixedDigits : Nat → Source → Option (List Char × Source)
  | 0, s => some ([], s)
  | n + 1, s =>
    match s.rest with
    | [] => none
    | c :: _ =>
      if Text.isHexDigit c then
        (fixedDigits n (if n = 0 then s.drop 1 else s.next 1)).map fun (ds, s) => (c :: ds, s)
      else none

/-- The character of a hexadecimal escape, after its letter: so many digits, or digits between braces. -/
def hexEscape? (width : Nat) (s : Source) : Option (Char × Source) :=
  let digits :=
    match s.rest with
    | '\x7b' :: _ => braced Text.isHexDigit (s.rest.length + 1) (s.next 1)
    | _ => fixedDigits width s
  match digits with
  | some (ds, s) => ((Text.numeral? 16 ds).bind charOf?).map (·, s)
  | none => none

/-- The character of an escape by two digits, which without Unicode stands for a byte, or by digits between braces. -/
def byteEscape? (s : Source) : Option (Char × Source) :=
  match s.rest with
  | '\x7b' :: _ => hexEscape? 2 s
  | _ => (hexEscape? 2 s).filter (s.flags.admits ·.1)

/-- Whether a character may be escaped to stand for itself: any in ASCII that is no letter, digit or angle. -/
def isEscapable (c : Char) : Bool :=
  c.toNat < 0x80 && !Text.isDigit c && !Text.isLetter c && c ≠ '<' && c ≠ '>'

def isBoundaryLetter (c : Char) : Bool := Text.isLetter c || c = '-'

/-- A word boundary after its letter, perhaps with a name between braces. -/
def boundary? (s : Source) : Option (Piece × Source) :=
  let w := s.flags.word
  match s.rest with
  | '\x7b' :: _ =>
    let inner := s.next 1
    match inner.rest with
    | [] => none
    | c :: _ =>
      if isBoundaryLetter c then
        match braced isBoundaryLetter (inner.rest.length + 1) inner with
        | none => none
        | some (cs, s) =>
          let name := String.ofList cs
          if name = "start" then some (.assertion (.wordStart w), s)
          else if name = "end" then some (.assertion (.wordEnd w), s)
          else if name = "start-half" then some (.assertion (.wordStartHalf w), s)
          else if name = "end-half" then some (.assertion (.wordEndHalf w), s)
          else none
      else some (.assertion (.boundary w), s)
  | _ => some (.assertion (.boundary w), s)

/-- A class named by a letter.  Without Unicode its complement would hold pieces of characters. -/
def namedClass? (s : Source) (wide narrow : ClassName) (negated : Bool) : Option (Piece × Source) :=
  if s.flags.unicode then some (.named wide negated, s)
  else if negated then none
  else some (.named narrow false, s)

/-- A property after its letter: named by one more letter, or between braces. -/
def property? (s : Source) (negated : Bool) : Option (Piece × Source) :=
  if !s.flags.unicode then none
  else
    match s.rest with
    | [] => none
    | '\x7b' :: _ =>
      match braced (fun _ => true) (s.rest.length + 1) (s.next 1) with
      | some (name, s) => (Property.ofText? name).map fun (p, without) => (.property p (negated != without), s)
      | none => none
    | c :: _ => (Property.named? [c]).map fun p => (.property p negated, s.next 1)

def escape? (s : Source) : Option (Piece × Source) :=
  match s.rest with
  | [] => none
  | c :: _ =>
    let t := s.drop 1
    if c = 'x' then (byteEscape? (s.next 1)).map fun (d, s) => (.literal d, s)
    else if c = 'u' then (hexEscape? 4 (s.next 1)).map fun (d, s) => (.literal d, s)
    else if c = 'U' then (hexEscape? 8 (s.next 1)).map fun (d, s) => (.literal d, s)
    else if c = 'd' then namedClass? t .digit .asciiDigit false
    else if c = 'D' then namedClass? t .digit .asciiDigit true
    else if c = 's' then namedClass? t .space .asciiSpace false
    else if c = 'S' then namedClass? t .space .asciiSpace true
    else if c = 'w' then namedClass? t .word .asciiWord false
    else if c = 'W' then namedClass? t .word .asciiWord true
    else if c = 'p' then property? (s.next 1) false
    else if c = 'P' then property? (s.next 1) true
    else if isEscapable c then some (.literal c, t)
    else if c = 'a' then some (.literal (Char.ofNat 7), t)
    else if c = 'f' then some (.literal (Char.ofNat 12), t)
    else if c = 't' then some (.literal '\t', t)
    else if c = 'n' then some (.literal '\n', t)
    else if c = 'r' then some (.literal '\r', t)
    else if c = 'v' then some (.literal (Char.ofNat 11), t)
    else if c = 'A' then some (.assertion .textStart, t)
    else if c = 'z' then some (.assertion .textEnd, t)
    else if c = 'b' then boundary? t
    else if c = 'B' then some (.assertion (.noBoundary s.flags.word), t)
    else if c = '<' then some (.assertion (.wordStart s.flags.word), t)
    else if c = '>' then some (.assertion (.wordEnd s.flags.word), t)
    else none

/-! ### Bracketed sets -/

def className? (name : List Char) : Option ClassName :=
  let name := String.ofList name
  if name = "alnum" then some .alnum
  else if name = "alpha" then some .alpha
  else if name = "ascii" then some .ascii
  else if name = "blank" then some .blank
  else if name = "cntrl" then some .cntrl
  else if name = "digit" then some .asciiDigit
  else if name = "graph" then some .graph
  else if name = "lower" then some .lower
  else if name = "print" then some .print
  else if name = "punct" then some .punct
  else if name = "space" then some .asciiSpace
  else if name = "upper" then some .upper
  else if name = "word" then some .asciiWord
  else if name = "xdigit" then some .xdigit
  else none

/-- A class written `[:name:]`, or `[:^name:]` for all but it, which holds nothing that differs from one of its
characters only in case. -/
def colonClass? (s : Source) : Option (CharSet × Source) :=
  match s.rest with
  | '[' :: ':' :: rest =>
    let (negated, rest) :=
      match rest with
      | '^' :: rest => (true, rest)
      | rest => (false, rest)
    let name := rest.takeWhile (· ≠ ':')
    match rest.drop name.length with
    | ':' :: ']' :: rest =>
      (className? name).map fun n =>
        (if negated then .bracket true (.named n false) else .named n false, { s with rest := rest })
    | _ => none
  | _ => none

def Piece.admitted (f : Flags) : Piece → Bool
  | .literal c => f.admits c
  | _ => true

/-- One end of a range, or a class. -/
def setPiece? (s : Source) : Option (Piece × Source) :=
  match s.rest with
  | [] => none
  | c :: _ =>
    let piece := if c = '\\' then escape? (s.drop 1) else some (.literal c, s.drop 1)
    piece.filter fun (p, _) => p.admitted s.flags

def Piece.set? : Piece → Option CharSet
  | .literal c => some (.range c c)
  | .named name negated => some (.named name negated)
  | .property p negated => some (.bracket negated (.named (.property p) false))
  | .assertion _ => none

def setRange? (s : Source) : Option (CharSet × Source) :=
  match setPiece? s with
  | none => none
  | some (first, s) =>
    let s := s.skip
    match s.rest with
    | [] => none
    | c :: _ =>
      let after := (s.next 1).rest.head?
      if c ≠ '-' ∨ after = some ']' ∨ after = some '-' then first.set?.map (·, s)
      else
        match setPiece? (s.next 1) with
        | some (.literal hi, s) =>
          match first with
          | .literal lo => if lo ≤ hi then some (.range lo hi, s) else none
          | _ => none
        | _ => none

def setOp? : List Char → Option SetOp
  | '&' :: '&' :: _ => some .intersection
  | '-' :: '-' :: _ => some .difference
  | '~' :: '~' :: _ => some .symmetricDifference
  | _ => none

def unite : List CharSet → CharSet
  | [s] => s
  | ss => .union ss

/-- What stands before an operation, combined with the sets after it. -/
def combined (left : Option (SetOp × CharSet)) (sets : List CharSet) : CharSet :=
  match left with
  | some (op, set) => .combine op set (unite sets)
  | none => unite sets

/-- The dashes that a set begins with, which stand for themselves. -/
def leadingDashes : Nat → Source → List CharSet × Source
  | 0, s => ([], s)
  | fuel + 1, s =>
    match s.rest with
    | '-' :: _ =>
      let (ss, s) := leadingDashes fuel (s.next 1)
      (.range '-' '-' :: ss, s)
    | _ => ([], s)

/-- The start of a set after its bracket: whether it is negated, and the dashes or the bracket that stand for
themselves there. -/
def setStart (s : Source) : Bool × List CharSet × Source :=
  let s := s.skip
  let (negated, s) :=
    match s.rest with
    | '^' :: _ => (true, s.next 1)
    | _ => (false, s)
  let (dashes, s) := leadingDashes (s.rest.length + 1) s
  match dashes, s.rest with
  | [], ']' :: _ => (negated, [.range ']' ']'], s.next 1)
  | _, _ => (negated, dashes, s)

/-- The rest of a set, up to the bracket that closes it, in at most `fuel` steps. -/
def setRest? : Nat → Bool → Option (SetOp × CharSet) → List CharSet → Source → Option (CharSet × Source)
  | 0, _, _, _, _ => none
  | fuel + 1, negated, left, sets, s =>
    let s := s.skip
    match s.rest with
    | [] => none
    | c :: _ =>
      if c = ']' then
        if negated && !s.flags.unicode then none
        else some (.bracket negated (combined left sets), s.drop 1)
      else if c = '[' then
        match colonClass? s with
        | some (set, t) =>
          if set.isNegated && !s.flags.unicode then none else setRest? fuel negated left (sets ++ [set]) t
        | none =>
          let (inner, start, t) := setStart (s.drop 1)
          match setRest? fuel inner none start t with
          | some (set, s) => setRest? fuel negated left (sets ++ [set]) s
          | none => none
      else
        match setOp? s.rest with
        | some op => setRest? fuel negated (some (op, combined left sets)) [] (s.drop 2)
        | none =>
          match setRange? s with
          | some (set, s) => setRest? fuel negated left (sets ++ [set]) s
          | none => none

def set? (s : Source) : Option (CharSet × Source) :=
  let (negated, start, s) := setStart s
  setRest? (s.rest.length + 1) negated none start s

/-! ### Repetitions -/

/-- A decimal number with blanks around it. -/
def count? (s : Source) : Option (Nat × Source) :=
  let s := { s with rest := s.rest.dropWhile Text.isBlank }
  let digits := s.rest.takeWhile Text.isDigit
  let s := { s with rest := (s.rest.drop digits.length).dropWhile Text.isBlank }
  ((Text.numeral? 10 digits).filter (· ≤ Text.maxWord 32)).map (·, s)

/-- The bounds of a repetition after its opening brace. -/
def bounds? (s : Source) : Option (Nat × Option Nat × Source) :=
  match count? s.skip with
  | none => none
  | some (least, s) =>
    match s.rest with
    | '\x7d' :: _ => some (least, some least, s.drop 1)
    | ',' :: _ =>
      let s := s.next 1
      match s.rest with
      | '\x7d' :: _ => some (least, none, s.drop 1)
      | _ =>
        match count? s with
        | some (most, s) =>
          match s.rest with
          | '\x7d' :: _ => if least ≤ most then some (least, some most, s.drop 1) else none
          | _ => none
        | none => none
    | _ => none

/-- The source after the question mark that may follow a repetition. -/
def skipGreed (s : Source) : Source :=
  match s.rest with
  | '?' :: _ => s.drop 1
  | _ => s

def repetition? (s : Source) : Option (Nat × Option Nat × Source) :=
  match s.rest with
  | '*' :: _ => some (0, none, skipGreed (s.drop 1))
  | '+' :: _ => some (1, none, skipGreed (s.drop 1))
  | '?' :: _ => some (0, some 1, skipGreed (s.drop 1))
  | '\x7b' :: _ => (bounds? (s.drop 1)).map fun (least, most, s) => (least, most, skipGreed s)
  | _ => none

/-! ### Groups -/

/-- The flags up to a colon or a closing parenthesis, `seen` being those set so far. -/
def flags? : Nat → Bool → List Char → Flags → List Char → Option (Flags × List Char × List Char)
  | 0, _, _, _, _ => none
  | fuel + 1, on, seen, f, cs =>
    match cs with
    | [] => none
    | c :: rest =>
      if c = ':' ∨ c = ')' then (if seen.head? = some '-' then none else some (f, seen, c :: rest))
      else if seen.contains c then none
      else if c = '-' then flags? fuel false (c :: seen) f rest
      else
        match f.set? c on with
        | some f => flags? fuel on (c :: seen) f rest
        | none => none

def isNameChar (first : Bool) (c : Char) : Bool :=
  c = '_' || Text.isLetterLike c || (!first && (Text.isOfCategory "N" c || c = '.' || c = '[' || c = ']'))

/-- The source after the name of a group and the angle that closes it. -/
def groupName? (s : Source) : Option Source :=
  let name := s.rest.takeWhile (· ≠ '>')
  match name with
  | [] => none
  | c :: cs =>
    if isNameChar true c && cs.all (isNameChar false) && !s.names.contains name && s.rest.length ≠ name.length then
      some { s with rest := s.rest.drop (name.length + 1), names := name :: s.names }
    else none

/-- What a group begins with, after its parenthesis. -/
inductive GroupStart where
  | opens (inside : Source)
  | setsFlags (after : Source)

def groupStart? (s : Source) : Option GroupStart :=
  let s := s.skip
  match s.rest with
  | '?' :: '=' :: _ => none
  | '?' :: '!' :: _ => none
  | '?' :: '<' :: '=' :: _ => none
  | '?' :: '<' :: '!' :: _ => none
  | '?' :: 'P' :: '<' :: _ => (groupName? (s.drop 3)).map .opens
  | '?' :: '<' :: _ => (groupName? (s.drop 2)).map .opens
  | '?' :: rest =>
    match flags? (rest.length + 1) true [] s.flags rest with
    | none => none
    | some (flags, seen, rest) =>
      let t := { s with rest := rest.drop 1, flags := flags }
      if rest.head? = some ')' then (if seen = [] then none else some (.setsFlags t)) else some (.opens t)
  | _ => some (.opens s)

/-! ### Patterns -/

/-- A single character, class or assertion as a pattern. -/
def Piece.pattern (rule : CaseRule) : Piece → Pattern
  | .literal c => .char rule c
  | .named name negated => .chars .exact (.named name negated)
  | .property p negated => .chars rule (.bracket negated (.named (.property p) false))
  | .assertion a => .assertion a

def dot? (f : Flags) : Option Pattern :=
  if !f.unicode then none
  else if f.dotAll then some (.chars .exact (.bracket true (.union [])))
  else if f.crlf then some (.chars .exact (.bracket true (.union [.range '\n' '\n', .range '\r' '\r'])))
  else some (.chars .exact (.bracket true (.range '\n' '\n')))

/-- A single character that is no group, set or repetition. -/
def single? (s : Source) : Option (Pattern × Source) :=
  match s.rest with
  | [] => none
  | c :: _ =>
    let t := s.drop 1
    if c = '\\' then (escape? t).map fun (p, t) => (p.pattern s.flags.caseRule, t)
    else if c = '.' then (dot? s.flags).map (·, t)
    else if c = '^' then some (.assertion (if s.flags.multiLine then .lineStart s.flags.crlf else .textStart), t)
    else if c = '$' then some (.assertion (if s.flags.multiLine then .lineEnd s.flags.crlf else .textEnd), t)
    else some (.char s.flags.caseRule c, t)

/-- Parts one after another.  Parts that only set flags are missing. -/
def sequence (parts : List (Option Pattern)) : Pattern :=
  match parts.filterMap id with
  | [] => .empty
  | [r] => r
  | rs => .seq rs

def choice : List Pattern → Pattern
  | [r] => r
  | rs => .alt rs

/-- Branches up to a closing parenthesis or the end, in at most `fuel` steps.  `parts` are those of the branch that is
being read. -/
def branches? : Nat → List Pattern → List (Option Pattern) → Source → Option (Pattern × Source)
  | 0, _, _, _ => none
  | fuel + 1, done, parts, s =>
    let s := s.skip
    match s.rest with
    | [] => some (choice (done ++ [sequence parts]), s)
    | c :: _ =>
      if c = ')' then some (choice (done ++ [sequence parts]), s)
      else if c = '|' then branches? fuel (done ++ [sequence parts]) [] (s.drop 1)
      else if c = '(' then
        match groupStart? (s.drop 1) with
        | none => none
        | some (.setsFlags t) => branches? fuel done (parts ++ [none]) t
        | some (.opens t) =>
          match branches? fuel [] [] t with
          | none => none
          | some (inner, t) =>
            if t.rest = [] then none
            else branches? fuel done (parts ++ [some (.group inner)]) { t.drop 1 with flags := s.flags }
      else if c = '[' then
        match set? (s.drop 1) with
        | none => none
        | some (set, t) => branches? fuel done (parts ++ [some (.chars s.flags.caseRule set)]) t
      else if c = '*' ∨ c = '+' ∨ c = '?' ∨ c = '\x7b' then
        match parts.getLast?, repetition? s with
        | some (some r), some (least, most, t) =>
          branches? fuel done (parts.dropLast ++ [some (.repeated r least most)]) t
        | _, _ => none
      else
        match single? s with
        | none => none
        | some (r, t) => branches? fuel done (parts ++ [some r]) t

def deepest : Nat := 250

/-- The largest number of parts of a pattern when its repetitions are written out. -/
def largest : Nat := 0x40000

def read? (text : String) : Option Pattern :=
  let cs := text.toList
  match branches? (2 * cs.length + 2) [] [] ⟨cs, .start, []⟩ with
  | some (r, s) => if s.rest = [] ∧ r.depth ≤ deepest ∧ r.size ≤ largest then some r else none
  | none => none

end Postern.Pattern
