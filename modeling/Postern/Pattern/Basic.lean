import Postern.Pattern.CharSet

/-!
Patterns, and which texts they match.  A pattern matches a text when it leads from one place in it to another; `ends`
gives the places that it leads to.
-/

namespace Postern
namespace Pattern

/-! ### Places -/

/-- A place in a text: the character before it, and the text after it. -/
structure Place where
  before : Option Char
  rest : List Char
  deriving DecidableEq, Repr

/-- All places in a text from one on. -/
def placesFrom : Option Char → List Char → List Place
  | before, [] => [⟨before, []⟩]
  | before, c :: rest => ⟨before, c :: rest⟩ :: placesFrom (some c) rest

def places (text : String) : List Place := placesFrom none text.toList

/-- The places that are not among those in `seen`, each once. -/
def fresh (seen : List Place) : List Place → List Place
  | [] => []
  | p :: ps => if seen.contains p then fresh seen ps else p :: fresh (p :: seen) ps

/-! ### Assertions -/

/-- What can be asserted of a place.  Where `crlf` holds, a carriage return and a line feed also end a line. -/
inductive Assertion where
  | textStart
  | textEnd
  | lineStart (crlf : Bool)
  | lineEnd (crlf : Bool)
  | boundary (w : ClassName)
  | noBoundary (w : ClassName)
  | wordStart (w : ClassName)
  | wordEnd (w : ClassName)
  | wordStartHalf (w : ClassName)
  | wordEndHalf (w : ClassName)
  deriving DecidableEq, Repr

def Assertion.holds (a : Assertion) (p : Place) : Bool :=
  let before := p.before
  let after := p.rest.head?
  match a with
  | .textStart => before = none
  | .textEnd => after = none
  | .lineStart false => before = none || before = some '\n'
  | .lineStart true => before = none || before = some '\n' || (before = some '\r' && after ≠ some '\n')
  | .lineEnd false => after = none || after = some '\n'
  | .lineEnd true => after = none || after = some '\r' || (after = some '\n' && before ≠ some '\r')
  | .boundary w => before.any w.holds != after.any w.holds
  | .noBoundary w => before.any w.holds == after.any w.holds
  | .wordStart w => !before.any w.holds && after.any w.holds
  | .wordEnd w => before.any w.holds && !after.any w.holds
  | .wordStartHalf w => !before.any w.holds
  | .wordEndHalf w => !after.any w.holds

end Pattern

open Pattern in
inductive Pattern where
  | empty
  | char (rule : CaseRule) (c : Char)
  | chars (rule : CaseRule) (set : CharSet)
  | assertion (a : Assertion)
  | seq (parts : List Pattern)
  | alt (branches : List Pattern)
  | group (inner : Pattern)
  | repeated (inner : Pattern) (least : Nat) (most : Option Nat)
  deriving Repr

namespace Pattern

/-! ### Matching -/

def advance (accepts : Char → Bool) (p : Place) : List Place :=
  match p.rest with
  | [] => []
  | c :: rest => if accepts c then [⟨some c, rest⟩] else []

def stepTimes (step : List Place → List Place) : Nat → List Place → List Place
  | 0, ps => ps
  | n + 1, ps => if ps = [] then [] else stepTimes step n (step ps)

/-- The places after at most `n` steps from those in `last`, all places so far being `seen`. -/
def stepUpTo (step : List Place → List Place) : Nat → List Place → List Place → List Place
  | 0, seen, _ => seen
  | n + 1, seen, last =>
    let new := fresh seen (step last)
    if new = [] then seen else stepUpTo step n (seen ++ new) new

/-- The places after `least` up to `most` steps.  More steps than there are places lead to no new one. -/
def stepBetween (step : List Place → List Place) (least : Nat) (most : Option Nat) (ps : List Place) : List Place :=
  let start := stepTimes step least ps
  let room := (start.map (·.rest.length)).foldl max 0 + 1
  stepUpTo step (most.elim room (· - least)) start start

mutual

def ends : Pattern → List Place → List Place
  | .empty, ps => ps
  | .char rule c, ps => ps.flatMap (advance fun d => (rule.orbit d).contains c)
  | .chars rule set, ps => ps.flatMap (advance (set.holds rule))
  | .assertion a, ps => ps.filter a.holds
  | .seq parts, ps => endsSeq parts ps
  | .alt branches, ps => fresh [] (endsAlt branches ps)
  | .group inner, ps => ends inner ps
  | .repeated inner least most, ps => stepBetween (ends inner) least most ps

def endsSeq : List Pattern → List Place → List Place
  | [], ps => ps
  | r :: rs, ps => endsSeq rs (ends r ps)

def endsAlt : List Pattern → List Place → List Place
  | [], _ => []
  | r :: rs, ps => ends r ps ++ endsAlt rs ps

end

def isMatch (r : Pattern) (text : String) : Bool := ends r (places text) ≠ []

/-! ### Measures -/

mutual

/-- How deep a pattern is nested. -/
def depth : Pattern → Nat
  | .chars _ set => set.depth
  | .seq parts => maxDepth parts + 1
  | .alt branches => maxDepth branches + 1
  | .group inner => depth inner + 1
  | .repeated inner _ _ => depth inner + 1
  | _ => 0

/-- How deep the deepest of several patterns is nested. -/
def maxDepth : List Pattern → Nat
  | [] => 0
  | r :: rs => max (depth r) (maxDepth rs)

end

mutual

/-- How many parts a pattern has when its repetitions are written out. -/
def size : Pattern → Nat
  | .chars _ set => set.size
  | .seq parts => sizeAll parts
  | .alt branches => sizeAll branches + 1
  | .group inner => size inner
  | .repeated inner least most => size inner * max 1 (most.getD least)
  | _ => 1

/-- How many parts several patterns have. -/
def sizeAll : List Pattern → Nat
  | [] => 0
  | r :: rs => size r + sizeAll rs

end

end Pattern
end Postern
