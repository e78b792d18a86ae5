import Postern.Pattern.Property
import Postern.Text.Unicode

/-!
Sets of characters as patterns write them: ranges, named classes, and bracketed sets with their operations.  Where case
is ignored, a set holds a character when it holds one that differs from it only in case.
-/

namespace Postern.Pattern

/-- Which characters count as one. -/
inductive CaseRule where
  | exact | ascii | unicode
  deriving DecidableEq, Repr

def otherCase (c : Char) : Char :=
  if c.isUpper then c.toLower else if c.isLower then c.toUpper else c

/-- The characters that count as one with `c`. -/
def CaseRule.orbit (rule : CaseRule) (c : Char) : List Char :=
  match rule with
  | .exact => [c]
  | .ascii => [c, otherCase c]
  | .unicode => Text.caseOrbit c

inductive ClassName where
  | digit | space | word
  | asciiDigit | asciiSpace | asciiWord
  | alnum | alpha | ascii | blank | cntrl | graph | lower | print | punct | upper | xdigit
  | property (p : Property)
  deriving DecidableEq, Repr

def ClassName.holds (name : ClassName) (c : Char) : Bool :=
  let n := c.toNat
  match name with
  | .digit => Text.isDecimalDigit c
  | .space => Text.isBlank c
  | .word => Text.isWordChar c
  | .asciiDigit => Text.isDigit c
  | .asciiSpace => n = 0x20 || (0x09 ≤ n && n ≤ 0x0D)
  | .asciiWord => Text.isDigit c || Text.isLetter c || c = '_'
  | .alnum => Text.isDigit c || Text.isLetter c
  | .alpha => Text.isLetter c
  | .ascii => n < 0x80
  | .blank => c = ' ' || c = '\t'
  | .cntrl => n < 0x20 || n = 0x7F
  | .graph => 0x21 ≤ n && n ≤ 0x7E
  | .lower => 'a' ≤ c && c ≤ 'z'
  | .print => 0x20 ≤ n && n ≤ 0x7E
  | .punct => 0x21 ≤ n && n ≤ 0x7E && !(Text.isDigit c || Text.isLetter c)
  | .upper => 'A' ≤ c && c ≤ 'Z'
  | .xdigit => Text.isHexDigit c
  | .property p => p.holds c

/-- Roughly how many ranges a named class has, characters being told by their bytes. -/
def ClassName.size : ClassName → Nat
  | .word => 1200
  | .digit => 120
  | .space => 15
  | .property _ => 1200
  | _ => 1

/-- The operations between sets. -/
inductive SetOp where
  | intersection | difference | symmetricDifference
  deriving DecidableEq, Repr

/-- Whether an operation holds a character that its sides hold or not. -/
def SetOp.holds (op : SetOp) (left right : Bool) : Bool :=
  match op with
  | .intersection => left && right
  | .difference => left && !right
  | .symmetricDifference => left != right

inductive CharSet where
  | range (lo hi : Char)
  | named (name : ClassName) (negated : Bool)
  | union (sets : List CharSet)
  | combine (op : SetOp) (left right : CharSet)
  | bracket (negated : Bool) (set : CharSet)
  deriving Repr

namespace CharSet

/-- Whether a set is written as all but what it lists. -/
def isNegated : CharSet → Bool
  | .bracket negated _ => negated
  | _ => false

mutual

def holds (rule : CaseRule) : CharSet → Char → Bool
  | .range lo hi, c => lo ≤ c && c ≤ hi
  | .named name negated, c => name.holds c != negated
  | .union sets, c => anyHolds rule sets c
  | .combine op left right, c =>
    op.holds ((rule.orbit c).any (holds rule left)) ((rule.orbit c).any (holds rule right))
  | .bracket negated set, c => (rule.orbit c).any (holds rule set) != negated

def anyHolds (rule : CaseRule) : List CharSet → Char → Bool
  | [], _ => false
  | s :: ss, c => holds rule s c || anyHolds rule ss c

end

mutual

/-- How deep a set is nested. -/
def depth : CharSet → Nat
  | .range _ _ => 0
  | .named _ _ => 0
  | .union sets => maxDepth sets + 1
  | .combine _ left right => max (depth left) (depth right) + 1
  | .bracket _ set => depth set + 1

/-- How deep the deepest of several sets is nested. -/
def maxDepth : List CharSet → Nat
  | [] => 0
  | s :: ss => max (depth s) (maxDepth ss)

end

mutual

/-- Roughly how many ranges a set has, characters being told by their bytes. -/
def size : CharSet → Nat
  | .range _ hi => if hi.toNat < 0x80 then 1 else 3
  | .named name _ => name.size
  | .union sets => sizeAll sets
  | .combine _ left right => size left + size right
  | .bracket negated set => size set + (if negated then 8 else 0)

/-- Roughly how many ranges several sets have. -/
def sizeAll : List CharSet → Nat
  | [] => 0
  | s :: ss => size s + sizeAll ss

end

end CharSet
end Postern.Pattern
