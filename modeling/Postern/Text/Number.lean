/-!
Numbers in text.  A numeral is a non-empty run of ASCII digits; signs and bounds are added by the readers of the formats
that allow them.  Decimal fractions are rounded to binary numbers of 53 significant bits with whole numbers only.
-/

namespace Postern.Text

/-! ### Whole numbers -/

/-- The value of an ASCII digit in bases up to sixteen; letters may have either case. -/
def digitValue? (c : Char) : Option Nat :=
  if '0' ≤ c ∧ c ≤ '9' then some (c.toNat - '0'.toNat)
  else if 'a' ≤ c ∧ c ≤ 'f' then some (c.toNat - 'a'.toNat + 10)
  else if 'A' ≤ c ∧ c ≤ 'F' then some (c.toNat - 'A'.toNat + 10)
  else none

def digitBelow? (base : Nat) (c : Char) : Option Nat :=
  (digitValue? c).filter (· < base)

/-- The number written by digits in `base`, most significant first, after digits worth `acc`. -/
def numeralFrom? (base : Nat) : Nat → List Char → Option Nat
  | acc, [] => some acc
  | acc, c :: cs =>
    match digitBelow? base c with
    | some d => numeralFrom? base (acc * base + d) cs
    | none => none

/-- The number written by a non-empty run of digits in `base`. -/
def numeral? (base : Nat) : List Char → Option Nat
  | [] => none
  | c :: cs => numeralFrom? base 0 (c :: cs)

/-- A decimal numeral with an optional `+`, at most `bound`. -/
def unsigned? (bound : Nat) (s : String) : Option Nat :=
  let digits :=
    match s.toList with
    | '+' :: rest => rest
    | cs => cs
  (numeral? 10 digits).filter (· ≤ bound)

def isDigit (c : Char) : Bool := '0' ≤ c && c ≤ '9'

def isHexDigit (c : Char) : Bool := (digitValue? c).isSome

def isLetter (c : Char) : Bool := ('a' ≤ c && c ≤ 'z') || ('A' ≤ c && c ≤ 'Z')

def decimal (n : Nat) : List Char := Nat.toDigits 10 n

/-- The decimal digits of an integer, after a minus sign where it is negative. -/
def signedDecimal : Int → List Char
  | .ofNat n => decimal n
  | .negSucc n => '-' :: decimal (n + 1)

def showNat (n : Nat) : String := String.ofList (decimal n)

def wordCount (bits : Nat) : Nat := 1 <<< bits

def maxWord (bits : Nat) : Nat := wordCount bits - 1

end Postern.Text

namespace Postern.Decimal

/-! ### Decimal fractions

The value nearest to `mantissa · 10 ^ exponent` is found; of two that are equally near the even one is taken. -/

/-- A non-negative number `mantissa · 2 ^ exponent`, the mantissa odd or the number zero with exponent zero. -/
structure Binary64 where
  mantissa : Nat
  exponent : Int
  deriving DecidableEq, Repr

/-- A quotient rounded to the nearest whole number, a half to the even one. -/
def roundDiv (num den : Nat) : Nat :=
  let q := num / den
  let r := num % den
  if 2 * r < den then q
  else if den < 2 * r then q + 1
  else q + q % 2

/-- Takes factors of two out of a mantissa, at most `fuel` of them. -/
def reduce : Nat → Nat → Int → Binary64
  | 0, m, e => ⟨m, e⟩
  | fuel + 1, m, e =>
    if m = 0 then ⟨0, 0⟩
    else if m % 2 = 0 then reduce fuel (m / 2) (e + 1)
    else ⟨m, e⟩

/-- The fraction `num / den` rounded to a whole multiple of `2 ^ e`. -/
def atExponent (num den : Nat) (e : Int) : Nat :=
  match e with
  | .ofNat k => roundDiv num (den <<< k)
  | .negSucc k => roundDiv (num <<< (k + 1)) den

/-- The fraction `num / den` rounded to 53 bits; `none` where it is too large. -/
def ofFraction? (num den : Nat) : Option Binary64 :=
  if num = 0 then some ⟨0, 0⟩
  else
    -- the quotient lies between `2 ^ (e - 1)` and `2 ^ (e + 1)`
    let e : Int := (num.log2 : Int) - den.log2
    -- the finest grid on which the quotient has no more than 53 bits
    let fits (g : Int) : Bool :=
      match g with
      | .ofNat k => num < den <<< (k + 53)
      | .negSucc k => num <<< (k + 1) < den <<< 53
    let g := if fits (e - 53) then e - 53 else e - 52
    let grid := if g < -1074 then -1074 else g
    let m := atExponent num den grid
    if 1 <<< 53 ≤ m ∧ 971 ≤ grid then none
    else if 971 < grid then none
    else some (reduce 1200 m grid)

/-- The decimal number `mantissa · 10 ^ exponent`, rounded; `none` where it is too large. -/
def round? (mantissa : Nat) (exponent : Int) : Option Binary64 :=
  let magnitude := exponent + (Nat.toDigits 10 mantissa).length
  if mantissa = 0 ∨ magnitude < -400 then some ⟨0, 0⟩
  else if 400 < magnitude then none
  else
    match exponent with
    | .ofNat k => ofFraction? (mantissa * Nat.pow 10 k) 1
    | .negSucc k => ofFraction? mantissa (Nat.pow 10 (k + 1))

end Postern.Decimal
