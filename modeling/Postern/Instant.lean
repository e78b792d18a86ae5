import Postern.Text.Number

/-!
Points in time, and their text in RFC 3339.
-/

namespace Postern

/-- A point in time: seconds since the start of 1970, and nanoseconds after that. -/
structure Instant where
  seconds : Int
  nanos : Nat
  deriving DecidableEq, Repr, Inhabited

namespace Instant

/-- The year, month and day of a day counted from the start of 1970.  Years are counted from March, so that a leap
day is the last day of its year; an era has 400 of them. -/
def civil (day : Int) : Int × Nat × Nat :=
  let shifted := day + 719468
  let era := Int.fdiv shifted 146097
  let d := (Int.fmod shifted 146097).toNat
  let y := (d - d / 1460 + d / 36524 - d / 146096) / 365
  let ofYear := d - (365 * y + y / 4 - y / 100)
  let m := (5 * ofYear + 2) / 153
  let month := if m < 10 then m + 3 else m - 9
  (era * 400 + y + (if month ≤ 2 then 1 else 0), month, ofYear - (153 * m + 2) / 5 + 1)

/-- A number in at least `width` digits. -/
def padded (width n : Nat) : List Char :=
  let ds := Text.decimal n
  List.replicate (width - ds.length) '0' ++ ds

/-- A year: four digits, and outside of them five with a sign. -/
def yearText (y : Int) : List Char :=
  match y with
  | .ofNat n => if n ≤ 9999 then padded 4 n else '+' :: padded 5 n
  | .negSucc n => '-' :: padded 4 (n + 1)

/-- The part of a second in as many groups of three digits as it needs. -/
def fractionText (nanos : Nat) : List Char :=
  if nanos = 0 then []
  else if nanos % 1000000 = 0 then '.' :: padded 3 (nanos / 1000000)
  else if nanos % 1000 = 0 then '.' :: padded 6 (nanos / 1000)
  else '.' :: padded 9 nanos

def text (t : Instant) : String :=
  let (y, m, d) := civil (Int.fdiv t.seconds 86400)
  let s := (Int.fmod t.seconds 86400).toNat
  String.ofList (yearText y ++ '-' :: padded 2 m ++ '-' :: padded 2 d ++ 'T' :: padded 2 (s / 3600) ++
    ':' :: padded 2 (s / 60 % 60) ++ ':' :: padded 2 (s % 60) ++ fractionText t.nanos ++ ['Z'])

end Instant
end Postern
