import Postern.Text.Encoding
import Postern.Text.Fields
import Postern.Text.Unicode

/-!
Domain names.  A name is brought to lower case, wide forms to narrow ones, and a label with characters outside of
ASCII is written `xn--` and its Punycode: the ASCII characters of a name come first; each of the others is a number
that says how far to move on in the row of all insertions, characters in ascending order and for each of them all
places.

For names outside of ASCII this is an approximation of what the Unicode standard asks for (UTS 46).  Of its mapping
only case folding, full-width forms, ideographic dots and ignorable characters are carried out, so that composed and
decomposed letters count as different characters.  Of what it forbids only control and format characters, private use
and marks at the beginning of a label are looked at, and not the rules on joiners and on the direction of writing.
Nothing that is proved of addresses depends on it.
-/

namespace Postern.Url.Punycode

/-! ### Numbers of variable length -/

def digit (n : Nat) : Char := Char.ofNat (if n < 26 then 0x61 + n else 0x16 + n)

def digitValue? (c : Char) : Option Nat :=
  if 'a' ≤ c ∧ c ≤ 'z' then some (c.toNat - 0x61)
  else if 'A' ≤ c ∧ c ≤ 'Z' then some (c.toNat - 0x41)
  else if '0' ≤ c ∧ c ≤ '9' then some (c.toNat - 0x16)
  else none

/-- The least digit at `place` after which a number goes on. -/
def threshold (bias place : Nat) : Nat :=
  if place ≤ bias then 1 else if bias + 26 ≤ place then 26 else place - bias

theorem threshold_pos (bias place : Nat) : 0 < threshold bias place := by
  unfold threshold
  split
  · omega
  · split <;> omega

/-- The digits of a number, from `place` on. -/
def digits (bias place n : Nat) : List Char :=
  let t := threshold bias place
  if n < t then [digit n] else digit (t + (n - t) % (36 - t)) :: digits bias (place + 36) ((n - t) / (36 - t))
termination_by n
decreasing_by
  have := threshold_pos bias place
  have := Nat.div_le_self (n - threshold bias place) (36 - threshold bias place)
  omega

/-- The number whose digits begin a text, times `weight` and added to `sum`, and the rest of the text. -/
def number? (bias : Nat) : Nat → Nat → Nat → List Char → Option (Nat × List Char)
  | _, _, _, [] => none
  | place, weight, sum, c :: cs =>
    match digitValue? c with
    | none => none
    | some d =>
      let t := threshold bias place
      if d < t then some (sum + d * weight, cs)
      else number? bias (place + 36) (weight * (36 - t)) (sum + d * weight) cs

theorem number?_length {bias place weight sum n : Nat} {cs rest : List Char}
    (h : number? bias place weight sum cs = some (n, rest)) : rest.length < cs.length := by
  induction cs generalizing place weight sum with
  | nil => simp [number?] at h
  | cons c cs ih =>
    simp only [number?] at h
    split at h
    · cases h
    · split at h
      · cases h; simp
      · exact Nat.lt_succ_of_lt (ih h)

/-- What a bias adds for each factor of thirty-five in `delta`, and what is left of it. -/
def shrink (delta : Nat) : Nat × Nat :=
  if 455 < delta then
    let (places, left) := shrink (delta / 35)
    (places + 36, left)
  else (0, delta)
termination_by delta
decreasing_by omega

/-- The bias after a move of `delta` that made a name `length` characters long. -/
def adapted (first : Bool) (delta length : Nat) : Nat :=
  let delta := if first then delta / 700 else delta / 2
  let (places, left) := shrink (delta + delta / length)
  places + 36 * left / (left + 38)

/-! ### Writing -/

/-- What is written so far: how many characters are handled, how far to move on for the next, and the digits. -/
structure Progress where
  handled : Nat
  delta : Nat
  bias : Nat
  written : List Char
  deriving Repr

/-- One character of the name, while insertions of the character `m` are looked for. -/
def Progress.step (basic m : Nat) (p : Progress) (c : Char) : Progress :=
  if c.toNat < m then { p with delta := p.delta + 1 }
  else if c.toNat = m then
    { handled := p.handled + 1, delta := 0, bias := adapted (p.handled = basic) p.delta (p.handled + 1)
      written := p.written ++ digits p.bias 36 p.delta }
  else p

/-- The insertions of the characters `ms`, given in ascending order and none of them below `n`. -/
def insertions (name : List Char) (basic : Nat) : Nat → List Nat → Progress → List Char
  | _, [], p => p.written
  | n, m :: ms, p =>
    let p := name.foldl (Progress.step basic m) { p with delta := p.delta + (m - n) * (p.handled + 1) }
    insertions name basic (m + 1) ms { p with delta := p.delta + 1 }

/-- Puts a number into an ascending list that has it at most once. -/
def insertAscending (n : Nat) : List Nat → List Nat
  | [] => [n]
  | m :: ms => if n < m then n :: m :: ms else if n = m then m :: ms else m :: insertAscending n ms

def isAscii (c : Char) : Bool := c.toNat < 0x80

def encode (name : List Char) : List Char :=
  let basic := name.filter isAscii
  let others := (name.filter (!isAscii ·)).foldl (fun ms c => insertAscending c.toNat ms) []
  (if basic = [] then [] else basic ++ ['-'])
    ++ insertions name basic.length 0x80 others ⟨basic.length, 0, 72, []⟩

/-! ### Reading -/

/-- The name after the insertions that a text says, the last of them having been of the character `n` at `i`. -/
def inserted? (bias n i : Nat) (name : List Char) (cs : List Char) : Option (List Char) :=
  match cs with
  | [] => some name
  | c :: cs' =>
    match _h : number? bias 36 1 i (c :: cs') with
    | none => none
    | some (j, rest) =>
      let length := name.length + 1
      let m := n + j / length
      if m < 0x110000 ∧ ¬(0xD800 ≤ m ∧ m < 0xE000) then
        inserted? (adapted (i = 0) (j - i) length) m (j % length + 1) (name.insertIdx (j % length) (Char.ofNat m)) rest
      else none
termination_by cs.length
decreasing_by exact number?_length _h

def decode? (cs : List Char) : Option (List Char) :=
  let (basic, rest) := ((Text.splitLast? '-' cs).filter (·.1 ≠ [])).getD ([], cs)
  if basic.all isAscii then inserted? 72 0x80 0 basic rest else none

end Postern.Url.Punycode

namespace Postern.Url.Domain

/-! ### Names -/

/-- Characters that are left out of names. -/
def isIgnored (c : Char) : Bool :=
  let n := c.toNat
  n = 0xAD || n = 0x34F || n = 0x200B || n = 0x2060 || n = 0x2064 || n = 0xFEFF || (0x180B ≤ n && n ≤ 0x180D)
    || (0xFE00 ≤ n && n ≤ 0xFE0F)

/-- The narrow form of a wide character; an ideographic full stop is a dot. -/
def narrow (c : Char) : Char :=
  let n := c.toNat
  if 0xFF01 ≤ n ∧ n ≤ 0xFF5E then Char.ofNat (n - 0xFEE0)
  else if n = 0x3002 ∨ n = 0xFF61 then '.'
  else if n = 0xA0 ∨ (0x2000 ≤ n ∧ n ≤ 0x200A) ∨ n = 0x202F ∨ n = 0x205F ∨ n = 0x3000 then ' '
  else c

/-- A name with its characters in the forms that count. -/
def mapped (name : List Char) : List Char := (name.filter (!isIgnored ·)).map fun c => Text.foldCase (narrow c)

def isDenied (c : Char) : Bool := c.toNat ≤ 0x20 || "#%/:<>?@[\\]^\x7f|".toList.contains c

/-- Characters that join others, order text or are no characters, and so are in no name. -/
def isBarred (c : Char) : Bool :=
  let n := c.toNat
  (0x80 ≤ n && n < 0xA0) || (0x200C ≤ n && n ≤ 0x200F) || (0x2028 ≤ n && n ≤ 0x202E) || (0x2061 ≤ n && n ≤ 0x206F)
    || (0xE000 ≤ n && n < 0xF900) || (0xFFF0 ≤ n && n ≤ 0xFFFF) || 0xE0000 ≤ n

/-- Whether a label begins with a mark that belongs to the character before it. -/
def beginsWithMark : List Char → Bool
  | c :: _ =>
    let n := c.toNat
    (0x300 ≤ n && n ≤ 0x36F) || (0x1AB0 ≤ n && n ≤ 0x1ACE) || (0x1DC0 ≤ n && n ≤ 0x1DFF)
      || (0x20D0 ≤ n && n ≤ 0x20F0) || (0xFE20 ≤ n && n ≤ 0xFE2F)
  | [] => false

def isLabel (label : List Char) : Bool :=
  label.all (fun c => !isDenied c && !isBarred c) && !beginsWithMark label

/-- How a label of an encoded name begins. -/
def mark : List Char := ['x', 'n', '-', '-']

def label? (label : List Char) : Option (List Char) :=
  if mark.isPrefixOf label then
    match Punycode.decode? (label.drop mark.length) with
    | some name =>
      if isLabel name && !name.all Punycode.isAscii && mapped name = name then some label else none
    | none => none
  else if isLabel label then
    if label.all Punycode.isAscii then some label else some (mark ++ Punycode.encode label)
  else none

def ascii? (name : String) : Option String :=
  (((Text.fields '.' (mapped name.toList)).mapM label?).map fun labels => String.ofList (Text.joined '.' labels))

end Postern.Url.Domain
