import Postern.Json.Reader

/-!
Reading records.  Only the members of certain names count, and each of them has a reader of its own.  The others are
passed over (`pass?`): what is in their strings, how large their numbers are and how deep they are nested does not
matter.

A member may also be optional in the sense that it need not be readable (`orNull`).  Its reader gives up somewhere in
it, and what comes next goes on from there; so the rest of the record can be read only where the reader gives up just
at the end of the value (`stop?`).
-/

namespace Postern.Json

/-! ### Passing over -/

/-- One character of a string that is passed over.  Half a character is as good as a whole one. -/
def passChar? (cs : List Char) : Option (Unit × List Char) :=
  match stringChar? cs, cs with
  | some (_, rest), _ => some ((), rest)
  | none, '\\' :: 'u' :: rest => (hex4? rest).map fun (_, rest) => ((), rest)
  | none, _ => none

/-- A string that is passed over, after the quote that opens it. -/
def passString? (cs : List Char) : Option (Unit × List Char) :=
  (stringChars? passChar? (cs.length + 1) cs).map fun (_, rest) => ((), rest)

/-- A value that is passed over. -/
def pass? : Nat → List Char → Option (Unit × List Char)
  | depth, cs =>
    match lead (skip cs) with
    | (.word _, rest) => some ((), rest)
    | (.quote, rest) => passString? rest
    | (.bracket, rest) =>
      match depth with
      | 0 => none
      | depth + 1 => (items? (pass? depth) ']' rest).map fun (_, rest) => ((), rest)
    | (.brace, rest) =>
      match depth with
      | 0 => none
      | depth + 1 => (items? (memberOf? passString? fun _ => pass? depth) '\x7d' rest).map fun (_, rest) => ((), rest)
    | (.other, rest) => (numeral? rest).map fun (_, rest) => ((), rest)

/-! ### Members that count -/

/-- How the value of a member is read. -/
abbrev ValueReader := List Char → Option (Json × List Char)

/-- A value in a record. -/
def within? : ValueReader := value? (maxDepth - 1)

/-- The value of a member, if there is a reader for its name; else it is passed over. -/
def field? (readers : List (String × ValueReader)) (depth : Nat) (name : String) (cs : List Char) :
    Option (Option Json × List Char) :=
  match readers.find? (·.1 = name) with
  | some (_, reader) => (reader cs).map fun (j, rest) => (some j, rest)
  | none => (pass? depth cs).map fun (_, rest) => (none, rest)

/-- A member that counts. -/
def counted? (m : String × Option Json) : Option (String × Json) := m.2.map (m.1, ·)

/-- The record that bytes are, with the members that there are readers for. -/
def record? (readers : List (String × ValueReader)) (bytes : List UInt8) : Option Json :=
  let cs := Text.Utf8.octets bytes
  match lead (skip cs) with
  | (.brace, rest) =>
    -- no text is nested deeper than it is long
    match items? (memberOf? string? (field? readers (maxDepth + cs.length))) '\x7d' rest with
    | some (ms, rest) => if skip rest = [] then some (.obj (ms.filterMap counted?)) else none
    | none => none
  | _ => readBytes? maxDepth bytes

/-- The fields of the record that bytes are, all of their values being read. -/
def readFields? (names : List String) (bytes : List UInt8) : Option (List (Option Json)) :=
  (record? (names.map (·, within?)) bytes).bind (fields? names)

/-! ### Members that need not be readable -/

/-- The rest after a string, where its reader gets to the end: the characters may turn out not to be UTF-8, or the last
of them to be half a one. -/
def stopString? : Nat → List Char → Option (List Char)
  | 0, _ => none
  | fuel + 1, cs =>
    match cs with
    | '\x22' :: rest => some rest
    | cs =>
      match stringChar? cs, cs with
      | some (_, rest), _ => stopString? fuel rest
      | none, '\\' :: 'u' :: rest =>
        match hex4? rest with
        | some (hi, '\x22' :: rest) => if 0xD800 ≤ hi ∧ hi < 0xDC00 then some rest else none
        | _ => none
      | none, _ => none

/-- The rest after a numeral, where its reader gets to the end.  It gives up at the digit by which the exponent needs
more than 31 bits. -/
def stopNumeral? (cs : List Char) : Option (List Char) :=
  (numeral? cs).bind fun (n, rest) =>
    if (Text.numeral? 10 n.power.2.dropLast).getD 0 ≤ Text.maxWord 31 then some rest else none

/-- The rest after a container from one of its items on, where the reader of the last item gets to the end of it in at
most `fuel` steps. -/
def stopItems? {α : Type} (item : List Char → Option (α × List Char)) (stop : List Char → Option (List Char))
    (close : Char) : Nat → List Char → Option (List Char)
  | 0, _ => none
  | fuel + 1, cs =>
    match item cs with
    | some (_, rest) =>
      match skip rest with
      | ',' :: rest => stopItems? item stop close fuel rest
      | _ => none
    | none =>
      match (stop cs).map skip with
      | some (c :: rest) => if c = close then some rest else none
      | _ => none

/-- The rest after a value that cannot be read, where its reader gets to the end. -/
def stop? : Nat → List Char → Option (List Char)
  | depth, cs =>
    match lead (skip cs) with
    | (.word _, _) => none
    | (.quote, rest) => stopString? (rest.length + 1) rest
    | (.bracket, rest) =>
      match depth with
      | 0 => none
      | depth + 1 => stopItems? (value? depth) (stop? depth) ']' rest.length rest
    | (.brace, rest) =>
      match depth with
      | 0 => none
      | depth + 1 =>
        let stopMember? (cs : List Char) :=
          (memberOf? string? (fun _ cs => (stop? depth cs).map ((), ·)) cs).map fun (_, rest) => rest
        stopItems? (memberOf? string? fun _ => value? depth) stopMember? '\x7d' rest.length rest
    | (.other, rest) => stopNumeral? rest

/-- A value that counts as null where it cannot be read but is nested at most `depth` deep and read to its end. -/
def orNull (depth : Nat) : ValueReader := fun cs => (within? cs).or ((stop? depth cs).map (.null, ·))

end Postern.Json
