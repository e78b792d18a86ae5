import Postern.Text.Unicode

/-!
Properties of characters that a pattern can name: general categories and their groups, scripts, and a few more.  Names
are compared without regard to case, blanks, dashes and underscores.
-/

namespace Postern.Pattern

inductive Property where
  | any | ascii | assigned | cased | blank
  | category (letters : String)
  | script (code : String)
  deriving DecidableEq, Repr

namespace Property

def holds : Property → Char → Bool
  | .any, _ => true
  | .ascii, c => c.toNat < 0x80
  | .assigned, c => !Text.isOfCategory "Cn" c
  | .cased, c => Text.isOfCategory "Lu" c || Text.isOfCategory "Ll" c || Text.isOfCategory "Lt" c
  | .blank, c => Text.isBlank c
  | .category letters, c => Text.isOfCategory letters c
  | .script code, c => Text.script c = code

/-! ### Names -/

/-- The part of a name that counts: its ASCII characters in small letters, without what only separates words. -/
def letters (name : List Char) : String :=
  String.ofList ((name.filter fun c => c.toNat < 0x80 && c ≠ ' ' && c ≠ '_' && c ≠ '-').map Char.toLower)

/-- A name in the form in which names are compared.  The word `is` in front does not count, except that `isc` is never
short for `c`. -/
def plain (name : List Char) : String :=
  match name with
  | i :: s :: rest =>
    if i.toLower = 'i' ∧ s.toLower = 's' then (if letters rest = "c" then "isc" else letters rest) else letters name
  | _ => letters name

/-- The code in a list of codes with names that a name stands for: as the code itself, or as one of its names. -/
def codeOf? (names : List (String × String)) (name : String) : Option String :=
  (names.find? fun n => plain n.1.toList = name || plain n.2.toList = name).map (·.1)

def categoryNames : List (String × String) :=
  [("L", "Letter"), ("Lu", "Uppercase Letter"), ("Ll", "Lowercase Letter"), ("Lt", "Titlecase Letter"),
    ("Lm", "Modifier Letter"), ("Lo", "Other Letter"), ("M", "Mark"), ("M", "Combining Mark"),
    ("Mn", "Nonspacing Mark"), ("Mc", "Spacing Mark"), ("Me", "Enclosing Mark"), ("N", "Number"),
    ("Nd", "Decimal Number"), ("Nd", "Digit"), ("Nl", "Letter Number"), ("No", "Other Number"), ("P", "Punctuation"),
    ("P", "Punct"), ("Pc", "Connector Punctuation"), ("Pd", "Dash Punctuation"), ("Ps", "Open Punctuation"),
    ("Pe", "Close Punctuation"), ("Pi", "Initial Punctuation"), ("Pf", "Final Punctuation"),
    ("Po", "Other Punctuation"), ("S", "Symbol"), ("Sm", "Math Symbol"), ("Sc", "Currency Symbol"),
    ("Sk", "Modifier Symbol"), ("So", "Other Symbol"), ("Z", "Separator"), ("Zs", "Space Separator"),
    ("Zl", "Line Separator"), ("Zp", "Paragraph Separator"), ("C", "Other"), ("Cc", "Control"), ("Cc", "Cntrl"),
    ("Cf", "Format"), ("Co", "Private Use"), ("Cn", "Unassigned")]

def scriptNames : List (String × String) := Text.scripts ++ [("Copt", "Qaac"), ("Zinh", "Qaai")]

def category? (name : String) : Option Property :=
  if name = "any" then some .any
  else if name = "ascii" then some .ascii
  else if name = "assigned" then some .assigned
  else if name = "lc" ∨ name = "casedletter" then some .cased
  else (codeOf? categoryNames name).map .category

def script? (name : String) : Option Property := (codeOf? scriptNames name).map .script

def named? (name : List Char) : Option Property :=
  let name := plain name
  if name = "space" ∨ name = "wspace" ∨ name = "whitespace" then some .blank
  else
    match category? name with
    | some p => some p
    | none => script? name

def valued? (key value : List Char) : Option Property :=
  let key := plain key
  if key = "gc" ∨ key = "generalcategory" then category? (plain value)
  else if key = "sc" ∨ key = "script" then script? (plain value)
  else none

/-- What stands before and after the first place where `mark` stands. -/
def cut? (mark : List Char) : List Char → Option (List Char × List Char)
  | [] => none
  | c :: cs =>
    if mark.isPrefixOf (c :: cs) then some ([], (c :: cs).drop mark.length)
    else (cut? mark cs).map fun (before, after) => (c :: before, after)

/-- The property that a text between braces means, and whether it means all characters without it. -/
def ofText? (text : List Char) : Option (Property × Bool) :=
  match cut? ['!', '='] text, cut? [':'] text, cut? ['='] text with
  | some (key, value), _, _ => (valued? key value).map (·, true)
  | none, some (key, value), _ => (valued? key value).map (·, false)
  | none, none, some (key, value) => (valued? key value).map (·, false)
  | none, none, none => (named? text).map (·, false)

end Property
end Postern.Pattern
