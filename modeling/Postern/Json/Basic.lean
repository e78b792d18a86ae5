/-!
JSON values.  Members of an object keep their order; `canonical` sorts them by name, and of members of one
name the last counts.
-/

namespace Postern

/-- A JSON value.  A numeral that is no integer of at most 64 bits is kept as it was written. -/
inductive Json where
  | null
  | bool (b : Bool)
  | int (n : Int)
  | real (literal : String)
  | str (s : String)
  | arr (items : List Json)
  | obj (members : List (String × Json))
  deriving Inhabited

namespace Json

/-- Puts a member into a list that is sorted by name, in place of one of the same name. -/
def insertMember (name : String) (value : Json) : List (String × Json) → List (String × Json)
  | [] => [(name, value)]
  | (n, v) :: ms =>
    if name = n then (name, value) :: ms
    else if name < n then (name, value) :: (n, v) :: ms
    else (n, v) :: insertMember name value ms

/-- Members sorted by name; of those of one name the last is kept. -/
def sortMembers (ms : List (String × Json)) : List (String × Json) :=
  ms.foldl (fun sorted m => insertMember m.1 m.2 sorted) []

/-- An object with the given members, sorted by name. -/
def object (ms : List (String × Json)) : Json := .obj (sortMembers ms)

mutual

/-- A value with the members of every object in it sorted by name. -/
def canonical : Json → Json
  | .arr items => .arr (canonicalItems items)
  | .obj members => .obj (sortMembers (canonicalMembers members))
  | j => j

def canonicalItems : List Json → List Json
  | [] => []
  | j :: js => canonical j :: canonicalItems js

def canonicalMembers : List (String × Json) → List (String × Json)
  | [] => []
  | (n, j) :: ms => (n, canonical j) :: canonicalMembers ms

end

/-- The member of an object that counts for `name`, the last one. -/
def member? (name : String) : Json → Option Json
  | .obj members => (members.reverse.find? (·.1 = name)).map (·.2)
  | _ => none

def text? : Json → Option String
  | .str s => some s
  | _ => none

def intBetween? (lo hi : Int) : Json → Option Int
  | .int n => if lo ≤ n ∧ n ≤ hi then some n else none
  | _ => none

def list? {α : Type} (item : Json → Option α) : Json → Option (List α)
  | .arr items => items.mapM item
  | _ => none

/-- The fields of a record.  An object gives them by name, each at most once and other members ignored; an
array gives them by position, neither fewer nor more. -/
def fields? (names : List String) : Json → Option (List (Option Json))
  | .obj members =>
    if names.all fun n => (members.filter (·.1 = n)).length ≤ 1 then
      some (names.map fun n => (members.find? (·.1 = n)).map (·.2))
    else none
  | .arr items => if items.length = names.length then some (items.map some) else none
  | _ => none

end Json
end Postern
