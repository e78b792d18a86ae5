/-!
Routers.  In a path of a route a part written `:name` stands for any text without a slash, one written `*name` at the
end for any text; neither stands for nothing.  Where several paths match, the one that is literal for longer counts.
In a table of routes each path stands once, with what was registered for it first.
-/

namespace Postern

/-! ### Paths -/

inductive PathPiece where
  | char (c : Char)
  | parameter (name : List Char)
  | rest (name : List Char)
  deriving DecidableEq, Repr

abbrev RoutePath := List PathPiece

namespace RoutePath

/-- Whether a character begins a piece that stands for other text. -/
def isWild (c : Char) : Bool := c = ':' || c = '*'

/-- The pieces of a path, in at most `fuel` steps; `before` is the character in front of them. -/
def readFrom? : Nat → Option Char → List Char → Option RoutePath
  | 0, _, _ => none
  | fuel + 1, before, cs =>
    match cs with
    | [] => some []
    | c :: rest =>
      if isWild c then
        let name := rest.takeWhile (· ≠ '/')
        let after := rest.drop name.length
        if name = [] || name.any isWild then none
        else if c = '*' then (if after = [] && before = some '/' then some [.rest name] else none)
        else (readFrom? fuel none after).map (.parameter name :: ·)
      else (readFrom? fuel (some c) rest).map (.char c :: ·)

def read? (text : String) : Option RoutePath :=
  match text.toList with
  | '/' :: rest => readFrom? (rest.length + 2) none ('/' :: rest)
  | _ => none

/-- Whether two paths cannot be told apart where they first differ. -/
def conflicts : RoutePath → RoutePath → Bool
  | p :: ps, q :: qs =>
    if p = q then conflicts ps qs
    else
      match p, q with
      | .char _, _ => false
      | _, .char _ => false
      | _, _ => true
  | _, _ => false

def accepts : RoutePath → List Char → Bool
  | [], cs => cs = []
  | .char c :: ps, cs =>
    match cs with
    | d :: ds => c = d && accepts ps ds
    | [] => false
  | .parameter _ :: ps, cs =>
    let value := cs.takeWhile (· ≠ '/')
    value ≠ [] && accepts ps (cs.drop value.length)
  | .rest _ :: _, cs => cs ≠ []

/-- Whether the first of two paths is literal where they first differ. -/
def isMoreLiteral : RoutePath → RoutePath → Bool
  | p :: ps, q :: qs =>
    if p = q then isMoreLiteral ps qs
    else
      match p with
      | .char _ => true
      | _ => false
  | _, _ => false

end RoutePath

/-! ### Tables -/

/-- Paths in order, each with what is registered for it. -/
structure RouteTable (α : Type) where
  entries : List (String × α)
  deriving Repr

namespace RouteTable
variable {α : Type}

def empty : RouteTable α := ⟨[]⟩

def paths (t : RouteTable α) : List String := t.entries.map (·.1)

def contains (t : RouteTable α) (path : String) : Bool := t.paths.contains path

/-- Registers `a` for a path unless it is in the table already. -/
def route (t : RouteTable α) (path : String) (a : α) : RouteTable α :=
  if t.contains path then t else ⟨t.entries ++ [(path, a)]⟩

def routes (t : RouteTable α) (rs : List (String × α)) : RouteTable α := rs.foldl (fun t r => t.route r.1 r.2) t

def find? (t : RouteTable α) (path : String) : Option α := (t.entries.find? (·.1 = path)).map (·.2)

theorem find?_route (t : RouteTable α) (path q : String) (a : α) :
    (t.route path a).find? q = (t.find? q).or (if path = q then some a else none) := by
  unfold route
  split
  · rename_i h
    by_cases hq : path = q
    · subst hq
      have : (t.find? path).isSome := by
        simp only [contains, paths, List.contains_eq_mem, List.mem_map, decide_eq_true_eq] at h
        obtain ⟨e, he, rfl⟩ := h
        simp only [find?, Option.isSome_map, List.find?_isSome, decide_eq_true_eq]
        exact ⟨e, he, rfl⟩
      obtain ⟨b, hb⟩ := Option.isSome_iff_exists.1 this
      simp [hb]
    · simp [hq]
  · unfold find?
    rw [List.find?_append]
    by_cases hq : path = q
    · cases h : t.entries.find? (·.1 = q) <;> simp [hq]
    · cases h : t.entries.find? (·.1 = q) <;> simp [hq]

theorem paths_route (t : RouteTable α) (path : String) (a : α) :
    (t.route path a).paths = if path ∈ t.paths then t.paths else t.paths ++ [path] := by
  by_cases h : path ∈ t.paths
  · simp [route, contains, h]
  · simp only [route, contains, List.contains_eq_mem, h, decide_false, Bool.false_eq_true, if_false]
    simp [paths]

end RouteTable

/-- What is registered for each of some paths. -/
structure Router (α : Type) where
  routes : List (RoutePath × α)
  deriving Repr

namespace Router
variable {α : Type}

/-- Adds a path that differs from those of the router where it is not literal. -/
def add? (r : Router α) (path : String) (a : α) : Option (Router α) :=
  match RoutePath.read? path with
  | some p => if r.routes.any fun e => p.conflicts e.1 then none else some ⟨r.routes ++ [(p, a)]⟩
  | none => none

def ofEntries? : Router α → List (String × α) → Option (Router α)
  | r, [] => some r
  | r, (path, a) :: es =>
    match r.add? path a with
    | some r => ofEntries? r es
    | none => none

/-- The better one of two matches. -/
def better (best : Option (RoutePath × α)) (e : RoutePath × α) : Option (RoutePath × α) :=
  match best with
  | none => some e
  | some b => if e.1.isMoreLiteral b.1 then some e else some b

/-- What is registered for the path that matches a text best. -/
def find? (r : Router α) (text : String) : Option α :=
  (((r.routes.filter fun e => e.1.accepts text.toList).foldl better none).map (·.2))

end Router

/-- The router of a table; there is none where a path is malformed or in conflict with another one. -/
def RouteTable.router? {α : Type} (t : RouteTable α) : Option (Router α) := Router.ofEntries? ⟨[]⟩ t.entries

end Postern
