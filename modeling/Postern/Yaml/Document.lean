import Postern.Yaml.Node
import Postern.Yaml.Value

/-!
Reading YAML text: `read` gives the value of the only document of a text, `null` where there is none.

A tag that begins with an exclamation mark is local and kept; others only decide the type of scalars.  The keys of
a mapping that has a local tag do not show theirs.  Collections may be nested 128 deep, and the number of aliases
that are followed is limited by the size of the document.
-/

namespace Postern.Yaml

/-- The deepest nesting of collections. -/
def maxDepth : Nat := 128

/-- What the aliases of a document mean, and how many of them may be followed. -/
structure Anchors where
  nodes : List (Nat × Node)
  limit : Nat
  deriving Repr

/-- The node that an alias means: the last one of its number. -/
def Anchors.find? (as : Anchors) (id : Nat) : Option Node :=
  (as.nodes.reverse.find? (·.1 = id)).map (·.2)

/-- A step that counts the aliases followed. -/
abbrev Build := StateT Nat (Except Fault)

/-! ### Tags -/

/-- A tag name without its exclamation mark, unless that is all of it. -/
def bare (name : String) : String :=
  match name.toList with
  | '!' :: c :: cs => String.ofList (c :: cs)
  | _ => name

def localTag? : Option (List UInt8) → Option String
  | some (b :: bytes) => if b = 0x21 then (Text.Utf8.decode? (b :: bytes)).map fun s => bare (bare s) else none
  | _ => none

def coreType? (tag : List UInt8) : Option CoreType :=
  if tag = Text.Utf8.encode "tag:yaml.org,2002:null" then some .null
  else if tag = Text.Utf8.encode "tag:yaml.org,2002:bool" then some .bool
  else if tag = Text.Utf8.encode "tag:yaml.org,2002:int" then some .int
  else if tag = Text.Utf8.encode "tag:yaml.org,2002:float" then some .float
  else none

/-! ### Values -/

/-- The value of a scalar that shows no local tag. -/
def ofScalar (tag : Option (List UInt8)) (plain : Bool) (text : String) : Except Fault Yaml :=
  match tag with
  | none => if plain then ofPlain text else .ok (.str text)
  | some tag =>
    match coreType? tag with
    | some t => ofCore t text
    | none => if plain && tag.head? = some 0x21 then ofPlain text else .ok (.str text)

/-- Entries of which no two have the same key. -/
def distinctKeys : List (Yaml × Yaml) → Bool
  | [] => true
  | (k, _) :: es => !es.any (fun e => k.same e.1) && distinctKeys es

/-- A node that is no alias, and whether it stands below a tag that is shown already. -/
def follow (anchors : Anchors) (hidden : Bool) : Node → Build (Node × Bool)
  | .alias id => do
    let count := (← get) + 1
    if anchors.limit < count then throw .tooManyAliases
    set count
    match anchors.find? id with
    | some n => return (n, false)
    | none => throw .unknownAlias
  | n => return (n, hidden)

/-- A value under the tag that its node shows, read by `value`, which is told whether a tag is shown. -/
def underTag (hidden : Bool) (p : Properties) (value : Bool → Build Yaml) : Build Yaml :=
  match if hidden then none else localTag? p.tag with
  | some tag => do return .tagged tag (← value true)
  | none => value hidden

/-- The value of a node whose collections are nested at most `depth` deep.  Its tag is not shown where `hidden`
holds. -/
def build (anchors : Anchors) : Nat → Bool → Node → Build Yaml
  | depth, hidden, n => do
    let (n, hidden) ← follow anchors hidden n
    match n with
    | .scalar p plain text =>
      underTag hidden p fun shown => ofScalar (if shown then none else p.tag) plain text
    | .seq p items =>
      match depth with
      | 0 => throw .tooDeep
      | depth + 1 =>
        underTag hidden p fun _ => do return .seq (← items.mapM (build anchors depth false))
    | .map p entries =>
      match depth with
      | 0 => throw .tooDeep
      | depth + 1 =>
        underTag hidden p fun shown => do
          let es ← entries.mapM fun (k, v) => do
            let k ← build anchors depth shown k
            return (k, ← build anchors depth false v)
          if distinctKeys es then return .map es else throw .repeatedKey
    | .alias _ => throw .unknownAlias

def ofNode (n : Node) : Except Fault Yaml :=
  (build ⟨n.anchored, 100 * n.size⟩ maxDepth false n).run' 0

/-- The value of the only document of a text. -/
def read (s : String) : Except Fault Yaml := do
  match ← Node.ofTokens (← tokens s) with
  | some n => ofNode n
  | none => return .null

end Postern.Yaml
