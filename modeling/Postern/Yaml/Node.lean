import Postern.Yaml.Token.Stream

/-!
The nodes of a YAML document, as they are written: scalars without a type, aliases not yet replaced.

An anchor's number is how many names have been anchored so far, so anchoring a name again gives it a number
that the next new name takes over.  An alias means the last node of its number.
-/

namespace Postern.Yaml

/-- What stands before a node: the number of its anchor, and its tag in full. -/
structure Properties where
  anchor : Option Nat
  tag : Option (List UInt8)
  deriving DecidableEq, Repr

/-- Nothing before a node. -/
def Properties.none : Properties := ⟨.none, .none⟩

inductive Node where
  | alias (anchor : Nat)
  | scalar (properties : Properties) (plain : Bool) (text : String)
  | seq (properties : Properties) (items : List Node)
  | map (properties : Properties) (entries : List (Node × Node))
  deriving Inhabited, Repr

namespace Node

def empty (properties : Properties) : Node := .scalar properties true ""

/-! ### Reading tokens -/

/-- What is known between two tokens. -/
structure Context where
  tokens : List Token
  handles : List (List Char × List UInt8)
  anchors : List (List Char × Nat)
  deriving Repr

/-- A step that reads tokens. -/
abbrev Read := StateT Context (Except Fault)

def peek : Read (Option Token) := do return (← get).tokens.head?

def skip : Read Unit := modify fun x => { x with tokens := x.tokens.tail }

def bind (name : List Char) : Read Nat :=
  modifyGet fun x =>
    let id := x.anchors.length
    if x.anchors.any (·.1 = name) then
      (id, { x with anchors := x.anchors.map fun a => if a.1 = name then (name, id) else a })
    else (id, { x with anchors := x.anchors ++ [(name, id)] })

def lookUp (name : List Char) : Read Nat := do
  match (← get).anchors.find? (·.1 = name) with
  | some (_, id) => return id
  | none => throw .unknownAlias

/-- A tag in full. -/
def expand (handle : List Char) (suffix : List UInt8) : Read (List UInt8) := do
  if handle = [] then return suffix
  match (← get).handles.find? (·.1 = handle) with
  | some (_, start) => return start ++ suffix
  | none => throw .unknownTagHandle

def anchor? : Read (Option (List Char)) := do
  match ← peek with
  | some (.anchor name) => skip; return some name
  | _ => return none

def tag? : Read (Option (List Char × List UInt8)) := do
  match ← peek with
  | some (.tag handle suffix) => skip; return some (handle, suffix)
  | _ => return none

/-- What stands before a node: an anchor and a tag, in either order. -/
def properties : Read (Option (List Char) × Option (List UInt8)) := do
  let first ← anchor?
  let tag ← tag?
  let name ←
    match first with
    | some name => pure (some name)
    | none => anchor?
  match tag with
  | some (handle, suffix) => return (name, some (← expand handle suffix))
  | none => return (name, none)

/-- The tag of a lone exclamation mark. -/
def markTag : List UInt8 := [0x21]

/-- Whether the next token is one of those at which a node may be left out. -/
def atEnd (ends : List Token) : Read Bool := do
  match ← peek with
  | some t => return ends.contains t
  | none => return false

def place (name : Option (List Char)) (tag : Option (List UInt8)) : Read Properties := do
  match name with
  | some name => return ⟨some (← bind name), tag⟩
  | none => return ⟨none, tag⟩

mutual

/-- A node.  Block collections are read where `block` holds, and where `indentless` holds also the entries of a
sequence that is indented no deeper than its parent. -/
def node : Nat → Bool → Bool → Read Node
  | 0, _, _ => throw .tooDeep
  | fuel + 1, block, indentless => do
    match ← peek with
    | some (.alias name) => skip; return .alias (← lookUp name)
    | _ =>
      let (name, tag) ← properties
      match ← peek with
      | some (.scalar style text) =>
        skip
        let tag := if tag = some markTag then none else tag
        return .scalar (← place name tag) (style = .plain) (String.ofList text)
      | some .flowSequenceStart => skip; return .seq (← place name tag) (← flowItems fuel true)
      | some .flowMappingStart => skip; return .map (← place name tag) (← flowEntries fuel true)
      | next =>
        if indentless && next = some .blockEntry then
          return .seq (← place name tag) (← indentlessItems fuel)
        else if block && next = some .blockSequenceStart then
          skip
          return .seq (← place name tag) (← blockItems fuel)
        else if block && next = some .blockMappingStart then
          skip
          return .map (← place name tag) (← blockEntries fuel)
        else if name.isSome || tag.isSome then return empty (← place name tag)
        else throw .unexpectedToken

/-- A node, or an empty one at one of the tokens `ends`. -/
def nodeUnless : Nat → List Token → Bool → Bool → Read Node
  | 0, _, _, _ => throw .tooDeep
  | fuel + 1, ends, block, indentless => do
    if ← atEnd ends then return empty .none else node fuel block indentless

def blockItems : Nat → Read (List Node)
  | 0 => throw .tooDeep
  | fuel + 1 => do
    match ← peek with
    | some .blockEntry =>
      skip
      let item ← nodeUnless fuel [.blockEntry, .blockEnd] true false
      return item :: (← blockItems fuel)
    | some .blockEnd => skip; return []
    | _ => throw .unexpectedToken

/-- The items of a sequence that is indented no deeper than its parent. -/
def indentlessItems : Nat → Read (List Node)
  | 0 => throw .tooDeep
  | fuel + 1 => do
    match ← peek with
    | some .blockEntry =>
      skip
      let item ← nodeUnless fuel [.blockEntry, .key, .value, .blockEnd] true false
      return item :: (← indentlessItems fuel)
    | _ => return []

def blockEntries : Nat → Read (List (Node × Node))
  | 0 => throw .tooDeep
  | fuel + 1 => do
    match ← peek with
    | some .key =>
      skip
      let key ← nodeUnless fuel [.key, .value, .blockEnd] true true
      let value ← valueUnless fuel [.key, .value, .blockEnd] true
      return (key, value) :: (← blockEntries fuel)
    | some .blockEnd => skip; return []
    | _ => throw .unexpectedToken

/-- The value after a colon, or an empty one where there is no colon. -/
def valueUnless : Nat → List Token → Bool → Read Node
  | 0, _, _ => throw .tooDeep
  | fuel + 1, ends, block => do
    if (← peek) = some .value then
      skip
      nodeUnless fuel ends block block
    else return empty .none

/-- The items of a flow sequence, of which the first needs no comma before it.  A pair is an item. -/
def flowItems : Nat → Bool → Read (List Node)
  | 0, _ => throw .tooDeep
  | fuel + 1, first => do
    if (← peek) = some .flowSequenceEnd then
      skip
      return []
    if !first then
      if (← peek) = some .flowEntry then skip else throw .unexpectedToken
    match ← peek with
    | some .flowSequenceEnd => skip; return []
    | some .key =>
      skip
      let key ← pairKey fuel
      let value ← valueUnless fuel [.flowEntry, .flowSequenceEnd] false
      return .map .none [(key, value)] :: (← flowItems fuel false)
    | _ =>
      let item ← node fuel false false
      return item :: (← flowItems fuel false)

/-- The key of a pair in a flow sequence.  A missing key takes the token in its place with it. -/
def pairKey : Nat → Read Node
  | 0 => throw .tooDeep
  | fuel + 1 => do
    if ← atEnd [.value, .flowEntry, .flowSequenceEnd] then
      skip
      return empty .none
    else node fuel false false

/-- The entries of a flow mapping, of which the first needs no comma before it. -/
def flowEntries : Nat → Bool → Read (List (Node × Node))
  | 0, _ => throw .tooDeep
  | fuel + 1, first => do
    if (← peek) = some .flowMappingEnd then
      skip
      return []
    if !first then
      if (← peek) = some .flowEntry then skip else throw .unexpectedToken
    match ← peek with
    | some .flowMappingEnd => skip; return []
    | some .key =>
      skip
      let key ← nodeUnless fuel [.value, .flowEntry, .flowMappingEnd] false false
      let value ← valueUnless fuel [.flowEntry, .flowMappingEnd] false
      return (key, value) :: (← flowEntries fuel false)
    | _ =>
      let key ← node fuel false false
      return (key, empty .none) :: (← flowEntries fuel false)

end

/-! ### Documents -/

/-- The handles that are known without a directive: `!`, and `!!` for the tags of the core schema. -/
def defaultHandles : List (List Char × List UInt8) :=
  [(['!'], [0x21]), (['!', '!'], Text.Utf8.encode "tag:yaml.org,2002:")]

/-- The directives before a document, in at most `fuel` steps: whether a version was given, and the handles. -/
def directives : Nat → Bool → List (List Char × List UInt8) → Read (List (List Char × List UInt8))
  | 0, _, handles => return handles
  | fuel + 1, versioned, handles => do
    match ← peek with
    | some (.version major minor) =>
      skip
      if versioned then throw .repeatedDirective
      if major ≠ 1 || (minor ≠ 1 && minor ≠ 2) then throw .wrongVersion
      directives fuel true handles
    | some (.tagHandle handle start) =>
      skip
      if handles.any (·.1 = handle) then throw .repeatedDirective
      directives fuel versioned (handles ++ [(handle, start)])
    | _ => return handles

/-- Drops marks of a document's end, in at most `fuel` steps. -/
def skipEnds : Nat → Read Unit
  | 0 => pure ()
  | fuel + 1 => do
    if (← peek) = some .documentEnd then
      skip
      skipEnds fuel

/-- Whether a document's content may be left out before a token. -/
def endsDocument : Option Token → Bool
  | some (.version _ _) | some (.tagHandle _ _) | some .documentStart | some .documentEnd | none => true
  | _ => false

/-- A document with the directives before it, for a text of `length` tokens. -/
def explicitDocument (length : Nat) : Read Node := do
  let handles ← directives (length + 1) false []
  modify fun x => { x with handles := handles ++ defaultHandles }
  if (← peek) ≠ some .documentStart then throw .unexpectedToken
  skip
  if endsDocument (← peek) then return empty .none else node (4 * length + 8) true false

/-- The only document of a text, or nothing where the text has none. -/
def only? : Read (Option Node) := do
  let length := (← get).tokens.length
  if length = 0 then return none
  let root ←
    match ← peek with
    | some (.version _ _) | some (.tagHandle _ _) | some .documentStart => explicitDocument length
    | _ => node (4 * length + 8) true false
  skipEnds (length + 1)
  if (← get).tokens = [] then return some root else throw .severalDocuments

/-- The node that a list of tokens stands for, or nothing where it holds no document. -/
def ofTokens (ts : List Token) : Except Fault (Option Node) := only?.run' ⟨ts, defaultHandles, []⟩

/-! ### Anchors -/

mutual

/-- The number of marks that a node takes: one for a scalar or alias, two around a collection. -/
def size : Node → Nat
  | .alias _ => 1
  | .scalar _ _ _ => 1
  | .seq _ items => sizeItems items + 2
  | .map _ entries => sizeEntries entries + 2

def sizeItems : List Node → Nat
  | [] => 0
  | n :: ns => size n + sizeItems ns

def sizeEntries : List (Node × Node) → Nat
  | [] => 0
  | (k, v) :: es => size k + size v + sizeEntries es

end

/-- A node with the number of its anchor, if it has one. -/
def numbered (p : Properties) (n : Node) : List (Nat × Node) :=
  match p.anchor with
  | some id => [(id, n)]
  | none => []

mutual

/-- The anchored nodes in a node, in the order in which they begin. -/
def anchored : Node → List (Nat × Node)
  | .alias _ => []
  | .scalar p plain text => numbered p (.scalar p plain text)
  | .seq p items => numbered p (.seq p items) ++ anchoredItems items
  | .map p entries => numbered p (.map p entries) ++ anchoredEntries entries

def anchoredItems : List Node → List (Nat × Node)
  | [] => []
  | n :: ns => anchored n ++ anchoredItems ns

def anchoredEntries : List (Node × Node) → List (Nat × Node)
  | [] => []
  | (k, v) :: es => anchored k ++ anchored v ++ anchoredEntries es

end

end Node
end Postern.Yaml
