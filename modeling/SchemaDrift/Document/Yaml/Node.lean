import SchemaDrift.Document.Yaml.Kind
import SchemaDrift.Document.Yaml.Token

/-!
# Nodes of YAML

The tokens of a text as nodes: scalars, lists and maps, each with its kind. A node names the nodes
it holds by their places, because an alias may stand for any node that has begun, even for one
around it.
-/

namespace SchemaDrift.Document.Yaml

/-- A value as it is written. What it holds is given by places among the nodes of the text. -/
inductive Node where
  | scalar (kind : Kind) (text : String)
  | list (kind : Kind) (items : List Nat)
  | map (kind : Kind) (entries : List (Nat × Nat))
  deriving Repr

namespace Node

def kind : Node → Kind
  | scalar kind _ => kind
  | list kind _ => kind
  | map kind _ => kind

def absent : Node := scalar .null ""

end Node

/-- The nodes of a text and the place of the one that is the document. -/
structure Graph where
  nodes : Array Node
  root : Nat
  deriving Repr

namespace Graph

/-- The state of putting tokens together. -/
structure Assembly where
  tokens : List Token
  nodes : Array Node := #[]
  /-- The places of the nodes that anchors name. -/
  anchors : List (String × Nat) := []
  /-- What the handles of tags stand for. -/
  handles : List (String × String) := []
  /-- How many collections are around the next token. -/
  depth : Nat := 0

/-- Takes tokens off the front, unless they are at fault. -/
abbrev Assemble := StateT Assembly (Except Fault)

def refuse {α : Type} : Assemble α := throw .yamlSyntax

def next : Assemble (Option Token) := do
  match (← get).tokens with
  | .senseless fault :: _ => throw fault
  | tokens => return tokens.head?

def advance : Assemble Unit := modify fun a => { a with tokens := a.tokens.drop 1 }

def accept (t : Token) : Assemble Bool := do
  if (← next) == some t then
    advance
    return true
  else return false

def expect (t : Token) : Assemble Unit := do
  if ← accept t then return () else refuse

def nextIsOneOf (ts : List Token) : Assemble Bool := return (← next).any ts.contains

def anchorHere : Assemble (Option String) := do
  match ← next with
  | some (.anchor name) =>
    advance
    return some name
  | _ => return none

def tagHere : Assemble (Option (Option String × String)) := do
  match ← next with
  | some (.tag handle suffix) =>
    advance
    return some (handle, suffix)
  | _ => return none

/-- A tag with its handle written out. -/
def writtenOut : Option String × String → Assemble String
  | (none, suffix) => return suffix
  | (some handle, suffix) => do
    match (← get).handles.lookup handle with
    | some start => return start ++ suffix
    | none => refuse

/-- The tag that leaves the kind to the look of the value. -/
def openTag : String := "!"

/-- The kind of a scalar: the tag's, or that of its look if it is plain or marked for that. -/
def scalarKind (tag : Option String) (isPlain : Bool) (text : String) : Kind :=
  match tag with
  | some t => if t == openTag then .ofPlain text else .ofTag t
  | none => if isPlain then .ofPlain text else .text

/-- The kind of a collection: the tag's, or the usual one. -/
def collectionKind (tag : Option String) (usual : Kind) : Kind :=
  match tag with
  | some t => if t == openTag then usual else .ofTag t
  | none => usual

/-- Adds a node, which an anchor may name. An anchor names one node only. -/
def place (anchor : Option String) (n : Node) : Assemble Nat := do
  let a ← get
  let id := a.nodes.size
  let anchors ←
    match anchor with
    | none => pure a.anchors
    | some name => if (a.anchors.lookup name).isSome then refuse else pure ((name, id) :: a.anchors)
  set { a with nodes := a.nodes.push n, anchors }
  return id

/-- Gives a node that has begun what it holds. -/
def fill (id : Nat) (n : Node) : Assemble Nat := do
  modify fun a => { a with nodes := a.nodes.setIfInBounds id n }
  return id

/-- How many collections may be inside each other. -/
def depthBound : Nat := 490

/-- Reads what a collection holds, unless it is too deep inside others. -/
def inside {α : Type} (held : Assemble α) : Assemble α := do
  if depthBound ≤ (← get).depth then throw .tooDeep
  modify fun a => { a with depth := a.depth + 1 }
  let found ← held
  modify fun a => { a with depth := a.depth - 1 }
  return found

def absent : Assemble Nat := place none .absent

mutual

/--
A node. One written by indentation is allowed in a block; `unindented` also allows the items of a
list without an indentation of their own. `fuel` bounds the size of the node.
-/
def node (inBlock unindented : Bool) : (fuel : Nat) → Assemble Nat
  | 0 => refuse
  | fuel + 1 => do
    if let some (.alias name) := ← next then
      advance
      match (← get).anchors.lookup name with
      | some id => return id
      | none => refuse
    let before ← anchorHere
    let written ← tagHere
    let anchor ←
      match before with
      | some name => pure (some name)
      | none => anchorHere
    let tag ← written.mapM writtenOut
    content inBlock unindented anchor tag fuel

/-- A node behind its anchor and tag, either of which allows it to be left out. -/
def content (inBlock unindented : Bool) (anchor tag : Option String) : (fuel : Nat) → Assemble Nat
  | 0 => refuse
  | fuel + 1 => do
    let listKind := collectionKind tag .list
    let mapKind := collectionKind tag .map
    let leftOut : Assemble Nat :=
      if anchor.isSome || tag.isSome then place anchor (.scalar (scalarKind tag true "") "")
      else refuse
    match ← next with
    | some (.scalar isPlain text) =>
      advance
      place anchor (.scalar (scalarKind tag isPlain text) text)
    | some .openList =>
      advance
      let id ← place anchor (.list listKind [])
      fill id (.list listKind (← inside (listInBrackets fuel)))
    | some .openMap =>
      advance
      let id ← place anchor (.map mapKind [])
      fill id (.map mapKind (← inside (mapInBraces fuel)))
    | some .beginList =>
      if !inBlock then refuse
      advance
      let id ← place anchor (.list listKind [])
      fill id (.list listKind (← inside (itemsInBlock fuel)))
    | some .beginMap =>
      if !inBlock then refuse
      advance
      let id ← place anchor (.map mapKind [])
      fill id (.map mapKind (← inside (entriesInBlock fuel)))
    | some .dash =>
      if unindented then
        let id ← place anchor (.list listKind [])
        fill id (.list listKind (← inside (itemsUnindented fuel)))
      else leftOut
    | _ => leftOut

/-- A node, or an absent one in front of certain tokens. -/
def nodeUnless (stops : List Token) (inBlock unindented : Bool) : (fuel : Nat) → Assemble Nat
  | 0 => refuse
  | fuel + 1 => do
    if ← nextIsOneOf stops then absent else node inBlock unindented fuel

/-- The items of a list in a block, up to its end. -/
def itemsInBlock : (fuel : Nat) → Assemble (List Nat)
  | 0 => refuse
  | fuel + 1 => do
    if ← accept .dash then
      let item ← nodeUnless [.dash, .endBlock] true false fuel
      return item :: (← itemsInBlock fuel)
    else
      expect .endBlock
      return []

/-- The items of a list that is not indented on its own. -/
def itemsUnindented : (fuel : Nat) → Assemble (List Nat)
  | 0 => refuse
  | fuel + 1 => do
    if ← accept .dash then
      let item ← nodeUnless [.dash, .keyMark, .valueMark, .endBlock] true false fuel
      return item :: (← itemsUnindented fuel)
    else return []

/-- The entries of a map in a block, up to its end. A key or a value may be left out. -/
def entriesInBlock : (fuel : Nat) → Assemble (List (Nat × Nat))
  | 0 => refuse
  | fuel + 1 => do
    let stops : List Token := [.keyMark, .valueMark, .endBlock]
    if ← accept .keyMark then
      let key ← nodeUnless stops true true fuel
      let value ← if ← accept .valueMark then nodeUnless stops true true fuel else absent
      return (key, value) :: (← entriesInBlock fuel)
    else
      expect .endBlock
      return []

def listInBrackets : (fuel : Nat) → Assemble (List Nat)
  | 0 => refuse
  | fuel + 1 => do
    if ← accept .closeList then return []
    let item ←
      if ← accept .keyMark then
        let id ← place none (.map .map [])
        let entry ← inside do
          let key ← nodeUnless [.valueMark, .comma, .closeList] false false fuel
          let value ←
            if ← accept .valueMark then nodeUnless [.comma, .closeList] false false fuel
            else absent
          return (key, value)
        fill id (.map .map [entry])
      else node false false fuel
    if ← accept .comma then return item :: (← listInBrackets fuel)
    else
      expect .closeList
      return [item]

/-- The entries of a map behind its opening brace. -/
def mapInBraces : (fuel : Nat) → Assemble (List (Nat × Nat))
  | 0 => refuse
  | fuel + 1 => do
    if ← accept .closeMap then return []
    let entry ←
      if ← accept .keyMark then
        let key ← nodeUnless [.valueMark, .comma, .closeMap] false false fuel
        let value ←
          if ← accept .valueMark then nodeUnless [.comma, .closeMap] false false fuel
          else absent
        pure (key, value)
      else pure (← node false false fuel, ← absent)
    if ← accept .comma then return entry :: (← mapInBraces fuel)
    else
      expect .closeMap
      return [entry]

end

/-- The handles of tags that need no directive. -/
def usualHandles : List (String × String) := [("!", "!"), ("!!", Kind.languagePrefix)]

/-- The directives in front of a document; whether a version was stated, and the handles. -/
def directives : (fuel : Nat) → Bool → List (String × String) →
    Assemble (List (String × String))
  | 0, _, _ => refuse
  | fuel + 1, versioned, handles => do
    match ← next with
    | some (.version major) =>
      if versioned || major != 1 then refuse
      advance
      directives fuel true handles
    | some (.tagHandle handle start) =>
      if (handles.lookup handle).isSome then refuse
      advance
      directives fuel versioned ((handle, start) :: handles)
    | some .otherDirective =>
      advance
      directives fuel versioned handles
    | _ => return handles

def isDirective : Token → Bool
  | .version _ | .tagHandle .. | .otherDirective => true
  | _ => false

def skipEnds : (fuel : Nat) → Assemble Unit
  | 0 => pure ()
  | fuel + 1 => do if ← accept .endDocument then skipEnds fuel

def announced (fuel : Nat) : Assemble Nat := do
  let handles ← directives fuel false []
  expect .beginDocument
  modify fun a => { a with handles := handles ++ usualHandles }
  let t ← next
  if t.isNone || t.any fun t => isDirective t || t == .beginDocument || t == .endDocument then
    absent
  else node true false fuel

/-- The document of a text, if it has one. There may be no more than one. -/
def document (fuel : Nat) : Assemble (Option Nat) := do
  match ← next with
  | none => return none
  | some t =>
    let root ←
      if isDirective t || t == .beginDocument then announced fuel
      else do
        modify fun a => { a with handles := usualHandles }
        node true false fuel
    skipEnds fuel
    if (← next).isSome then refuse
    return some root

def ofTokens (tokens : List Token) : Except Fault (Option Graph) := do
  let (root, a) ← (document (4 * tokens.length + 8)).run { tokens }
  return root.map fun root => ⟨a.nodes, root⟩

end Graph

end SchemaDrift.Document.Yaml
