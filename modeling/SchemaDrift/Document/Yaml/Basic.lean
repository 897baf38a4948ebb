import SchemaDrift.Document.Yaml.Meaning
import SchemaDrift.Document.Yaml.Node

/-!
# YAML

A YAML text holds one document at most. What its nodes mean is found out level by level, from the
root down, so that a node may hold one around it. A map first takes over the entries of the maps
that its merge keys name, and its own entries overwrite them.
-/

namespace SchemaDrift.Document.Yaml

/-- What a node means. What it holds is given by places, keys are given by themselves. -/
inductive Sense where
  | scalar (v : Value)
  | list (items : List Nat)
  | map (entries : List (Value × Nat))
  | set (keys : List Value)
  | pairs (entries : List (Nat × Nat))

/-- The state of finding out what nodes mean. -/
structure Study where
  nodes : Array Node
  /-- What the nodes that have been met mean. A collection holds nothing before its turn. -/
  senses : Array (Option Sense)
  /-- The collections that have been met, in that order. -/
  queue : Array Nat := #[]

namespace Study

/-- Finds something out about nodes. -/
abbrev Find := StateT Study (Except Fault)

def refuse {α : Type} : Find α := throw .yamlSyntax

def node (id : Nat) : Find Node := do
  match (← get).nodes[id]? with
  | some n => return n
  | none => refuse

def setNode (id : Nat) (n : Node) : Find Unit :=
  modify fun s => { s with nodes := s.nodes.setIfInBounds id n }

/-- Settles what a node means. -/
def settle (id : Nat) (sense : Sense) : Find Unit :=
  modify fun s => { s with senses := s.senses.setIfInBounds id (some sense) }

/-- Puts a collection in the queue. -/
def await (id : Nat) : Find Unit :=
  modify fun s => { s with queue := s.queue.push id }

/-- The first of some entries whose key has a kind. -/
def entryOfKind? (kind : Kind) (entries : List (Nat × Nat)) : Find (Option (Nat × Nat)) :=
  entries.findM? fun e => return (← node e.1).kind == kind

/--
The text of a scalar, or of the one that a map stands for. The way to it is without end if it is
longer than `fuel`, the number of nodes.
-/
def scalarText : (fuel : Nat) → Nat → Find String
  | 0, _ => throw .tooDeep
  | fuel + 1, id => do
    match ← node id with
    | .scalar _ text => return text
    | .list .. => refuse
    | .map _ entries =>
      match ← entryOfKind? .default entries with
      | some (_, value) => scalarText fuel value
      | none => refuse

/-- The value of a node of some kind of scalars. Only a scalar can be a point in time. -/
def scalarValue (kind : Kind) (id : Nat) : Find Value := do
  if !kind.isScalar then refuse
  let text ← scalarText ((← get).nodes.size + 1) id
  match kind, ← node id with
  | .moment, .map .. => throw .wrongShape
  | _, _ => (meaning kind text : Except Fault Value)

/-- Meets a node: what a scalar means is found out at once, a collection has to wait. -/
def meet (id : Nat) : Find Sense := do
  match (← get).senses[id]? with
  | some (some sense) => return sense
  | _ =>
    let kind := (← node id).kind
    let sense ←
      if kind.isCollection then
        await id
        pure (.list [])
      else Sense.scalar <$> scalarValue kind id
    settle id sense
    return sense

/-- Meets a key of a map, which may not be a collection. -/
def meetKey (id : Nat) : Find Value := do
  match ← meet id with
  | .scalar v => return v
  | _ => refuse

def entriesOf (id : Nat) : Find (List (Nat × Nat)) := do
  match ← node id with
  | .map _ entries => return entries
  | _ => refuse

def setEntries (id : Nat) (entries : List (Nat × Nat)) : Find Unit := do
  setNode id (.map (← node id).kind entries)

/-- Makes a key that names the value of its map a text. -/
def asText (key : Nat) : Find Unit := do
  match ← node key with
  | .scalar .default text => setNode key (.scalar .text text)
  | .list .default items => setNode key (.list .text items)
  | .map .default entries => setNode key (.map .text entries)
  | _ => return ()

mutual

/-- Puts what the merge keys of a map name in front of its entries, and removes these keys. -/
def flatten : (fuel : Nat) → Nat → Find Unit
  | 0, _ => refuse
  | fuel + 1, id => do
    let entries ← entriesOf id
    match ← entryOfKind? .merge entries with
    | none => entries.forM fun e => asText e.1
    | some (key, source) =>
      setEntries id (entries.erase (key, source))
      let taken ← takenFrom fuel source
      flatten fuel id
      setEntries id (taken ++ (← entriesOf id))

/-- The entries of a map that another takes over, or of several, those of the last in front. -/
def takenFrom : (fuel : Nat) → Nat → Find (List (Nat × Nat))
  | 0, _ => refuse
  | fuel + 1, source => do
    match ← node source with
    | .scalar .. => refuse
    | .map .. =>
      flatten fuel source
      entriesOf source
    | .list _ items =>
      let taken ← items.mapM fun item => do
        flatten fuel item
        entriesOf item
      return taken.reverse.flatten

end

def entryCount : Node → Nat
  | .map _ entries => entries.length
  | _ => 0

/-- The entries of a map in the end: its keys, and the places of what they hold. -/
def mapEntries (id : Nat) : Find (List (Value × Nat)) := do
  let nodes := (← get).nodes
  let _ ← entriesOf id
  flatten (2 * nodes.foldl (fun n node => n + entryCount node) 0 + 2) id
  (← entriesOf id).mapM fun (key, value) => do
    let k ← meetKey key
    let _ ← meet value
    return (k, value)

def itemsOf (id : Nat) : Find (List Nat) := do
  match ← node id with
  | .list _ items => return items
  | _ => refuse

def onlyEntry (id : Nat) : Find (Nat × Nat) := do
  match ← entriesOf id with
  | [e] => return e
  | _ => refuse

/-- Finds out what a collection means, and meets what it holds. -/
def finish (id : Nat) : Find Unit := do
  match (← node id).kind with
  | .list =>
    let items ← itemsOf id
    items.forM fun item => discard (meet item)
    settle id (.list items)
  | .map => settle id (.map (← mapEntries id))
  | .set => settle id (.set ((← mapEntries id).map (·.1)))
  | _ =>
    let entries ← (← itemsOf id).mapM fun item => do
      let (key, value) ← onlyEntry item
      let _ ← meet key
      let _ ← meet value
      return (key, value)
    settle id (.pairs entries)

/-- Finishes the collections from a place in the queue on; `fuel` bounds their number. -/
def finishFrom : (fuel : Nat) → Nat → Find Unit
  | 0, _ => return ()
  | fuel + 1, turn => do
    match (← get).queue[turn]? with
    | none => return ()
    | some id =>
      finish id
      finishFrom fuel (turn + 1)

/-- Makes values, each once. -/
abbrev Make := StateM (Array (Option Value))

/-- The value that a node has in some values; nothing if it has none. -/
def valueAmong (values : Array (Option Value)) (id : Nat) : Value :=
  (values[id]?.join).getD .null

/--
The value of a node. A node that is asked for while it is made counts as what it was before;
`fuel` bounds the number of nodes around each other.
-/
def make (senses : Array (Option Sense)) (before : Array (Option Value)) :
    (fuel : Nat) → Nat → Make Value
  | 0, id => return valueAmong before id
  | fuel + 1, id => do
    match (← get)[id]? with
    | some (some v) => return v
    | _ =>
      modify fun made => made.setIfInBounds id (some (valueAmong before id))
      let part (id : Nat) : Make Value := make senses before fuel id
      let v : Value ←
        match senses[id]? with
        | some (some sense) =>
          match sense with
          | .scalar v => pure v
          | .list items => Value.list <$> items.mapM part
          | .map entries =>
            (Value.map ∘ Value.collect) <$> entries.mapM fun (key, value) => do
              return (key, ← part value)
          | .set keys => pure (.list ((Value.collect (keys.map (·, .null))).map (·.1)))
          | .pairs entries =>
            Value.list <$> entries.mapM fun (key, value) => do
              return .list [← part key, ← part value]
        | _ => pure .null
      modify fun made => made.setIfInBounds id (some v)
      return v

/-- How often values are made anew, and so how often a node that holds itself is seen inside. -/
def rounds : Nat := 5

/-- The values of the nodes around one, made a number of times. -/
def valuesAfter (senses : Array (Option Sense)) (id : Nat) : (times : Nat) → Array (Option Value)
  | 0 => Array.replicate senses.size none
  | times + 1 =>
    let before := valuesAfter senses id times
    ((make senses before (senses.size + 1) id).run (Array.replicate senses.size none)).2

def value (g : Graph) : Except Fault Value := do
  let count := g.nodes.size
  let search : Find Unit := do
    let _ ← meet g.root
    finishFrom count 0
  let (_, s) ← search.run { nodes := g.nodes, senses := Array.replicate count none }
  return valueAmong (valuesAfter s.senses g.root rounds) g.root

end Study

/-- Reads a text; nothing if it holds no document. -/
def read (text : String) : Except Fault (Option Value) := do
  let graph ← Graph.ofTokens (← Token.ofText text)
  graph.mapM Study.value

end SchemaDrift.Document.Yaml
