import SchemaDrift.Log.Layout
import SchemaDrift.OrderedMap

/-!
# The tree of loggers

Loggers are named by words with dots between them, and a logger passes on to those whose names
are in front of its own. A logger that is asked for writes to the output by itself from then on,
from its level upwards, and passes nothing on.
-/

namespace SchemaDrift.Log

open Document (Value)

/-- How the output of a logger is written. -/
structure Output where
  level : Int
  colourful : Bool
  colours : Bool
  deriving Repr, DecidableEq

/-- A logger of the tree. -/
structure Node where
  name : String
  /-- The level from which on entries are taken; zero leaves that to the loggers above. -/
  level : Int := 0
  output : Option Output := none
  /-- Whether entries are passed on to the loggers above. -/
  propagates : Bool := true
  deriving Repr, DecidableEq

/-- The loggers that are known, by name. -/
structure Tree where
  nodes : OrderedMap String Node := .empty
  terminal : Bool := false
  deriving Repr, DecidableEq

def rootName : String := "root"

/-- The logger above all others, as long as nobody asked for it. -/
def rootNode : Node := { name := rootName, level := Level.warning.number }

def libraryName : String := "schema_compiler"

def componentName (component : String) : String := libraryName ++ "." ++ component

/-- The name of the layout that loggers without one have; it is no level either. -/
def basicFormat : String := "BASIC_FORMAT"

/-- What stands behind that name. -/
def basicFormatText : String := "%(levelname)s:%(name)s:%(message)s"

/-- The number of a level name in any case; names of nothing else count as `INFO`. -/
def levelNumber (name : String) : Except Fault Int :=
  match Text.upper name with
  | "_STYLES" => .error .wrongShape
  | upper =>
    if upper = basicFormat then .error (.unknownLevel basicFormatText)
    else .ok ((numberOfName? upper).getD Level.info.number)

/--
The reversed names in front of the dots of a reversed name, the longest first. There is no name
right behind another dot.
-/
def prefixesFrom : List Char → List (List Char)
  | [] => []
  | [_] => []
  | c :: d :: cs => if c = '.' then (d :: cs) :: prefixesFrom cs else prefixesFrom (d :: cs)

/-- The names that a logger may pass on to, the closest first, without the one above all. -/
def namesAbove (name : String) : List String :=
  (prefixesFrom name.toList.reverse).map fun cs => String.ofList cs.reverse

namespace Tree

def keyOf (name : String) : String := if name = "" then rootName else name

def node (t : Tree) (name : String) : Node :=
  let key := keyOf name
  (t.nodes.get? key).getD (if key = rootName then rootNode else { name := key })

/-- The tree in which the logger of a name is known. -/
def know (t : Tree) (name : String) : Tree :=
  if t.nodes.contains (keyOf name) then t
  else { t with nodes := t.nodes.insert (keyOf name) (t.node name) }

/-- The known logger that a logger passes on to, unless that is the one above all. -/
def parent? (t : Tree) (name : String) : Option String :=
  (namesAbove name).find? t.nodes.contains

/-- The loggers that one passes on to, up to the one above all; `fuel` bounds their number. -/
def above (t : Tree) : (fuel : Nat) → String → List Node
  | 0, _ => [t.node rootName]
  | fuel + 1, name =>
    match t.parent? name with
    | some parent => t.node parent :: t.above fuel parent
    | none => [t.node rootName]

/-- The logger of a name and those that it passes on to. -/
def path (t : Tree) (name : String) : List Node :=
  if keyOf name = rootName then [t.node rootName] else t.node name :: t.above name.length name

/-- The first level that is set on the way up. -/
def effectiveLevel (t : Tree) (name : String) : Int :=
  (((t.path name).map (·.level)).find? (· != 0)).getD 0

/-- The outputs that an entry reaches: up to the first logger that passes nothing on. -/
def reached : List Node → List Output
  | [] => []
  | n :: above => n.output.toList ++ if n.propagates then reached above else []

/-- The tree in which a logger writes to the output. One that does so already stays as it is. -/
def ensure (t : Tree) (name : String) (levelName : Value) (colourful : Bool) :
    Except Fault Tree := do
  let n := t.node name
  if n.output.isSome then return t
  let .text levelName := levelName | throw .unsupported
  let level ← levelNumber levelName
  let colours := colourful && t.terminal
  return { t with
    nodes := t.nodes.insert (keyOf name)
      { n with level, output := some ⟨level, colourful, colours⟩, propagates := false } }

/-- An entry as an output writes it. One that cannot be written is left out. -/
def line (o : Output) (e : Entry) : String :=
  match Layout.full.render e with
  | .ok plain => (if o.colours then colourLine e plain else plain) ++ "\n"
  | .error _ => ""

/-- Whether a logger takes entries of a level. Only those of a level above zero are ever taken. -/
def takes (t : Tree) (name : String) (level : Int) : Bool :=
  0 < level && t.effectiveLevel name ≤ level

/-- What the output receives of an entry of a known logger. The level has to be a number. -/
def emit (t : Tree) (name : String) (e : Entry) : Except Fault String :=
  let entry := { e with logger := (t.node name).name }
  match e.level.asInt? with
  | none => .error .wrongShape
  | some level =>
    .ok <|
      if t.takes name level then
        String.join (((reached (t.path name)).filter (·.level ≤ level)).map (line · entry))
      else ""

end Tree

end SchemaDrift.Log
