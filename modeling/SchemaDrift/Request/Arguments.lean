import SchemaDrift.Model.Reading

/-!
# Arguments of requests

A request names an operation and gives its arguments by name. Those that are more than values are
read before anything else: the attribute, the class, and the columns found. What an operation
takes is known from its signature.
-/

namespace SchemaDrift.Request

open Document (Value Entries itemAt textOf)

/-- The arguments that an operation takes. -/
structure Signature where
  /-- Those that have to be given. -/
  required : List String
  /-- Those that have a default. -/
  others : List String := []
  /-- Those that are put in place of what is given. -/
  supplied : List String := []

def Signature.takes (s : Signature) (name : String) : Bool :=
  s.required.contains name || s.others.contains name || s.supplied.contains name

/-- Whether arguments fit a signature: nothing is missing, and nothing unknown is there. -/
def Signature.fits (s : Signature) (given : Entries) : Bool :=
  s.required.all (Value.hasKey · given) && given.all fun e => e.1.asText?.any s.takes

/-- What is at the end of a path of positions, where `parts` are what each step goes through. -/
def partAt {α : Type} (parts : α → List α) (a : α) : List Value → Except Fault α
  | [] => .ok a
  | v :: rest =>
    match v.asInt? with
    | none => .error .wrongShape
    | some position => do partAt parts (← itemAt (parts a) position) rest

/-- Refuses arguments by position that are too few or too many. -/
def positional (least most : Nat) (args : List Value) : Except Fault Unit :=
  if least ≤ args.length && args.length ≤ most then .ok () else .error .wrongShape

/-- A request with its arguments, and the entity that it is about if there is one. -/
structure Arguments where
  given : Entries
  entity? : Option Entity
  attr? : Option Attribute := none
  type? : Option TypeName := none
  /-- The column found, which there may not be. -/
  current? : Option (Option Column) := none
  columns? : Option (List (Value × Option Column)) := none

namespace Arguments

def attrNamed (entity? : Option Entity) (name : Value) : Except Fault Attribute :=
  match entity? with
  | some e => e.findAttribute name
  | none => .error .unsupported

/--
The attribute that a value names: one of the entity by its name, a part of one by its path, or one
that is written out.
-/
def attrOf (entity? : Option Entity) : Value → Except Fault Attribute
  | .text name => attrNamed entity? name
  | .list [] => .error .noSuchPosition
  | .list (name :: path) => do partAt Attribute.parts (← attrNamed entity? name) path
  | v => do Reading.attr (← Form.ofAttribute v)

/-- The class that a value describes, which has to be a map of exactly both names. -/
def typeOf : Value → Except Fault TypeName
  | .map entries => Form.typeName (.map entries)
  | _ => .error .wrongShape

def columnsOf (v : Value) : Except Fault (List (Value × Option Column)) := do
  let columns ← (← Document.entriesOf v).mapM fun e => do return (e.1, ← Reading.column? e.2)
  return columns

def reading {α : Type} (given : Entries) (key : String) (read : Value → Except Fault α) :
    Except Fault (Option α) :=
  match Value.lookup? key given with
  | some v => (read v).map some
  | none => .ok none

def read (given : Entries) (entity? : Option Entity) : Except Fault Arguments := do
  return {
    given, entity?
    attr? := ← reading given "attribute" (attrOf entity?)
    type? := ← reading given "type_descriptor" typeOf
    current? := ← reading given "current" Reading.column?
    columns? := ← reading given "current_columns" columnsOf }

/-- An argument as it is; nothing if it is not given. -/
def value (a : Arguments) (key : String) : Value := (Value.lookup? key a.given).getD .null

def valueOr (a : Arguments) (key : String) (default : Value) : Value :=
  (Value.lookup? key a.given).getD default

def text (a : Arguments) (key : String) : Except Fault String := textOf (a.value key)

def shown (a : Arguments) (key : String) : String := (a.value key).display

def flag (a : Arguments) (key : String) (default : Bool) : Bool :=
  (a.valueOr key (.bool default)).isTruthy

def table (a : Arguments) : Value := a.value "table"

/-- The column that the request is about; nothing if it is not given. -/
def column (a : Arguments) : Value := a.value "column"

def entity (a : Arguments) : Except Fault Entity :=
  match a.entity? with
  | some e => .ok e
  | none => .error .unsupported

def attr (a : Arguments) : Except Fault Attribute :=
  match a.attr? with
  | some found => .ok found
  | none => .error .wrongShape

def type (a : Arguments) : Except Fault TypeName :=
  match a.type? with
  | some found => .ok found
  | none => .error .wrongShape

def current (a : Arguments) : Option Column := a.current?.getD none

def columns (a : Arguments) : List (Value × Option Column) := a.columns?.getD []

end Arguments

end SchemaDrift.Request
