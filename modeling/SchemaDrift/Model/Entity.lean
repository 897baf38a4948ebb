import SchemaDrift.Model.Attribute

/-!
# Entities and columns

An entity is a table with attributes and a kind of key. A column is what is known of one column
of a table, wanted or found.
-/

namespace SchemaDrift

open Document (Value)

/-- An entity of the model. -/
structure Entity where
  name : Value
  table : Value
  attributes : List Attribute := []
  keyType : KeyType := .uuid
  /-- Whether rows are marked as deleted instead of being removed. -/
  softDelete : Bool := false
  deriving Repr, Inhabited

namespace Entity

/-- The attribute that identifies the entity: the first one that is marked so. -/
def keyAttribute (e : Entity) : Except Fault Attribute :=
  match e.attributes.find? (·.field.isId) with
  | some a => .ok a
  | none => .error (.missingKeyAttribute e.name e.table)

def findAttribute (e : Entity) (name : Value) : Except Fault Attribute :=
  match e.attributes.find? (·.field.name.equals name) with
  | some a => .ok a
  | none => .error (.unknownAttribute name e.name e.table)

/-- The plain attributes of the entity with their columns, in order. -/
def leaves (e : Entity) : List Attribute.Leaf := Attribute.expandAll (.ok "") e.attributes

end Entity

/-- What is known of a column. -/
structure Column where
  /-- The type, which is a text unless a dialect has something else for a logical type. -/
  type : Value
  length : Value := .null
  precision : Value := .null
  scale : Value := .null
  /-- Whether the column admits null; what counts as false means no. -/
  nullable : Value := .bool true
  default : Value := .null
  deriving Repr, DecidableEq

namespace Column

def admitsNull (c : Column) : Bool := c.nullable.isTruthy

/-- The parameters of the column and, where it holds, `not null`. -/
def details (c : Column) : String :=
  let parameters :=
    if c.length.isTruthy then "(" ++ c.length.display ++ ")"
    else if c.precision.isTruthy then
      "(" ++ c.precision.display ++ ", " ++ (c.scale.statedOr (.int 0)).display ++ ")"
    else ""
  parameters ++ if c.admitsNull then "" else " not null"

/-- The column type with what holds of the column behind it, if the type can be followed by that. -/
def description? (c : Column) : Option Value := c.type.followedBy? c.details

def describe? : Option Column → String
  | none => "<none>"
  | some c => (c.description?.getD c.type).display

def isDescribable (c : Column) : Bool := c.description?.isSome

/-- The column once it has been described: a list that is its type keeps what it took. -/
def described (c : Column) : Column :=
  match c.type with
  | .list _ => { c with type := c.description?.getD c.type }
  | _ => c

end Column

end SchemaDrift
