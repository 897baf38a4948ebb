import SchemaDrift.Request.Arguments

/-!
# Requests about models

The operations on an entity in its form, by name. A form is asked as it is: an attribute that no
statement could be made of still has its place and its parts.
-/

namespace SchemaDrift.Request

open Document (Value Entries)

def partOf (form : Value) (key : String) : Value :=
  match form with
  | .map entries => Reading.part entries key
  | _ => .null

def formsIn (form : Value) (key : String) : List Value :=
  match partOf form key with
  | .list items => items
  | _ => []

def formNamed (entity name : Value) : Except Fault Value :=
  match (formsIn entity "attributes").find? fun a => (partOf a "name").equals name with
  | some a => .ok a
  | none => .error (.unknownAttribute name (partOf entity "name") (partOf entity "table"))

def keyForm (entity : Value) : Except Fault Value :=
  match (formsIn entity "attributes").find? fun a => (partOf a "is_id").isTruthy with
  | some a => .ok a
  | none => .error (.missingKeyAttribute (partOf entity "name") (partOf entity "table"))

/-- The form that is asked for by a name, by a path, or written out. -/
def formOf (entity : Value) : Value → Except Fault Value
  | .text name => formNamed entity name
  | .list [] => .error .noSuchPosition
  | .list (name :: path) => do
    partAt (formsIn · "embedded_attributes") (← formNamed entity name) path
  | v => Form.ofAttribute v

def modelling (entity : Value) (operation : String) (args : Entries) : Except Fault Value :=
  match operation with
  | "dump" => .ok entity
  | "id_attribute" => return partOf (← keyForm entity) "name"
  | "attribute" => do formNamed entity (← Document.heldUnder args "name")
  | "column_name" => do
    (← Reading.attr (← formOf entity (← Document.heldUnder args "attribute"))).columnName
  | _ => .error .unsupported

/-- A class by its simple name and, where it is not the usual one, its package. -/
def classIn (args : List Value) : Except Fault Value := do
  positional 1 2 args
  return Form.ofTypeName (.inPackage (args.getD 0 .null) (args.getD 1 "java.lang"))

end SchemaDrift.Request
