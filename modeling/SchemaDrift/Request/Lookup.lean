import SchemaDrift.Catalog.Document
import SchemaDrift.Metadata.Database
import SchemaDrift.Metadata.Inventory
import SchemaDrift.Request.Arguments

/-!
# Requests for metadata

The lookups of metadata sources by name, with their arguments by position, and what can be
recorded in an inventory.
-/

namespace SchemaDrift.Request

open Document (Value textOf)

def ofIndex (i : Index) : Value := .list [i.name, i.uniqueMark]

/-- A lookup by its name. Only that of foreign keys can do without a column. -/
def lookupOf (name : String) (args : List Value) : Except Fault Lookup := do
  let some lookup := Lookup.ofName? name | throw .unsupported
  positional (if lookup = .foreignKeys then 1 else 2) 2 args
  return lookup

def lookUp (d : Database) (name : String) (args : List Value) : Session Connections Value := do
  let (table, column) := (args.getD 0 .null, args.getD 1 .null)
  match ← lookupOf name args with
  | .foreignKeys => return .list (← d.foreignKeyNames table column)
  | .defaults => return .list (← d.defaultNames table column)
  | .indexes => return .list ((← d.indexesAbout table column).map ofIndex)

/-- Answers a request about a database: a lookup, one inside a scope, or how scopes share. -/
def databaseAnswer (d : Database) (operation : String) (args : List Value) :
    Session Connections Value := do
  match operation with
  | "in_scope" => d.provider.within do lookUp d (← textOf (args.headD .null)) args.tail
  | "nested_scopes_shared" =>
    let (shared, active) ← d.sharesConnection
    return .list [.bool shared, .bool active]
  | _ => lookUp d operation args

def consult (name : String) (args : List Value) : Session Inventory Value := do
  let (table, column) := (args.getD 0 .null, args.getD 1 .null)
  match ← lookupOf name args with
  | .foreignKeys => return .list (← Inventory.provider.foreignKeys table column)
  | .defaults => return .list (← Inventory.provider.defaults table column)
  | .indexes => return .list ((← Inventory.provider.indexes table column).map ofIndex)

def record (operation : String) (args : List Value) (i : Inventory) : Except Fault Inventory := do
  let arg (n : Nat) : Value := args.getD n .null
  match operation with
  | "add_foreign_key" =>
    positional 2 3 args
    i.addForeignKey (arg 0) (arg 1) (arg 2)
  | "add_default_constraint" =>
    positional 3 3 args
    i.addDefault (arg 0) (arg 1) (arg 2)
  | "add_index" =>
    positional 3 4 args
    i.addIndex (arg 0) (arg 1) ⟨arg 2, args.getD 3 (.bool false)⟩
  | _ => throw .unsupported

def scopes (i : Inventory) : Value := .list [.int i.opened, .int i.closed]

/-- A session inside nested scopes, of which there is at least one. -/
def nestedScopes {α : Type} (s : Session Inventory α) : (further : Nat) → Session Inventory α
  | 0 => Inventory.provider.within s
  | further + 1 => Inventory.provider.within (nestedScopes s further)

/-- The inventory that rows of records make, by the operation that records each. -/
def inventoryOf (rows : List (String × List Value)) : Except Fault Inventory :=
  rows.foldlM (fun i row => record row.1 row.2 i) {}

/-- Answers a request about an inventory: a record, a lookup, or a count of nested scopes. -/
def inventoryAnswer (operation : String) (args : List Value) : Session Inventory Value := do
  match operation with
  | "add_foreign_key" | "add_default_constraint" | "add_index" =>
    let recorded ← record operation args (← Session.source)
    Session.modifySource fun _ => recorded
    return .null
  | "scope" =>
    let some depth := (args.headD .null).asInt? | throw .wrongShape
    nestedScopes (do
      if (args.getD 1 .null).isTruthy then throw (.invalidValue "inside")
      return scopes (← Session.source)) (depth - 1).toNat
  | _ => consult operation args

end SchemaDrift.Request
