import SchemaDrift.Document.Entries
import SchemaDrift.Metadata.Session
import SchemaDrift.Text.Case

/-!
# Recorded metadata

A metadata source held in memory, for runs without a database. Tables and columns are recorded
and asked for in upper case; each lookup answers in the order of recording. The source counts
the scopes that were opened and closed, and lookups can be made to fail.
-/

namespace SchemaDrift

open Document (Value textOf)

/-- A recorded foreign key. A column that is not known counts as false. -/
structure ForeignKeyEntry where
  table : String
  name : Value
  column : Value
  deriving Repr, DecidableEq

/-- A recorded default constraint. -/
structure DefaultEntry where
  table : String
  column : String
  name : Value
  deriving Repr, DecidableEq

/-- A recorded index. -/
structure IndexEntry where
  table : String
  column : String
  index : Index
  deriving Repr, DecidableEq

/-- Recorded metadata. Tables and columns are in upper case. -/
structure Inventory where
  foreignKeyEntries : List ForeignKeyEntry := []
  defaultEntries : List DefaultEntry := []
  indexEntries : List IndexEntry := []
  /-- The lookups that fail, by kind, table and column. -/
  fails : Lookup → Value → Value → Bool := fun _ _ _ => false
  opened : Nat := 0
  closed : Nat := 0
  deriving Inhabited

namespace Inventory

def keyOf (v : Value) : Except Fault String := (textOf v).map Text.upper

/-- The column that a foreign key is recorded with: in upper case if there is one. -/
def recordedColumn (v : Value) : Except Fault Value :=
  if v.isTruthy then (keyOf v).map .text else .ok v

def addForeignKey (i : Inventory) (table name column : Value) : Except Fault Inventory := do
  let entry : ForeignKeyEntry := ⟨← keyOf table, name, ← recordedColumn column⟩
  return { i with foreignKeyEntries := i.foreignKeyEntries ++ [entry] }

def addDefault (i : Inventory) (table column name : Value) : Except Fault Inventory := do
  let entry : DefaultEntry := ⟨← keyOf table, ← keyOf column, name⟩
  return { i with defaultEntries := i.defaultEntries ++ [entry] }

def addIndex (i : Inventory) (table column : Value) (index : Index) : Except Fault Inventory := do
  let entry : IndexEntry := ⟨← keyOf table, ← keyOf column, index⟩
  return { i with indexEntries := i.indexEntries ++ [entry] }

/-- The foreign keys among entries that are recorded with a column; each is asked by itself. -/
def keysOfColumn (entries : List ForeignKeyEntry) (column : Value) :
    Except Fault (List ForeignKeyEntry) :=
  if column = .null || entries.isEmpty then .ok entries
  else do
    let key ← keyOf column
    return entries.filter (·.column == .text key)

/-- The foreign keys of a table, or those recorded with a certain column. -/
def foreignKeys (i : Inventory) (table column : Value) : Except Fault (List Value) := do
  let key ← keyOf table
  let entries ← keysOfColumn (i.foreignKeyEntries.filter (·.table == key)) column
  return entries.map (·.name)

def defaults (i : Inventory) (table column : Value) : Except Fault (List Value) := do
  let (t, c) := (← keyOf table, ← keyOf column)
  return (i.defaultEntries.filter fun e => e.table == t && e.column == c).map (·.name)

def indexes (i : Inventory) (table column : Value) : Except Fault (List Index) := do
  let (t, c) := (← keyOf table, ← keyOf column)
  return (i.indexEntries.filter fun e => e.table == t && e.column == c).map (·.index)

def openScope (i : Inventory) : Inventory := { i with opened := i.opened + 1 }

def closeScope (i : Inventory) : Inventory := { i with closed := i.closed + 1 }

def lookupFault (lookup : Lookup) (table : Value) : Fault :=
  .metadata lookup.name table (some "lookup failed")

/-- Answers a lookup, unless it is one that fails. -/
def answer {α : Type} (lookup : Lookup) (table column : Value)
    (read : Inventory → Except Fault α) : Session Inventory α := do
  let i ← Session.source
  if i.fails lookup table column then
    throw (lookupFault lookup table)
  else
    read i

/-- The recorded metadata as a metadata source. -/
def provider : Provider Inventory where
  within s := do
    Session.modifySource openScope
    s.ensuring fun t => { t with source := t.source.closeScope }
  foreignKeys table column := answer .foreignKeys table column (·.foreignKeys table column)
  defaults table column := answer .defaults table column (·.defaults table column)
  indexes table column := answer .indexes table column (·.indexes table column)

end Inventory

end SchemaDrift
