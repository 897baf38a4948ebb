import SchemaDrift.Config.Basic
import SchemaDrift.Metadata.Session
import SchemaDrift.Text.Search

/-!
# Metadata of a database

A metadata source that asks a database by queries. Lookups inside one scope share a connection;
a scope inside another shares that of the outer one, and a connection is closed with the scope
that opened it. What the database would answer is part of the source, query by query.
-/

namespace SchemaDrift

open Log (Level)
open Document (Value)

/-- An index as the database describes it. -/
structure IndexRow where
  index : Index
  /-- The indexed columns and expressions. -/
  expressions : Option String
  /-- The statement that created the index. -/
  definition : Option String
  deriving Repr, DecidableEq

namespace IndexRow

/-- What stands behind the first opening parenthesis of a definition. -/
def columnList (definition : String) : String :=
  String.ofList ((definition.toList.dropWhile (· != '(')).drop 1)

/-- The text in which the columns of the index are named. -/
def searched (hasDefinitions : Bool) (r : IndexRow) : String :=
  let expressions := r.expressions.getD ""
  if hasDefinitions then expressions ++ " " ++ columnList (r.definition.getD "") else expressions

def mentions (hasDefinitions : Bool) (column : String) (r : IndexRow) : Bool :=
  Text.holdsWord column (r.searched hasDefinitions)

end IndexRow

/-- What a database answers to a query: rows, or the words in which it fails. -/
abbrev Answer (α : Type) := Except String (List α)

/-- The words in which a query fails, if it does. -/
def Answer.failure? {α : Type} : Answer α → Option String
  | .ok _ => none
  | .error words => some words

/-- The queries by which a database is asked for its metadata. -/
structure MetadataQueries where
  foreignKeys : String :=
    "SELECT constraint_name FROM information_schema.table_constraints " ++
      "WHERE upper(table_name) = upper(?) AND constraint_type = 'FOREIGN KEY' " ++
      "ORDER BY constraint_name"
  columnForeignKeys : String :=
    "SELECT DISTINCT tc.constraint_name FROM information_schema.table_constraints tc " ++
      "JOIN information_schema.key_column_usage kcu " ++
      "ON tc.constraint_name = kcu.constraint_name AND tc.table_name = kcu.table_name " ++
      "WHERE upper(tc.table_name) = upper(?) AND upper(kcu.column_name) = upper(?) " ++
      "AND tc.constraint_type = 'FOREIGN KEY' " ++
      "ORDER BY tc.constraint_name"
  /-- Databases whose default constraints have no names are not asked for them. -/
  defaults : Option String := none
  indexes : String :=
    "SELECT index_name, is_unique, expressions, sql FROM duckdb_indexes() " ++
      "WHERE upper(table_name) = upper(?) " ++
      "ORDER BY index_name"
  deriving Repr, DecidableEq

/-- The query for default constraints, if there is one; an empty text is none. -/
def MetadataQueries.defaults? (q : MetadataQueries) : Option String := q.defaults.filter (· != "")

/-- A query about a table as it is made: its text and what is put in place of its marks. -/
structure Query where
  lookup : Lookup
  table : Value
  sql : String
  parameters : List Value

namespace Query

/-- The number of characters of a query that are reported. -/
def excerpt : Nat := 100

def report (q : Query) : String :=
  q.lookup.name ++ ": " ++ String.ofList (q.sql.toList.take excerpt) ++ "... " ++
    (Value.list q.parameters).shown

def failureReport (q : Query) (words : String) : String :=
  q.lookup.name ++ " 查詢失敗 (表格: " ++ q.table.display ++ "): " ++ words

def fault (q : Query) (words : String) : Fault := .metadata q.lookup.name q.table (some words)

end Query

/-- A database as far as its metadata go. Attempts to connect and queries are numbered from zero. -/
structure Database where
  path : String
  /-- Whether path and mode are such that a connection can be asked for at all. -/
  isConnectable : Bool := true
  /-- The words in which an attempt to connect is refused, if it is. -/
  refusal? : Nat → Option String
  logger : Option Log.Logger := none
  statementLogging : Bool := true
  queries : MetadataQueries := {}
  foreignKeys : Nat → Answer String := fun _ => .ok []
  columnForeignKeys : Nat → Answer String := fun _ => .ok []
  defaults : Nat → Answer String := fun _ => .ok []
  indexes : Nat → Answer IndexRow := fun _ => .ok []
  hasDefinitions : Bool := true

/-- What happens between a source and its database. -/
inductive ConnectionEvent where
  | opened (connection : Nat)
  | refused
  | asked (connection : Nat)
  | closed (connection : Nat)
  deriving Repr, DecidableEq

namespace ConnectionEvent

def isAttempt : ConnectionEvent → Bool
  | opened _ | refused => true
  | asked _ | closed _ => false

def isQuery : ConnectionEvent → Bool
  | asked _ => true
  | opened _ | refused | closed _ => false

end ConnectionEvent

/-- The connections of a source. -/
structure Connections where
  history : List ConnectionEvent := []
  /-- The number of the connection in use. -/
  active : Option Nat := none
  deriving Repr, DecidableEq

namespace Connections

/-- How often a connection was asked for. It is the number of the next one. -/
def attempts (c : Connections) : Nat := c.history.countP (·.isAttempt)

def queries (c : Connections) : Nat := c.history.countP (·.isQuery)

def connect (c : Connections) : Connections := ⟨c.history ++ [.opened c.attempts], some c.attempts⟩

def refuse (c : Connections) : Connections := { c with history := c.history ++ [.refused] }

def query (c : Connections) (connection : Nat) : Connections :=
  { c with history := c.history ++ [.asked connection] }

def disconnect (c : Connections) (connection : Nat) : Connections :=
  ⟨c.history ++ [.closed connection], none⟩

end Connections

namespace Database

def inMemory : String := ":memory:"

/-- Whether a database without a file can be opened: one in memory, or one that may be written
into a directory that exists. -/
def opensAnew (path : String) (readOnly : Bool) : Bool :=
  path == inMemory || !readOnly && !path.toList.contains '/'

/-- Whether a setting of the mode is known as one: what counts as false has to be `false`. -/
def isMode (readOnly : Value) : Bool := readOnly.isTruthy || readOnly == .bool false

/-- The database of a configuration, without any rows. It refuses in words of its own. -/
def ofConfig (config : Config) (words : String) : Database :=
  let path := config.databasePath.asText?
  { path := path.getD ""
    isConnectable := path.isSome && isMode config.readOnlySetting
    refusal? := fun _ => if opensAnew (path.getD "") config.readOnly then none else some words
    logger := config.logger
    statementLogging := config.statementLogging }

def accepts (d : Database) (attempt : Nat) : Bool := (d.refusal? attempt).isNone

def unreachable (d : Database) (attempt : Nat) : Fault :=
  .metadata "connect" d.path (d.refusal? attempt)

def closing (d : Database) (connection : Nat) (t : Trail Connections) : Trail Connections :=
  let closed := { t with source := t.source.disconnect connection }
  match d.logger with
  | none | some (.mute _) => closed
  | some .recorder => { closed with log := closed.log ++ [⟨.debug, "關閉中繼資料連線: " ++ d.path⟩] }

/--
Runs a session inside a scope and tells it its connection: the one in use, or one of its own,
which is closed again however the session ends.
-/
def onConnection {α : Type} (d : Database) (s : Nat → Session Connections α) :
    Session Connections α := do
  let connections ← Session.source
  match connections.active with
  | some connection => s connection
  | none =>
    if !d.isConnectable then throw .wrongShape
    else match d.refusal? connections.attempts with
    | none => do
      Session.modifySource Connections.connect
      Session.log d.logger .debug ("開啟中繼資料連線: " ++ d.path)
      (s connections.attempts).ensuring (d.closing connections.attempts)
    | some words => do
      Session.modifySource Connections.refuse
      Session.log d.logger .error ("連接資料庫失敗: " ++ words)
      throw (d.unreachable connections.attempts)

def reportQuery (d : Database) (q : Query) : Session Connections Unit :=
  if d.statementLogging then Session.log d.logger .debug q.report else return ()

def query {α : Type} (d : Database) (q : Query) (answer : Nat → Answer α) (connection : Nat) :
    Session Connections (Answer α) := do
  d.reportQuery q
  let connections ← Session.source
  Session.modifySource (·.query connection)
  return answer connections.queries

/-- Asks a query about a table. A failure is reported and named after the lookup. -/
def ask {α : Type} (d : Database) (q : Query) (answer : Nat → Answer α) :
    Session Connections (List α) := do
  match ← d.onConnection (d.query q answer) with
  | .ok rows => return rows
  | .error words =>
    Session.log d.logger .error (q.failureReport words)
    throw (q.fault words)

def askNames (d : Database) (q : Query) (answer : Nat → Answer String) :
    Session Connections (List Value) := do
  return (← d.ask q answer).map .text

/-- The foreign keys of a table, or of one of its columns. -/
def foreignKeyNames (d : Database) (table column : Value) : Session Connections (List Value) :=
  if column = .null then
    d.askNames ⟨.foreignKeys, table, d.queries.foreignKeys, [table]⟩ d.foreignKeys
  else
    d.askNames ⟨.foreignKeys, table, d.queries.columnForeignKeys, [table, column]⟩
      d.columnForeignKeys

def defaultNames (d : Database) (table column : Value) : Session Connections (List Value) :=
  match d.queries.defaults? with
  | none => return []
  | some sql => d.askNames ⟨.defaults, table, sql, [table, column]⟩ d.defaults

/-- The rows of the indexes of a column: if the table has indexes, it has to be a text. -/
def rowsAbout (d : Database) (column : Value) (rows : List IndexRow) :
    Except Fault (List IndexRow) :=
  match column with
  | .text column => .ok (rows.filter (·.mentions d.hasDefinitions column))
  | _ => if rows.isEmpty then .ok [] else .error .wrongShape

def indexesAbout (d : Database) (table column : Value) : Session Connections (List Index) := do
  let rows ← d.ask ⟨.indexes, table, d.queries.indexes, [table]⟩ d.indexes
  let rows ← d.rowsAbout column rows
  return rows.map (·.index)

/-- The database as a metadata source. -/
def provider (d : Database) : Provider Connections where
  within s := d.onConnection fun _ => s
  foreignKeys table column := d.foreignKeyNames table column
  defaults table column := d.defaultNames table column
  indexes table column := d.indexesAbout table column

/-- Whether a scope inside another one shares its connection, and whether the connection is
still in use after the inner scope. -/
def sharesConnection (d : Database) : Session Connections (Bool × Bool) :=
  d.onConnection fun outer => do
    let inner ← d.onConnection pure
    let after ← Session.source
    return (inner == outer, after.active == some outer)

end Database

end SchemaDrift
