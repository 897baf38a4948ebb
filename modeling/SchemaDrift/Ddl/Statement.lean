import SchemaDrift.Fault
import SchemaDrift.Identifier
import SchemaDrift.Text.Blank
/-!
# Statements

A command says what is to be done to the schema: its identifiers are in their written form, its
column definitions are kept in parts. A statement is a command with the mark that ends it, or a
text that was given from outside. `Command.render` is the only place where commands become text.
-/

namespace SchemaDrift

open Document (Value)

/-- What a statement does, as far as order and reports care. -/
inductive Category where
  | create
  | alter
  | drop
  | rename
  | update
  deriving Repr, DecidableEq

namespace Category

def all : List Category := [create, alter, drop, rename, update]

def label : Category → String
  | create => "create"
  | alter => "alter"
  | drop => "drop"
  | rename => "rename"
  | update => "update"

def ofLabel (v : Value) : Except Fault Category :=
  match all.find? fun c => v == .text c.label with
  | some found => .ok found
  | none => .error (.notAMember v.shown "StatementCategory")

end Category

/-- The parameters behind a column type. -/
inductive Parameters where
  | none
  | length (n : Value)
  | maxLength
  | decimal (precision scale : Value)
  deriving Repr, DecidableEq

namespace Parameters

/-- The parameters of a text column: a length of zero is as good as none. -/
def ofLength (n : Value) : Parameters := if n.isTruthy then length n else maxLength

def decimalText (precision scale : Value) : String := precision.display ++ ", " ++ scale.display

def render : Parameters → String
  | none => ""
  | length n => "(" ++ n.display ++ ")"
  | maxLength => "(max)"
  | decimal p s => "(" ++ decimalText p s ++ ")"

end Parameters

/-- What follows the type in a column definition. -/
structure Suffix where
  parameters : Parameters := .none
  notNull : Bool := false
  deriving Repr, DecidableEq

def Suffix.render (s : Suffix) : String :=
  s.parameters.render ++ if s.notNull then " not null" else ""

/-- The definition of a column without its name. -/
structure ColumnSpec where
  type : String
  suffix : Suffix := {}
  deriving Repr, DecidableEq

def ColumnSpec.render (s : ColumnSpec) : String := s.type ++ s.suffix.render

/-- The definition with `not null` at its end. -/
def ColumnSpec.withNotNull (s : ColumnSpec) (notNull : Bool) : ColumnSpec :=
  { s with suffix := { s.suffix with notNull } }

/-- A column with its definition. -/
structure ColumnDefinition where
  column : Identifier
  spec : ColumnSpec
  deriving Repr, DecidableEq

def ColumnDefinition.render (d : ColumnDefinition) : String :=
  d.column.text ++ " " ++ d.spec.render

/-- The declaration of a primary key of one column. -/
structure PrimaryKey where
  nonclustered : Bool
  column : Identifier
  deriving Repr, DecidableEq

def PrimaryKey.render (k : PrimaryKey) : String :=
  "primary key " ++ (if k.nonclustered then "nonclustered " else "") ++ "(" ++ k.column.text ++ ")"

/-- What is to be done to the schema. -/
inductive Command where
  | createTable (table : Identifier) (columns : List ColumnDefinition) (key : PrimaryKey)
  | dropTable (table : Identifier)
  | addColumn (table : Identifier) (definition : ColumnDefinition)
  | alterColumn (table : Identifier) (definition : ColumnDefinition)
  | dropColumn (table column : Identifier)
  /-- Writes a value into the rows that have none in the column. -/
  | fillNulls (table column : Identifier) (value : String)
  | addPrimaryKey (table constraint : Identifier) (key : PrimaryKey)
  | addForeignKey (table constraint column target targetColumn : Identifier)
  | dropConstraint (table constraint : Identifier)
  | createIndex (unique : Bool) (index table : Identifier) (columns : List Identifier)
  | dropIndex (index table : Identifier)
  /-- The names are written inside text literals. -/
  | renameTable (old new : String)
  | renameColumn (table old new : String)
  /-- A sequence is a table of generated keys, whose name is written as it is. -/
  | createSequence (name identityType : String) (start increment : Value) (timestampType : String)
  | findSequence (name : String)
  | dropSequence (name : String)
  deriving Repr, DecidableEq

namespace Command

def category : Command → Category
  | createTable .. | createIndex .. | createSequence .. | findSequence .. => .create
  | addColumn .. | alterColumn .. | addPrimaryKey .. | addForeignKey .. => .alter
  | dropTable .. | dropColumn .. | dropConstraint .. | dropIndex .. | dropSequence .. => .drop
  | renameTable .. | renameColumn .. => .rename
  | fillNulls .. => .update

/-- What the lines inside a table definition begin with. -/
def indent : String := "    "

/-- The lines of a table definition: the columns, then the key. -/
def tableLines (columns : List ColumnDefinition) (key : PrimaryKey) : List String :=
  columns.map (fun d => indent ++ d.render) ++ [indent ++ key.render]

/-- The text of a command, without the mark that ends it. -/
def render : Command → String
  | createTable table columns key =>
    "create table " ++ table.text ++ " (\n" ++ ",\n".intercalate (tableLines columns key) ++ "\n)"
  | dropTable table => "drop table " ++ table.text
  | addColumn table definition => "alter table " ++ table.text ++ " add " ++ definition.render
  | alterColumn table definition =>
    "alter table " ++ table.text ++ " alter column " ++ definition.render
  | dropColumn table column => "alter table " ++ table.text ++ " drop column " ++ column.text
  | fillNulls table column value =>
    "update " ++ table.text ++ " set " ++ column.text ++ " = " ++ value ++ " where " ++
      column.text ++ " is null"
  | addPrimaryKey table constraint key =>
    "alter table " ++ table.text ++ " add constraint " ++ constraint.text ++ " " ++ key.render
  | addForeignKey table constraint column target targetColumn =>
    "alter table " ++ table.text ++ " add constraint " ++ constraint.text ++ " foreign key (" ++
      column.text ++ ") references " ++ target.text ++ "(" ++ targetColumn.text ++ ")"
  | dropConstraint table constraint =>
    "alter table " ++ table.text ++ " drop constraint " ++ constraint.text
  | createIndex unique index table columns =>
    (if unique then "create unique index " else "create index ") ++ index.text ++ " on " ++
      table.text ++ " (" ++ ", ".intercalate (columns.map (·.text)) ++ ")"
  | dropIndex index table => "drop index " ++ index.text ++ " on " ++ table.text
  | renameTable old new =>
    "sp_rename '" ++ Text.literalBody old ++ "', '" ++ Text.literalBody new ++ "'"
  | renameColumn table old new =>
    "exec sp_rename '" ++ Text.literalBody table ++ "." ++ Text.literalBody old ++ "', '" ++
      Text.literalBody new ++ "', 'COLUMN'"
  | createSequence name identityType start increment timestampType =>
    "create table " ++ name ++ " (ID " ++ identityType ++ "(" ++ start.display ++ "," ++
      increment.display ++ "), CREATE_TS " ++ timestampType ++ ")"
  | findSequence name =>
    "select * from INFORMATION_SCHEMA.TABLES where TABLE_NAME = '" ++ Text.literalBody name ++ "'"
  | dropSequence name => "drop table " ++ name

/-- What follows the mark that ends a command: the renaming commands end their line. -/
def lineEnd (c : Command) : String := if c.category = .rename then "\n" else ""

end Command

/-- A statement of a script. -/
inductive Statement where
  /-- A command with the mark that ends it. -/
  | issued (command : Command) (terminator : String)
  /-- A text that was given from outside. -/
  | verbatim (category : Category) (text : String)
  deriving Repr, DecidableEq

namespace Statement

def category : Statement → Category
  | issued command _ => command.category
  | verbatim category _ => category

def text : Statement → String
  | issued command terminator => command.render ++ " " ++ terminator ++ command.lineEnd
  | verbatim _ text => text

/-- The command of a statement that was not given as text. -/
def command? : Statement → Option Command
  | issued command _ => some command
  | verbatim _ _ => none

/-- The statement as the log shows it: its category, and its text without blanks at the end. -/
def logLine (s : Statement) : String := "[" ++ s.category.label ++ "] " ++ Text.stripRight s.text

end Statement

end SchemaDrift
