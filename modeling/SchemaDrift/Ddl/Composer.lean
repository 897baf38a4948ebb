import SchemaDrift.Ddl.Conventions
import SchemaDrift.Metadata.Session
/-!
# Composing statements

A composer turns one wish about the schema into the statements that fulfil it in its dialect:
tables, columns, keys, indexes and sequences. Names become identifiers in the order in which a
statement needs them; the first that is no name is the fault of the wish. What has to be dropped
along with a column or a table is looked up in a metadata source.
-/

namespace SchemaDrift

open Document (Value)
open Log (Level)

/-- A dialect, the settings, and the conventions to compose statements by. -/
structure Composer where
  catalog : Catalog
  config : Config
  conventions : Conventions

namespace Composer

/-- The composer of a dialect under a configuration, with the conventions of both. -/
def ofConfig (catalog : Catalog) (config : Config) : Composer :=
  ⟨catalog, config, ⟨catalog, config⟩⟩

def identify (b : Composer) (name : Value) : Except Fault Identifier :=
  b.catalog.quoter.identify name

def issue (b : Composer) (command : Command) : Statement :=
  .issued command b.catalog.delimiter.display

def issueSequence (b : Composer) (command : Command) : Statement :=
  .issued command b.catalog.sequenceTerminator.display

/-- The column that is stated, or that of the attribute. -/
def columnOr (column : Value) (a : Attribute) : Except Fault Value :=
  match column.stated? with
  | some stated => .ok stated
  | none => a.columnName

/-! ### Column definitions -/

def keyColumnType (b : Composer) (e : Entity) (a : Attribute) : Except Fault Value :=
  (b.conventions.keyColumnType e a.field).mapError (Fault.locate a.field.name e.table)

def logicalColumnType (b : Composer) (e : Entity) (a : Attribute) (logicalType : Value) :
    Except Fault Value :=
  (b.catalog.columnType logicalType).mapError (Fault.locate a.field.name e.table)

/-- The column type of an attribute. An embedded attribute has none. -/
def columnType (b : Composer) (e : Entity) (a : Attribute) : Except Fault Value :=
  if a.isEmbedded then .error (.notScalar a.field.name e.table)
  else if a.field.isId || a.field.isReference then b.keyColumnType e a
  else if a.field.isEnum then b.logicalColumnType e a a.field.storedEnumType
  else b.logicalColumnType e a a.field.type.simple

/-- The length of a text or enumeration column; what counts as false is no limit. -/
def textLength (b : Composer) (f : Field) : Value :=
  if f.isNamedEnum then b.conventions.enumLength else b.conventions.columnLength f

/-- The parameters of a column of a type that takes some. -/
def parameters (b : Composer) (f : Field) : Parameters :=
  if f.type.isText || f.isNamedEnum then .ofLength (b.textLength f)
  else if f.type.isDecimal then
    .decimal (b.conventions.decimalParameters f).1 (b.conventions.decimalParameters f).2
  else .none

/-- What follows the type of an attribute's column. That of a key does not depend on the type. -/
def columnSuffix (b : Composer) (e : Entity) (a : Attribute) (notNull : Bool) :
    Except Fault Suffix :=
  if a.field.isId || a.field.isReference then .ok (Conventions.keySuffix e a.field notNull)
  else do
    let .text type ← b.columnType e a | throw .unsupported
    return {
      parameters := if b.catalog.takesNoParameters type then .none else b.parameters a.field
      notNull := a.field.isMandatory && notNull }

/-- The definition of an attribute's column without its name. Its type has to be a text. -/
def columnSpec (b : Composer) (e : Entity) (a : Attribute) (notNull : Bool) :
    Except Fault ColumnSpec := do
  let type ← b.columnType e a
  let suffix ← b.columnSuffix e a notNull
  match type with
  | .text type => return ⟨type, suffix⟩
  | _ => throw .wrongShape

/-- The definition of an attribute's column under a column name, or under its own. -/
def columnDefinition (b : Composer) (e : Entity) (a : Attribute) (column : Value)
    (notNull : Bool) : Except Fault ColumnDefinition := do
  let column ← b.identify (← columnOr column a)
  let spec ← b.columnSpec e a notNull
  return ⟨column, spec⟩

/-! ### Tables and keys -/

/-- The declaration of an entity's primary key. Keys in random order are not clustered. -/
def primaryKey (b : Composer) (e : Entity) : Except Fault PrimaryKey := do
  let a ← e.keyAttribute
  let column ← b.identify (← a.columnName)
  return ⟨e.keyType == .uuid, column⟩

/-- The definition of the column of a plain attribute of a table. -/
def leafDefinition (b : Composer) (e : Entity) (leaf : Attribute.Leaf) :
    Except Fault ColumnDefinition := do
  b.columnDefinition e leaf.1 (← leaf.2) true

/-- Creates the table of an entity with its columns and its primary key. -/
def createTable (b : Composer) (e : Entity) : Except Fault Statement := do
  let columns ← e.leaves.mapM (b.leafDefinition e)
  let key ← b.primaryKey e
  let table ← b.identify e.table
  return b.issue (.createTable table columns key)

def dropTable (b : Composer) (table : Value) : Except Fault Statement := do
  return b.issue (.dropTable (← b.identify table))

def alterMandatory (b : Composer) (table column : Value) (spec : ColumnSpec) (mandatory : Bool) :
    Except Fault Statement := do
  let table ← b.identify table
  let column ← b.identify column
  return b.issue (.alterColumn table ⟨column, spec.withNotNull mandatory⟩)

def requireKey (b : Composer) (e : Entity) (a : Attribute) (column : Value) :
    Except Fault Statement := do
  let spec ← b.columnSpec e a false
  b.alterMandatory e.table column spec true

/-- Makes the key column of an entity its primary key; a key that is not generated is required. -/
def addPrimaryKey (b : Composer) (e : Entity) (notNull : Bool) : Except Fault (List Statement) := do
  let a ← e.keyAttribute
  let column ← a.columnName
  let required ←
    if notNull && !e.keyType.isIdentity then do
      pure [← b.requireKey e a column]
    else pure []
  let table ← b.identify e.table
  let constraint ← b.identify ("PK_" ++ e.table.display)
  let key : PrimaryKey := ⟨e.keyType == .uuid, ← b.identify column⟩
  return required ++ [b.issue (.addPrimaryKey table constraint key)]

def foreignKeyName (b : Composer) (table column : Value) : Except Fault Identifier :=
  b.identify ("FK_" ++ table.display ++ "_" ++ column.display)

/-- The foreign key from a column of a table to the column of another one. -/
def foreignKey (b : Composer) (table column target targetColumn : Value) :
    Except Fault Statement := do
  let owner ← b.identify table
  let constraint ← b.foreignKeyName table column
  let column ← b.identify column
  let target ← b.identify target
  let targetColumn ← b.identify targetColumn
  return b.issue (.addForeignKey owner constraint column target targetColumn)

/-- Adds the foreign key of an attribute that refers to a table. -/
def addForeignKey (b : Composer) (e : Entity) (a : Attribute) (column : Value) :
    Except Fault Statement :=
  match a.field.reference? with
  | none => .error (.notReference a.field.name e.table)
  | some target => do
    b.foreignKey e.table (← columnOr column a) target a.field.targetColumn

/-! ### Adding columns -/

/-- Writes a value into the rows that have none in the column. -/
def fillNulls (b : Composer) (table column : Value) (value : String) :
    Except Fault Statement := do
  let column ← b.identify column
  let table ← b.identify table
  return b.issue (.fillNulls table column value)

/-- Whether a column can only be added without `not null` at first: required, over rows. -/
def needsTransition (f : Field) (tableHasRows : Bool) : Bool :=
  f.isMandatory && !f.isId && tableHasRows

/-- Whether old rows of a new column stay without a value because there is no default. -/
def lacksFilling (b : Composer) (f : Field) (tableHasRows : Bool) : Except Fault Bool := do
  if needsTransition f tableHasRows then return (← b.conventions.filling? f).isNone
  return false

/-- The statement that fills old rows, if there is a default. -/
def fillings (b : Composer) (e : Entity) (f : Field) (column : Value) :
    Except Fault (List Statement) := do
  match ← b.conventions.filling? f with
  | some value => return [← b.fillNulls e.table column value]
  | none => return []

/--
Adds the column of an attribute that is not embedded. A required column of a table with rows is
added without `not null`, filled where there is a default, and then made required.
-/
def leafAdditions (b : Composer) (e : Entity) (a : Attribute) (column : Value)
    (tableHasRows : Bool) : Except Fault (List Statement) := do
  let table ← b.identify e.table
  if needsTransition a.field tableHasRows then
    let definition ← b.columnDefinition e a column false
    let fillings ← b.fillings e a.field column
    let restated ← b.alterMandatory e.table column definition.spec true
    return b.issue (.addColumn table definition) :: fillings ++ [restated]
  else
    let definition ← b.columnDefinition e a column true
    return [b.issue (.addColumn table definition)]

variable {σ : Type}

/-- Adds the column of an attribute that is not embedded; rows left unfilled are a warning. -/
def addLeaf (b : Composer) (e : Entity) (a : Attribute) (column : Value) (tableHasRows : Bool) :
    Session σ (List Statement) := do
  let column ← columnOr column a
  let statements ← b.leafAdditions e a column tableHasRows
  if ← b.lacksFilling a.field tableHasRows then
    Session.log b.config.logger .warning
      (e.table.display ++ "." ++ column.display ++
        " 沒有過渡預設值，既有資料列需先填值才能設為 not null")
  return statements

/-- The columns that an attribute is added as: a stated one, unless it is embedded. -/
def addedColumns (a : Attribute) (column : Value) : List Attribute.Leaf :=
  if a.isEmbedded then a.expand (.ok "") else [(a, columnOr column a)]

def addColumn (b : Composer) (e : Entity) (a : Attribute) (column : Value)
    (tableHasRows : Bool) : Session σ (List Statement) := do
  let groups ← (addedColumns a column).mapM fun leaf => do
    b.addLeaf e leaf.1 (← leaf.2) tableHasRows
  return groups.flatten

/--
Where a logical type without a column type was met. Column and table are told in upper case, so
that they have to be texts.
-/
def locateInUpper (table column : Value) (fault : Fault) : Fault :=
  match fault, column, table with
  | .unknownLogicalType .., .text column, .text table =>
    fault.locate (Text.upper column) (Text.upper table)
  | .unknownLogicalType .., _, _ => .unsupported
  | other, _, _ => other

/-- Adds a column of a logical type that no attribute describes. -/
def addColumnOfType (b : Composer) (table column : Value) (type : TypeName) (notNull : Bool) :
    Except Fault Statement := do
  let columnType ← (b.catalog.columnType type.simple).mapError (locateInUpper table column)
  let table ← b.identify table
  let column ← b.identify column
  return b.issue (.addColumn table ⟨column, ⟨columnType.display, { notNull }⟩⟩)

/-! ### Dropping -/

def dropColumn (b : Composer) (table column : Value) : Except Fault Statement := do
  let table ← b.identify table
  return b.issue (.dropColumn table (← b.identify column))

def dropConstraint (b : Composer) (table constraint : Value) : Except Fault Statement := do
  let table ← b.identify table
  return b.issue (.dropConstraint table (← b.identify constraint))

def dropConstraints (b : Composer) (table : Value) (constraints : List Value) :
    Except Fault (List Statement) :=
  constraints.mapM (b.dropConstraint table)

def dropIndex (b : Composer) (table index : Value) : Except Fault Statement := do
  let index ← b.identify index
  return b.issue (.dropIndex index (← b.identify table))

/-- Whether the name of an index begins with a prefix, in any case. Both have to be texts. -/
def beginsWith (name pre : Value) : Except Fault Bool := do
  let name ← Document.textOf name
  let pre ← Document.textOf pre
  return (Text.upper pre).toList.isPrefixOf (Text.upper name).toList

/-- Whether an index is left to whoever manages the unique indexes of the configured prefix. -/
def isManaged (b : Composer) (index : Index) : Except Fault Bool :=
  match index.isUnique, b.config.managedIndexPrefix? with
  | true, some pre => beginsWith index.name pre
  | _, _ => .ok false

/-- The drop of an index that nobody else manages. -/
def unmanagedDrop (b : Composer) (table : Value) (index : Index) :
    Except Fault (List Statement) := do
  if ← b.isManaged index then return []
  return [← b.dropIndex table index.name]

/-- The drops of what depends on a column: foreign keys, default constraints, indexes. -/
def dependencyDrops (b : Composer) (table : Value) (foreignKeys defaults : List Value)
    (indexes : List Index) : Except Fault (List Statement) := do
  let keys ← b.dropConstraints table foreignKeys
  let constraints ← b.dropConstraints table defaults
  let unmanaged ← indexes.mapM (b.unmanagedDrop table)
  return keys ++ constraints ++ unmanaged.flatten

def logStatements (config : Config) (statements : List Statement) : Session σ Unit :=
  if config.statementLogging then
    statements.forM fun s => Session.log config.logger .debug s.logLine
  else pure ()

/-- Looks up what depends on a column and drops it. -/
def dropDependencies (b : Composer) (provider : Provider σ) (table column : Value) :
    Session σ (List Statement) := do
  let (foreignKeys, defaults, indexes) ← provider.within do
    let foreignKeys ← provider.foreignKeys table column
    let defaults ← provider.defaults table column
    let indexes ← provider.indexes table column
    return (foreignKeys, defaults, indexes)
  let statements ← b.dependencyDrops table foreignKeys defaults indexes
  let count := statements.length
  if count ≠ 0 then
    Session.log b.config.logger .debug
      (table.display ++ "." ++ column.display ++ s!" 有 {count} 個依賴需先刪除")
    logStatements b.config statements
  return statements

/-- Drops a column and what depends on it. -/
def dropColumnFully (b : Composer) (provider : Provider σ) (table column : Value) :
    Session σ (List Statement) := do
  let statements ← b.dropDependencies provider table column
  return statements ++ [← b.dropColumn table column]

/-- Looks up the foreign keys of a table and drops them. -/
def dropTableConstraints (b : Composer) (provider : Provider σ) (table : Value) :
    Session σ (List Statement) := do
  let constraints ← provider.within (provider.foreignKeys table .null)
  let statements ← b.dropConstraints table constraints
  logStatements b.config statements
  return statements

/-! ### Altering and renaming -/

def restate (b : Composer) (e : Entity) (a : Attribute) (column : Value) (type : String)
    (parameters : Parameters) : Except Fault Statement := do
  let column ← b.identify (← columnOr column a)
  let table ← b.identify e.table
  return b.issue (.alterColumn table ⟨column, ⟨type, { parameters }⟩⟩)

def alterLength (b : Composer) (e : Entity) (a : Attribute) (type : String) (column : Value) :
    Except Fault Statement :=
  b.restate e a column type (.ofLength (b.textLength a.field))

def alterDecimal (b : Composer) (e : Entity) (a : Attribute) (type : String) (column : Value) :
    Except Fault Statement :=
  let (precision, scale) := b.conventions.decimalParameters a.field
  b.restate e a column type (.decimal precision scale)

def alterType (b : Composer) (e : Entity) (a : Attribute) (type : String) (column : Value) :
    Except Fault Statement :=
  b.restate e a column type .none

/-- Restates a column as its attribute describes it. A key column is never restated. -/
def alterToAttribute (b : Composer) (e : Entity) (a : Attribute) (column : Value) :
    Except Fault (List Statement) :=
  if a.field.isId then .ok []
  else do
    let definition ← b.columnDefinition e a column true
    let table ← b.identify e.table
    return [b.issue (.alterColumn table definition)]

def renameTable (b : Composer) (old new : String) : Statement :=
  b.issue (.renameTable (Text.upper old) (Text.upper new))

def renameColumn (b : Composer) (table old new : String) : Statement :=
  b.issue (.renameColumn (Text.upper table) (Text.upper old) (Text.upper new))

/-! ### Sequences and indexes -/

/-- Creates a table that serves as a sequence. -/
def createSequence (b : Composer) (name : String) (start increment : Value) : Statement :=
  b.issueSequence (.createSequence (Text.upper name) b.catalog.longIdentityType.display start
    increment b.catalog.timestampType)

def findSequence (b : Composer) (name : String) : Statement :=
  b.issueSequence (.findSequence (Text.upper name))

def dropSequence (b : Composer) (name : String) : Statement :=
  b.issueSequence (.dropSequence (Text.upper name))

/-- The column that marks deleted rows. -/
def deletionStamp : Identifier := ⟨"DELETE_TS"⟩

/-- The columns of an index: a unique one over soft deletion includes the deletion stamp. -/
def indexColumns (b : Composer) (e : Entity) (listed : List Identifier) (unique : Bool) :
    List Identifier :=
  if unique && e.softDelete && b.config.deleteStampInUniqueIndex && deletionStamp ∉ listed then
    listed ++ [deletionStamp]
  else listed

def createIndex (b : Composer) (e : Entity) (index : Value) (columns : List Value)
    (unique : Bool) : Except Fault Statement := do
  let listed ← columns.mapM b.identify
  let index ← b.identify index
  let table ← b.identify e.table
  return b.issue (.createIndex unique index table (b.indexColumns e listed unique))

end Composer

end SchemaDrift
