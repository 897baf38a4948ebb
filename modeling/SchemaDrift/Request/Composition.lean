import SchemaDrift.Ddl.Composer
import SchemaDrift.Plan.Document
import SchemaDrift.Request.Arguments

/-!
# Requests for statements

The operations of a composer by name. Those about an attribute need no entity as long as nothing
is asked of it; those about what depends on a column look that up in a metadata source.
-/

namespace SchemaDrift.Request

open Document (Value Entries)

/-- The signature of an operation that is about the entity of the request. -/
def aboutEntity (required : List String) (others : List String := []) : Signature :=
  ⟨required, others, ["entity"]⟩

/-- The signature of an operation that asks the metadata source of the request. -/
def askingProvider (required : List String) : Signature := ⟨required, [], ["provider"]⟩

/-- What the operations about an attribute take besides it. -/
def attributeOperations : List (String × Signature) := [
  ("expand_attribute", aboutEntity ["attribute"] ["prefix"]),
  ("column_type", aboutEntity ["attribute"]),
  ("primary_or_foreign_key_type", aboutEntity ["attribute"]),
  ("primary_or_foreign_key_params", aboutEntity ["attribute"] ["not_null"]),
  ("is_string_enum", ⟨["attribute"], [], []⟩),
  ("text_column_length", aboutEntity ["attribute"]),
  ("column_parameters", aboutEntity ["attribute"] ["not_null"]),
  ("column_definition", aboutEntity ["attribute"] ["column", "not_null"]),
  ("alter_column_length_statement", aboutEntity ["attribute", "new_type"] ["column"]),
  ("alter_column_decimal_params_statement", aboutEntity ["attribute", "new_type"] ["column"]),
  ("alter_column_type_statement", aboutEntity ["attribute", "new_type"] ["column"]),
  ("alter_column_mandatory_statements", aboutEntity ["attribute"] ["column"]),
  ("add_foreign_key_statement", aboutEntity ["attribute"] ["column"]),
  ("transitional_default", aboutEntity ["attribute"]),
  ("decimal_params", aboutEntity ["attribute"]),
  ("decimal_precision_scale", aboutEntity ["attribute"]),
  ("key_id_type", aboutEntity ["attribute"]),
  ("column_length", aboutEntity ["attribute"])]

def statementOperations : List (String × Signature) := [
  ("create_table_statement", aboutEntity []),
  ("drop_table_statement", ⟨["table"], [], []⟩),
  ("fill_null_values_statement", ⟨["table", "column", "value"], [], []⟩),
  ("add_column_by_type_statement", ⟨["table", "column", "type_descriptor"], ["not_null"], []⟩),
  ("drop_column_statement", ⟨["table", "column"], [], []⟩),
  ("alter_column_mandatory_statement", ⟨["table", "column", "column_def", "is_mandatory"], [], []⟩),
  ("rename_table_statement", ⟨["old_table", "new_table"], [], []⟩),
  ("rename_column_statement", ⟨["table", "old_column", "new_column"], [], []⟩),
  ("create_sequence_statement", ⟨["name"], ["start", "increment"], []⟩),
  ("sequence_exists_statement", ⟨["name"], [], []⟩),
  ("delete_sequence_statement", ⟨["name"], [], []⟩),
  ("drop_index_statement", ⟨["table", "index"], [], []⟩),
  ("drop_constraint_statement", ⟨["table", "constraint"], [], []⟩),
  ("create_index_statement", aboutEntity ["index", "columns"] ["unique"])]

def otherOperations : List (String × Signature) := [
  ("drop_table_constraint_statements", askingProvider ["table"]),
  ("drop_column_dependency_statements", askingProvider ["table", "column"]),
  ("drop_column_statements", askingProvider ["table", "column"]),
  ("add_column_statements", aboutEntity ["attribute"] ["column", "table_has_rows"]),
  ("primary_key_statement", aboutEntity []),
  ("primary_key_constraint_statements", aboutEntity [] ["not_null"]),
  ("foreign_key_name", ⟨["table", "column"], [], []⟩),
  ("enum_column_length", ⟨[], [], []⟩)]

/-- A plain attribute as a pair of its name and its column. -/
def ofLeaf (leaf : Attribute.Leaf) : Except Fault Value := do
  return .list [leaf.1.field.name, ← leaf.2]

/-- Whether an attribute is an enumeration stored by name; a mark that counts as false says no. -/
def namedEnumMark (f : Field) : Value := if f.isEnum then .bool f.isNamedEnum else f.enumMark

/-- What an operation tells about an attribute of an entity. -/
def attributeAnswer (b : Composer) (operation : String) (args : Arguments) (e : Entity)
    (a : Attribute) : Except Fault Value := do
  let notNull := args.flag "not_null" true
  let (precision, scale) := b.conventions.decimalParameters a.field
  let newType := args.shown "new_type"
  match operation with
  | "expand_attribute" =>
    return .list (← (a.expand (.ok (args.valueOr "prefix" ""))).mapM ofLeaf)
  | "column_type" => b.columnType e a
  | "primary_or_foreign_key_type" => b.keyColumnType e a
  | "primary_or_foreign_key_params" => return (Conventions.keySuffix e a.field notNull).render
  | "is_string_enum" => return namedEnumMark a.field
  | "text_column_length" => return b.textLength a.field
  | "column_parameters" => return (← b.columnSuffix e a notNull).render
  | "column_definition" => return (← b.columnDefinition e a args.column notNull).render
  | "alter_column_length_statement" =>
    return Writing.statement (← b.alterLength e a newType args.column)
  | "alter_column_decimal_params_statement" =>
    return Writing.statement (← b.alterDecimal e a newType args.column)
  | "alter_column_type_statement" =>
    return Writing.statement (← b.alterType e a newType args.column)
  | "alter_column_mandatory_statements" =>
    return Writing.statements (← b.alterToAttribute e a args.column)
  | "add_foreign_key_statement" => return Writing.statement (← b.addForeignKey e a args.column)
  | "transitional_default" => b.conventions.transitionalDefault a.field
  | "decimal_params" => return Parameters.decimalText precision scale
  | "decimal_precision_scale" => return .list [precision, scale]
  | "key_id_type" => return (Conventions.keyType e a.field).name
  | "column_length" => return b.conventions.columnLength a.field
  | _ => throw .unsupported

/-- The operations that ask nothing of the entity. -/
def entityFree : List String := [
  "is_string_enum", "text_column_length", "transitional_default", "decimal_params",
  "decimal_precision_scale", "column_length"]

/-- The operations that ask the entity for its kind of key only, for an attribute that is a key. -/
def keyFree : List String := [
  "column_type", "primary_or_foreign_key_type", "primary_or_foreign_key_params",
  "column_parameters", "key_id_type"]

/-- The operations that restate a column, which come to the table after the column. -/
def restatements : List String := [
  "alter_column_length_statement", "alter_column_decimal_params_statement",
  "alter_column_type_statement"]

/-- A fault that tells the table of an entity cannot be told where there is none. -/
def withoutPlace : Fault → Fault
  | .unknownLogicalType .. | .notScalar .. | .notReference .. => .unsupported
  | other => other

/-- The definition of a column that is stated. A key asks the entity for its kind of key. -/
def statedDefinition (b : Composer) (args : Arguments) (a : Attribute) (notNull : Bool) :
    Except Fault ColumnDefinition := do
  if !args.column.isTruthy then throw .unsupported
  let _ ← b.identify args.column
  if a.field.isId then throw .unsupported
  (b.columnDefinition default a args.column notNull).mapError withoutPlace

/-- What an operation tells about an attribute, as far as it asks nothing of the entity. -/
def answerWithoutEntity (b : Composer) (operation : String) (args : Arguments) (a : Attribute) :
    Except Fault Value := do
  if entityFree.contains operation then attributeAnswer b operation args default a
  else if keyFree.contains operation && !a.field.isId then
    (attributeAnswer b operation args default a).mapError withoutPlace
  else if operation == "expand_attribute" then
    let _ ← a.leadingPrefix (.ok (args.valueOr "prefix" ""))
    throw .unsupported
  else if operation == "column_definition" then
    return (← statedDefinition b args a (args.flag "not_null" true)).render
  else if operation == "alter_column_mandatory_statements" then
    if a.field.isId then return .list []
    let _ ← statedDefinition b args a true
    throw .unsupported
  else
    if restatements.contains operation && args.column.isTruthy then
      let _ ← b.identify args.column
    throw .unsupported

def attributeRequest (b : Composer) (operation : String) (args : Arguments) :
    Except Fault Value := do
  let a ← args.attr
  match args.entity? with
  | some e => attributeAnswer b operation args e a
  | none => answerWithoutEntity b operation args a

/-- The entity that gets new columns. Without one, what they begin with is looked at before. -/
def extendedEntity (args : Arguments) : Except Fault Entity := do
  if args.entity?.isNone then
    let _ ← (← args.attr).leadingPrefix (.ok "")
  args.entity

/-- An index of an entity's table. Without an entity, its columns are looked at all the same. -/
def indexRequest (b : Composer) (args : Arguments) : Except Fault Statement := do
  let columns ← Document.itemsOf (args.value "columns")
  let unique := args.flag "unique" false
  match args.entity? with
  | some e => b.createIndex e (args.value "index") columns unique
  | none =>
    let _ ← columns.mapM b.identify
    if !unique then
      let _ ← b.identify (args.value "index")
    throw .unsupported

def statementRequest (b : Composer) (operation : String) (args : Arguments) :
    Except Fault Statement := do
  match operation with
  | "create_table_statement" => b.createTable (← args.entity)
  | "drop_table_statement" => b.dropTable args.table
  | "fill_null_values_statement" => b.fillNulls args.table args.column (args.shown "value")
  | "add_column_by_type_statement" =>
    b.addColumnOfType args.table args.column (← args.type) (args.flag "not_null" false)
  | "drop_column_statement" => b.dropColumn args.table args.column
  | "alter_column_mandatory_statement" =>
    b.alterMandatory args.table args.column ⟨args.shown "column_def", {}⟩
      (args.flag "is_mandatory" false)
  | "rename_table_statement" =>
    return b.renameTable (← args.text "old_table") (← args.text "new_table")
  | "rename_column_statement" =>
    return b.renameColumn (← args.text "table") (← args.text "old_column")
      (← args.text "new_column")
  | "create_sequence_statement" =>
    return b.createSequence (← args.text "name") (args.valueOr "start" (.int 1))
      (args.valueOr "increment" (.int 1))
  | "sequence_exists_statement" => return b.findSequence (← args.text "name")
  | "delete_sequence_statement" => return b.dropSequence (← args.text "name")
  | "drop_index_statement" => b.dropIndex args.table (args.value "index")
  | "drop_constraint_statement" => b.dropConstraint args.table (args.value "constraint")
  | "create_index_statement" => indexRequest b args
  | _ => throw .unsupported

variable {σ : Type}

/-- The answer to a request of the remaining sorts. -/
def otherRequest (b : Composer) (provider : Provider σ) (operation : String) (args : Arguments) :
    Session σ Value := do
  let (table, column) := (args.table, args.column)
  match operation with
  | "drop_table_constraint_statements" =>
    return Writing.statements (← b.dropTableConstraints provider table)
  | "drop_column_dependency_statements" =>
    return Writing.statements (← b.dropDependencies provider table column)
  | "drop_column_statements" =>
    return Writing.statements (← b.dropColumnFully provider table column)
  | "add_column_statements" =>
    let rows := args.flag "table_has_rows" true
    return Writing.statements (← b.addColumn (← extendedEntity args) (← args.attr) column rows)
  | "primary_key_statement" => return (← b.primaryKey (← args.entity)).render
  | "primary_key_constraint_statements" =>
    return Writing.statements (← b.addPrimaryKey (← args.entity) (args.flag "not_null" true))
  | "foreign_key_name" => return (← b.foreignKeyName table column).text
  | "enum_column_length" => return b.conventions.enumLength
  | _ => throw .unsupported

def composition (b : Composer) (provider : Provider σ) (operation : String) (given : Entries)
    (entity? : Option Entity) : Session σ Value := do
  match (attributeOperations ++ statementOperations ++ otherOperations).lookup operation with
  | none => throw .unsupported
  | some signature =>
    let args ← Arguments.read given entity?
    if !signature.fits given then throw .wrongShape
    if (attributeOperations.lookup operation).isSome then attributeRequest b operation args
    else if (statementOperations.lookup operation).isSome then
      return Writing.statement (← statementRequest b operation args)
    else otherRequest b provider operation args

end SchemaDrift.Request
