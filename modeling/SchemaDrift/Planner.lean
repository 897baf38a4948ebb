import SchemaDrift.Catalog.Compatibility
import SchemaDrift.Ddl.Composer
import SchemaDrift.Plan.Basic

/-!
# The planner

The planner compares what the model wants with what the database has, and plans the statements
that close the gap: for one attribute, one column, or a whole entity. What depends on a column
that has to go is looked up in the metadata source; each plan is reported to the log.
-/

namespace SchemaDrift

open Document (Value)
open Log (Level)

/-- How differences become plans. -/
structure Planner where
  composer : Composer
  /-- The dialect by which columns are compared. -/
  comparison : Catalog
  config : Config

namespace Planner

/-- The planner of a dialect under a configuration, which compares columns by the same dialect. -/
def ofConfig (catalog : Catalog) (config : Config) : Planner :=
  ⟨.ofConfig catalog config, catalog, config⟩

/-! ### Differences -/

/-- Whether an attribute's column has parameters of the attribute's own: keys have theirs. -/
def isParametric (f : Field) : Bool := !(f.isId || f.isReference)

/--
The precision and scale that are wanted of a decimal column. A type without parameters keeps
what the attribute states, even if that is nothing.
-/
def desiredDecimal (p : Planner) (f : Field) (type : String) : Value × Value :=
  if p.composer.catalog.takesNoParameters type then (f.precision, f.scale)
  else p.composer.conventions.decimalParameters f

/-- The precision and scale that a field wants, if it wants any; the type has to be a text then. -/
def desiredAmounts (p : Planner) (f : Field) (type : Value) : Except Fault (Value × Value) :=
  if isParametric f && !(f.type.isText || f.isNamedEnum) && f.type.isDecimal then
    match type with
    | .text type => .ok (p.desiredDecimal f type)
    | _ => .error .unsupported
  else .ok (.null, .null)

def desiredLength (p : Planner) (f : Field) : Value :=
  if isParametric f && (f.type.isText || f.isNamedEnum) then p.composer.textLength f else .null

def desiredOfType (p : Planner) (f : Field) (type : Value) : Except Fault Column := do
  let (precision, scale) ← p.desiredAmounts f type
  return {
    type, length := p.desiredLength f, precision, scale
    nullable := .bool !(f.isMandatory || f.isId) }

def desiredColumn (p : Planner) (e : Entity) (a : Attribute) : Except Fault Column := do
  p.desiredOfType a.field (← p.composer.columnType e a)

def comparesLength (p : Planner) (f : Field) (type : String) (length : Value) : Bool :=
  isParametric f && (f.type.isText || f.isEnum && length != .null) &&
    !p.composer.catalog.takesNoParameters type

def comparesDecimal (f : Field) : Bool := f.type.isDecimal && isParametric f && !f.isEnum

/-- The dimensions, the type aside, in which two columns differ. -/
def parameterChanges (p : Planner) (f : Field) (desired current : Column) (wanted found : String) :
    Except Fault Changes := do
  let c := p.comparison
  return {
    length :=
      p.comparesLength f wanted desired.length &&
        c.lengthDiffers desired.length current.length found
    precision := comparesDecimal f && c.precisionDiffers desired.precision current.precision found
    scale :=
      ← if comparesDecimal f then c.scaleDiffers desired.scale current.scale found else .ok false
    mandatory := Catalog.obligationDiffers f.isMandatory current.admitsNull f.isId }

/-- The dimensions in which the column wanted and the column found differ. A change of type
leaves nothing else to compare. Both types have to be texts. -/
def changes (p : Planner) (f : Field) (desired current : Column) : Except Fault Changes := do
  match desired.type, current.type with
  | .text wanted, .text found =>
    if ← p.comparison.typeDiffers wanted found current.length then return { type := true }
    else p.parameterChanges f desired current wanted found
  | _, _ => throw .unsupported

/--
Compares an attribute with the column found. There has to be one, and the column has to have a
text for a name.
-/
def difference (p : Planner) (e : Entity) (a : Attribute) (current : Option Column)
    (column : Value) : Except Fault Difference := do
  let desired ← p.desiredColumn e a
  let column ← Document.textOf (← Composer.columnOr column a)
  match current with
  | none => throw .unsupported
  | some found =>
    return {
      table := e.table
      column := Text.upper column
      desired := some desired
      current := some found
      marks := .ofChanges (← p.changes a.field desired found) }

/-! ### Plans for one attribute -/

variable {σ : Type}

/-- Reports a plan to the log: as a whole, statement by statement, warning by warning. -/
def announce (p : Planner) (plan : Plan) : Session σ Plan := do
  Session.log p.config.logger .info ("Migration plan created:\n" ++ plan.report)
  Composer.logStatements p.config (plan.statements ++ plan.separateDrops)
  plan.warnings.forM fun w => Session.log p.config.logger .warning w.display
  return plan

/-- The foreign key of a column, if its attribute refers to a table. -/
def references (p : Planner) (e : Entity) (a : Attribute) (column : Value) :
    Except Fault (List Statement) :=
  match a.field.reference? with
  | some _ => do return [← p.composer.addForeignKey e a column]
  | none => .ok []

/-- The primary or foreign key that a column needs again after it was made anew. -/
def keyStatements (p : Planner) (e : Entity) (a : Attribute) (column : Value) :
    Except Fault (List Statement) :=
  if a.field.isId then p.composer.addPrimaryKey e false else p.references e a column

def lossWarning (table column found wanted : Value) : String :=
  "Type change '" ++ table.display ++ "." ++ column.display ++ "': " ++ found.display ++ " -> " ++
    wanted.display ++ " drops and re-creates the column, existing data is lost"

def fillWarning (table column : Value) (rows : String) : String :=
  "'" ++ table.display ++ "." ++ column.display ++ "' has no transitional default, existing " ++
    rows ++ " must be filled before it becomes not null"

/-- The drop of the primary key of a table, before its column goes. -/
def primaryKeyDrops (p : Planner) (e : Entity) (a : Attribute) : Except Fault (List Statement) :=
  if a.field.isId then do
    return [← p.composer.dropConstraint e.table ("PK_" ++ e.table.display)]
  else .ok []

/--
The statements that make a column anew: what depends on it goes, then the column; it is added as
the attribute describes it, and its key is restored.
-/
def rebuild (p : Planner) (provider : Provider σ) (e : Entity) (a : Attribute) (column : Value)
    (tableHasRows : Bool) : Session σ (List Statement) := do
  let dependencies ← p.composer.dropDependencies provider e.table column
  let key ← p.primaryKeyDrops e a
  let drop ← p.composer.dropColumn e.table column
  let additions ← p.composer.addColumn e a column tableHasRows
  let restored ← p.keyStatements e a column
  return dependencies ++ key ++ [drop] ++ additions ++ restored

/-- What fills the rows without a value when a column becomes required, or the warning of it. -/
def obligationFilling (p : Planner) (e : Entity) (a : Attribute) (column : Value)
    (tableHasRows : Bool) : Except Fault (List Statement × List Value) := do
  if a.field.isMandatory && tableHasRows then
    match ← p.composer.conventions.filling? a.field with
    | some value => return ([← p.composer.fillNulls e.table column value], [])
    | none => return ([], [.text (fillWarning e.table column "NULL values")])
  else return ([], [])

def obligationPlan (p : Planner) (e : Entity) (a : Attribute) (column : Value)
    (tableHasRows : Bool) : Except Fault (List Statement × List Value) := do
  let (filling, warnings) ← p.obligationFilling e a column tableHasRows
  return (filling ++ (← p.composer.alterToAttribute e a column), warnings)

def onlyIf (holds : Bool) (s : Except Fault Statement) : Except Fault (List Statement) :=
  if holds then s.map fun s => [s] else .ok []

/-- The alterations in place that a difference asks for: length, decimal parameters, obligation. -/
def alterations (p : Planner) (e : Entity) (a : Attribute) (d : Difference) (type : String)
    (column : Value) (tableHasRows : Bool) : Except Fault Plan := do
  let length ← onlyIf d.changes.length (p.composer.alterLength e a type column)
  let decimal ← onlyIf d.changes.decimal (p.composer.alterDecimal e a type column)
  let (statements, warnings) ←
    if d.changes.mandatory then p.obligationPlan e a column tableHasRows else .ok ([], [])
  return {
    table := e.table, differences := [d], warnings
    statements := length ++ decimal ++ statements }

def typeOf (c : Option Column) : Value := (c.map (·.type)).getD .null

/-- Plans the change of one attribute. A plan without changes is not reported. -/
def planChange (p : Planner) (provider : Provider σ) (e : Entity) (a : Attribute)
    (current : Option Column) (column : Value) (tableHasRows : Bool) :
    Session σ Plan := do
  let name ← Composer.columnOr column a
  let d ← p.difference e a current name
  match d.kind with
  | .keep => return { table := e.table, differences := [d] }
  | .rebuild =>
    let statements ← p.rebuild provider e a name tableHasRows
    p.announce {
      table := e.table, statements, differences := [d]
      warnings := [.text (lossWarning e.table name (typeOf d.current) (typeOf d.desired))] }
  | .alter =>
    let plan ← p.alterations e a d (typeOf d.desired).display name tableHasRows
    p.announce plan

/-- The warnings and the foreign keys that a new column asks for. -/
def additionParts (p : Planner) (e : Entity) (tableHasRows : Bool) (a : Attribute)
    (column : Value) : Except Fault (List Value × List Statement) := do
  let lacks ← p.composer.lacksFilling a.field tableHasRows
  let warnings := if lacks then [Value.text (fillWarning e.table column "rows")] else []
  return (warnings, ← p.references e a column)

/--
The columns of a new attribute. A stated column takes the place of that of an attribute that is
not embedded, which has to have one all the same.
-/
def newColumn (a : Attribute) (column own : Value) : Value :=
  if a.isEmbedded then own else column.statedOr own

/-- Plans the columns of a new attribute, with their foreign keys. -/
def planAdd (p : Planner) (e : Entity) (a : Attribute) (column : Value)
    (tableHasRows : Bool) : Session σ Plan := do
  let additions ← p.composer.addColumn e a column tableHasRows
  let parts ← (a.expand (.ok "")).mapM fun leaf => do
    p.additionParts e tableHasRows leaf.1 (newColumn a column (← leaf.2))
  p.announce {
    table := e.table
    statements := additions ++ parts.flatMap (·.2)
    warnings := parts.flatMap (·.1) }

/-- Plans that a column goes, with all that depends on it. -/
def planDropColumn (p : Planner) (provider : Provider σ) (table column : Value) :
    Session σ Plan := do
  let statements ← p.composer.dropColumnFully provider table column
  p.announce { table, statements }

/-! ### Plans for a whole entity -/

/-- Plans the table of a new entity, with its foreign keys. -/
def planCreate (p : Planner) (e : Entity) : Session σ Plan := do
  let table ← p.composer.createTable e
  let references ← e.leaves.mapM fun leaf => do p.references e leaf.1 (← leaf.2)
  p.announce { table := e.table, statements := table :: references.flatten }

/-- Plans that a table goes, after the foreign keys of its own. -/
def planDropTable (p : Planner) (provider : Provider σ) (table : Value) : Session σ Plan := do
  let constraints ← p.composer.dropTableConstraints provider table
  let drop ← p.composer.dropTable table
  p.announce { table, statements := constraints ++ [drop] }

abbrev Found := OrderedMap String (Option Column)

/-- The columns found, by name in upper case; of two with one name the later counts. -/
def columnsByName (columns : List (Value × Option Column)) : Except Fault Found := do
  return .ofList (← columns.mapM fun c => do return (Text.upper (← Document.textOf c.1), c.2))

/-- Plans one column of an entity: it is compared if it was found, and added if it was not. -/
def planLeaf (p : Planner) (provider : Provider σ) (e : Entity) (found : Found)
    (tableHasRows : Bool) (leaf : Attribute.Leaf) : Session σ (String × Plan) := do
  let column ← leaf.2
  let key := Text.upper (← Document.textOf column)
  match found.get? key with
  | some current => return (key, ← p.planChange provider e leaf.1 current column tableHasRows)
  | none => return (key, ← p.planAdd e leaf.1 column tableHasRows)

/-- The drops that a column found asks for: none if an attribute or the database maintains it. -/
def orphanDrops (p : Planner) (provider : Provider σ) (e : Entity) (seen : List String)
    (entry : String × Option Column) : Session σ (List Statement) := do
  if entry.1 ∈ seen then return []
  let type ← Document.textOf (typeOf entry.2)
  if p.composer.catalog.isAutoGenerated type then return []
  p.composer.dropColumnFully provider e.table entry.1

/-- What a plan is called in the log when the whole entity has been compared. -/
def summary (e : Entity) (plan : Plan) : String :=
  let (statements, separate) := (plan.statements.length, plan.separateDrops.length)
  "Entity '" ++ e.name.display ++ "' (" ++ e.table.display ++
    s!"): {statements} statements, {separate} separate drops"

/-- Compares a whole entity with the columns found and plans what closes the gap. -/
def planChanges (p : Planner) (provider : Provider σ) (e : Entity)
    (columns : List (Value × Option Column)) (tableHasRows : Bool) : Session σ Plan := do
  let found ← columnsByName columns
  let parts ← e.leaves.mapM (p.planLeaf provider e found tableHasRows)
  let drops ← found.entries.mapM (p.orphanDrops provider e (parts.map (·.1)))
  let ofLeaves := (parts.map (·.2)).foldl Plan.append { table := e.table }
  let ofOrphans : Plan :=
    if p.config.separateDrops then { table := e.table, separateDrops := drops.flatten }
    else { table := e.table, statements := drops.flatten }
  let plan := ofLeaves ++ ofOrphans
  Session.log p.config.logger .info (summary e plan)
  return plan

end Planner

end SchemaDrift
