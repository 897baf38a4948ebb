import SchemaDrift.Catalog.Document
import SchemaDrift.Model.Writing
import SchemaDrift.Plan.Basic

/-!
# Plans as documents

Differences and statements are read from documents; differences and plans are written with what
follows from them, so that a reader of the document needs no rules of this library.
-/

namespace SchemaDrift

open Document (Value)

namespace Reading

def differenceKeys : List String := [
  "table", "column", "desired", "current", "type_changed", "length_changed", "precision_changed",
  "scale_changed", "mandatory_changed"]

/--
A difference with its marks. The wanted column has to be stated, even if it is nothing; nothing
unknown may be there.
-/
def difference : Value → Except Fault Difference
  | .map entries => do
    let desired ← column? (← Document.heldUnder entries "desired")
    let current ← column? (part entries "current")
    let entries ← entriesAmong differenceKeys (.map entries)
    let mark (key : String) : Value := Form.partOr entries key (.bool false)
    return {
      table := ← Form.required entries "table"
      column := ← Form.required entries "column"
      desired, current
      marks := {
        type := mark "type_changed"
        length := mark "length_changed"
        precision := mark "precision_changed"
        scale := mark "scale_changed"
        mandatory := mark "mandatory_changed" } }
  | _ => .error .wrongShape

def statement : Value → Except Fault Statement
  | .list [category, written] => (Category.ofLabel category).map (.verbatim · written.display)
  | _ => .error .wrongShape

/-- A statement whose category may be left out: what counts as false says that it alters. -/
def statementOrAlter : Value → Except Fault Statement
  | .list [category, written] => statement (.list [category.statedOr Category.alter.label, written])
  | _ => .error .wrongShape

end Reading

namespace Writing

def statement (s : Statement) : Value := .texts [s.category.label, s.text]

def statements (xs : List Statement) : Value := .list (xs.map statement)

/--
A difference as a document. Its columns have to be describable where they differ; they are written
as they are when it has been told in short and at length.
-/
def difference (d : Difference) : Except Fault Value :=
  if !d.isReportable then .error .wrongShape
  else .ok (.record [
    ("table", d.table), ("column", d.column), ("desired", .orNull column d.told.told.desired),
    ("current", .orNull column d.told.told.current), ("type_changed", d.marks.type),
    ("length_changed", d.marks.length), ("precision_changed", d.marks.precision),
    ("scale_changed", d.marks.scale), ("mandatory_changed", d.marks.mandatory),
    ("change_type", .text d.kind.label), ("decimal_changed", d.marks.decimal),
    ("has_changes", .bool d.hasChanges), ("changed_dimensions", .texts d.changes.dimensions),
    ("str", .text d.summary), ("report", .text d.told.report)])

def plan (p : Plan) : Except Fault Value := do
  return .record [
    ("table", p.table), ("statements", statements p.statements),
    ("diffs", .list (← p.differences.mapM difference)), ("warnings", .list p.warnings),
    ("separate_drops", statements p.separateDrops), ("is_empty", .bool p.isEmpty),
    ("change_type", .text p.kind.label), ("script", .text p.script),
    ("drop_script", .text p.dropScript), ("report", .text p.report)]

end Writing

end SchemaDrift
