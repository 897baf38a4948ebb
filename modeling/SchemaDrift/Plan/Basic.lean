import SchemaDrift.Ddl.Statement
import SchemaDrift.Plan.Difference

/-!
# Plans

A plan is what a change of the model asks of one table: statements in the order in which they
are to run, the differences behind them, warnings, and the drops that are kept apart. Nothing
here runs a statement.
-/

namespace SchemaDrift

open Document (Value)

/-- What is to be done to a table, and why. -/
structure Plan where
  table : Value
  statements : List Statement := []
  differences : List Difference := []
  warnings : List Value := []
  /-- The drops of columns without attribute, where these are kept apart. -/
  separateDrops : List Statement := []
  deriving Repr, DecidableEq

namespace Plan

def isEmpty (p : Plan) : Bool := p.statements.isEmpty && p.separateDrops.isEmpty

def kind (p : Plan) : ChangeKind := .worst (p.differences.map (·.kind))

/-- The plan with the contents of another behind its own. -/
def append (p q : Plan) : Plan :=
  { p with
    statements := p.statements ++ q.statements
    differences := p.differences ++ q.differences
    warnings := p.warnings ++ q.warnings
    separateDrops := p.separateDrops ++ q.separateDrops }

instance : Append Plan := ⟨append⟩

theorem kind_append (p q : Plan) : (p ++ q).kind = p.kind.worse q.kind := by
  show (p.append q).kind = _
  simp [kind, append, ChangeKind.worst_append]

/-- Statements as a script, one after another; the line ends of a statement are its own. -/
def scriptOf (statements : List Statement) : String :=
  "\n".intercalate (statements.map fun s => Text.stripLineFeeds s.text)

def script (p : Plan) : String := scriptOf p.statements

def dropScript (p : Plan) : String := scriptOf p.separateDrops

/-- A heading with the lines under it, or nothing where there are none. -/
def underHeading (heading : String) (lines : List String) : List String :=
  if lines.isEmpty then [] else ("\n" ++ heading) :: lines

def numbered (statements : List Statement) : List String :=
  statements.mapIdx fun i s =>
    let n := i + 1
    s!"  {n}. " ++ Text.stripRight s.text

def counted (heading : String) (statements : List Statement) : String :=
  let n := statements.length
  heading ++ s!" ({n} total):"

/-- Whether the report on the plan can be written. -/
def isReportable (p : Plan) : Bool := p.differences.all (·.isReportable)

def report (p : Plan) : String :=
  "\n".intercalate <|
    ["Migration Plan for '" ++ p.table.display ++ "'", "Change type: " ++ p.kind.label] ++
    underHeading "Changes:"
      ((p.differences.filter (·.hasChanges)).map fun d => "  " ++ d.summary) ++
    underHeading "Warnings:" (p.warnings.map fun w => "  ! " ++ w.display) ++
    underHeading (counted "Statements" p.statements) (numbered p.statements) ++
    underHeading (counted "Separate drop statements" p.separateDrops) (numbered p.separateDrops)

end Plan

end SchemaDrift
