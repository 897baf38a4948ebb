import SchemaDrift.Planner
import SchemaDrift.Request.Composition

/-!
# Requests for plans

The operations of a planner by name.
-/

namespace SchemaDrift.Request

open Document (Value Entries)

def planningOperations : List (String × Signature) := [
  ("desired_column", aboutEntity ["attribute"]),
  ("diff_attribute", aboutEntity ["attribute", "current"] ["column"]),
  ("plan_attribute_change", aboutEntity ["attribute", "current"] ["column", "table_has_rows"]),
  ("plan_add_attribute", aboutEntity ["attribute"] ["column", "table_has_rows"]),
  ("plan_drop_column", ⟨["table", "column"], [], []⟩),
  ("plan_create_entity", aboutEntity []),
  ("plan_drop_entity", ⟨["table"], [], []⟩),
  ("plan_entity_changes", aboutEntity ["current_columns"] ["table_has_rows"])]

/-- What a planner answers: a column or a difference as a document, or a plan. -/
inductive Outcome where
  | document (v : Value)
  | plan (p : Plan)

def Outcome.written : Outcome → Except Fault Value
  | document v => .ok v
  | plan p => Writing.plan p

/-- The column that an attribute wants. That of a key depends on the entity. -/
def desiredColumn (p : Planner) (args : Arguments) : Except Fault Column := do
  let a ← args.attr
  match args.entity? with
  | some e => p.desiredColumn e a
  | none =>
    if a.field.isId then throw .unsupported
    else (p.desiredColumn default a).mapError withoutPlace

/-- The entity of a comparison. Where there is none, the column wanted is looked at before. -/
def comparedEntity (p : Planner) (args : Arguments) : Except Fault Entity := do
  if args.entity?.isNone then
    let _ ← desiredColumn p args
  args.entity

variable {σ : Type}

/-- Answers a request to a planner whose arguments fit. -/
def planningAnswer (p : Planner) (provider : Provider σ) (operation : String) (args : Arguments) :
    Session σ Outcome := do
  let rows := args.flag "table_has_rows" true
  match operation with
  | "desired_column" => return .document (Writing.column (← desiredColumn p args))
  | "diff_attribute" =>
    let e ← comparedEntity p args
    let d ← p.difference e (← args.attr) args.current args.column
    return .document (← Writing.difference d)
  | "plan_attribute_change" =>
    let e ← if args.column.isTruthy then comparedEntity p args else args.entity
    return .plan (← p.planChange provider e (← args.attr) args.current args.column rows)
  | "plan_add_attribute" =>
    return .plan (← p.planAdd (← args.entity) (← args.attr) args.column rows)
  | "plan_drop_column" => return .plan (← p.planDropColumn provider args.table args.column)
  | "plan_create_entity" => return .plan (← p.planCreate (← args.entity))
  | "plan_drop_entity" => return .plan (← p.planDropTable provider args.table)
  | "plan_entity_changes" =>
    return .plan (← p.planChanges provider (← args.entity) args.columns rows)
  | _ => throw .unsupported

def planning (p : Planner) (provider : Provider σ) (operation : String) (given : Entries)
    (entity? : Option Entity) : Session σ Outcome := do
  match planningOperations.lookup operation with
  | none => throw .unsupported
  | some signature =>
    let args ← Arguments.read given entity?
    if !signature.fits given then throw .wrongShape
    planningAnswer p provider operation args

end SchemaDrift.Request
