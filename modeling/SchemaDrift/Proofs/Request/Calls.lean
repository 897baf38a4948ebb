import SchemaDrift.Proofs.Planner.Alike
import SchemaDrift.Request.Planning

/-!
# Calls

A call is a request to a composer or to a planner, by the name of the operation and with arguments by
name. Beside two sources that serve alike, every call runs alike.
-/

namespace SchemaDrift

open Document (Value Entries)
open Request (Arguments Outcome)
open Bond (alike_lift alike_pure alike_throw)

variable {ι σ τ : Type} {B : Bond ι σ τ} {P : Provider σ} {P' : Provider τ} {operation : String}

namespace Request

theorem alike_otherRequest {b b' : Composer} (served : B.Serves P P') (twins : Composer.Twins B b b')
    (args : Arguments) :
    B.Alike (otherRequest b P operation args) (otherRequest b' P' operation args) := by
  unfold otherRequest
  simp only
  split
  · exact (Composer.alike_dropTableConstraints served twins).bind fun ss => alike_pure _
  · exact (Composer.alike_dropDependencies served twins).bind fun ss => alike_pure _
  · exact (Composer.alike_dropColumnFully served twins).bind fun ss => alike_pure _
  · refine (alike_lift _).bind fun e => (alike_lift _).bind fun a => ?_
    exact (Composer.alike_addColumn twins).bind fun ss => alike_pure _
  all_goals obtain ⟨⟨g, rfl⟩, -⟩ := twins
  · refine (alike_lift _).bind fun e => ?_
    exact (alike_lift (b.primaryKey e)).bind fun key => alike_pure _
  · refine (alike_lift _).bind fun e => ?_
    exact (alike_lift (b.addPrimaryKey e _)).bind fun key => alike_pure _
  · exact (alike_lift (b.foreignKeyName _ _)).bind fun key => alike_pure _
  · exact alike_pure _
  · exact alike_throw _

theorem alike_composition {b b' : Composer} (served : B.Serves P P') (twins : Composer.Twins B b b')
    (given : Entries) (entity? : Option Entity) :
    B.Alike (composition b P operation given entity?)
      (composition b' P' operation given entity?) := by
  have others (args : Arguments) : B.Alike (otherRequest b P operation args)
      (otherRequest b' P' operation args) := alike_otherRequest served twins args
  obtain ⟨⟨g, rfl⟩, -⟩ := twins
  unfold composition
  split
  · exact alike_throw _
  · refine (alike_lift (Arguments.read given entity?)).bind fun args => ?_
    refine .ite (alike_throw _) (.ite ?_ (.ite ?_ (others args)))
    · exact alike_lift (attributeRequest b operation args)
    · exact (alike_lift (statementRequest b operation args)).bind fun s => alike_pure _

theorem alike_planningAnswer {p p' : Planner} (served : B.Serves P P')
    (twins : Planner.Twins B p p') (args : Arguments) :
    B.Alike (planningAnswer p P operation args) (planningAnswer p' P' operation args) := by
  have changed (e : Entity) (rows : Bool) : B.Alike (do
        return Outcome.plan (← p.planChange P e (← args.attr) args.current args.column rows)) (do
        return Outcome.plan (← p'.planChange P' e (← args.attr) args.current args.column rows)) :=
    (alike_lift args.attr).bind fun a =>
      (Planner.alike_planChange served twins).bind fun plan => alike_pure (Outcome.plan plan)
  unfold planningAnswer
  simp only
  split
  case h_4 =>
    refine (alike_lift args.entity).bind fun e => (alike_lift args.attr).bind fun a => ?_
    exact (Planner.alike_planAdd twins).bind fun plan => alike_pure _
  case h_5 => exact (Planner.alike_planDropColumn served twins).bind fun plan => alike_pure _
  case h_6 =>
    refine (alike_lift args.entity).bind fun e => ?_
    exact (Planner.alike_planCreate twins).bind fun plan => alike_pure _
  case h_7 => exact (Planner.alike_planDropTable served twins).bind fun plan => alike_pure _
  case h_8 =>
    refine (alike_lift args.entity).bind fun e => ?_
    exact (Planner.alike_planChanges served twins).bind fun plan => alike_pure _
  all_goals obtain ⟨⟨g, rfl⟩, -⟩ := twins
  · exact (alike_lift (desiredColumn p args)).bind fun column => alike_pure _
  · refine (alike_lift (comparedEntity p args)).bind fun e => (alike_lift _).bind fun a => ?_
    refine (alike_lift (p.difference e a _ _)).bind fun d => ?_
    exact (alike_lift _).bind fun written => alike_pure _
  · refine .ite ?_ ((alike_lift args.entity).bind fun e => changed e _)
    exact (alike_lift (comparedEntity p args)).bind fun e => changed e _
  · exact alike_throw _

theorem alike_planning {p p' : Planner} (served : B.Serves P P') (twins : Planner.Twins B p p')
    (given : Entries) (entity? : Option Entity) :
    B.Alike (planning p P operation given entity?) (planning p' P' operation given entity?) := by
  unfold planning
  split
  · exact alike_throw _
  · refine (alike_lift (Arguments.read given entity?)).bind fun args => ?_
    exact .ite (alike_throw _) (alike_planningAnswer served twins args)

end Request

/-- A request to a composer or to a planner. -/
inductive Call where
  | compose (b : Composer) (operation : String) (given : Entries) (entity? : Option Entity)
  | plan (p : Planner) (operation : String) (given : Entries) (entity? : Option Entity)

namespace Call

def session (P : Provider σ) : Call → Session σ Outcome
  | compose b operation given entity? => do
    return .document (← Request.composition b P operation given entity?)
  | plan p operation given entity? => Request.planning p P operation given entity?

/-- Two calls differ in their reports only, and these run alike. -/
inductive Twins (B : Bond ι σ τ) : Call → Call → Prop
  | compose {b b' : Composer} {operation : String} {given : Entries} {entity? : Option Entity}
      (twins : Composer.Twins B b b') :
      Twins B (.compose b operation given entity?) (.compose b' operation given entity?)
  | plan {p p' : Planner} {operation : String} {given : Entries} {entity? : Option Entity}
      (twins : Planner.Twins B p p') :
      Twins B (.plan p operation given entity?) (.plan p' operation given entity?)

theorem twins_self (reports : ∀ c, B.Reports c c) (c : Call) : Twins B c c := by
  cases c with
  | compose b => exact .compose (Composer.twins_self reports b)
  | plan p => exact .plan (Planner.twins_self reports p)

/-- Beside two sources that serve alike, calls that are twins run alike. -/
theorem Twins.alike {c c' : Call} (twins : Twins B c c') (served : B.Serves P P') :
    B.Alike (c.session P) (c'.session P') := by
  cases twins with
  | compose twins =>
    exact (Request.alike_composition served twins _ _).bind fun v => alike_pure (Outcome.document v)
  | plan twins => exact Request.alike_planning served twins _ _

end Call

end SchemaDrift
