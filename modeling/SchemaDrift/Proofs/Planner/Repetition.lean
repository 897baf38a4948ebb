import SchemaDrift.Proofs.Metadata.Recorded
import SchemaDrift.Proofs.Planner.Accounting

/-!
# What is dropped twice

Each column that goes takes along what is recorded of it, whatever other columns take along. A plan
therefore drops a constraint or an index as often as columns that go have it, and nothing twice
exactly if no two of them share anything.
-/

namespace SchemaDrift

open Document (Value)

namespace Planner

variable {p : Planner} {e : Entity} {found : Found} {tableHasRows : Bool} {plan : Plan}
  {columns : List (Value × Option Column)} {i : Inventory} {t t' : Trail Inventory}

/-- What goes along with a column. -/
structure Dependents where
  constraints : List Identifier
  indexes : List Identifier
  deriving Repr, DecidableEq

/-- What goes along with a column that is made anew: what is recorded of it, and its key. -/
def rebuiltDependents (p : Planner) (i : Inventory) (e : Entity) (l : Declared) :
    Except Fault Dependents := do
  let constraints ← p.composer.constraintsUnder i e.table (.text l.2)
  let indexes ← p.composer.indexesUnder i e.table (.text l.2)
  let keys ← p.keyConstraints e l.1.field
  return ⟨constraints ++ keys, indexes⟩

/-- What goes along with an orphan: what is recorded of it. -/
def orphanDependents (p : Planner) (i : Inventory) (e : Entity) (orphan : String) :
    Except Fault Dependents := do
  let constraints ← p.composer.constraintsUnder i e.table (.text orphan)
  let indexes ← p.composer.indexesUnder i e.table (.text orphan)
  return ⟨constraints, indexes⟩

/-- What goes along with each column that goes: those that are made anew, then the orphans. -/
def dependents (p : Planner) (i : Inventory) (e : Entity) (found : Found) :
    Except Fault (List Dependents) := do
  let rebuilt ← (e.declared.filter (p.rebuilds e found)).mapM (p.rebuiltDependents i e)
  let orphaned ← (p.orphans e found).mapM (p.orphanDependents i e)
  return rebuilt ++ orphaned

/-- Effects take along what goes along with a column. -/
def Takes (d : Dependents) (es : List Effect) : Prop :=
  es.filterMap Effect.droppedConstraint? = d.constraints ∧
    es.filterMap Effect.droppedIndex? = d.indexes

theorem takes_recorded (constraints indexes : List Identifier) :
    Takes ⟨constraints, indexes⟩
      (constraints.map .dropsConstraint ++ indexes.map .dropsIndex) := by
  constructor <;>
    simp [List.filterMap_append, List.filterMap_map, Function.comp_def, Effect.droppedConstraint?,
      Effect.droppedIndex?]

theorem takes_append {d d' : Dependents} {es fs : List Effect} (h : Takes d es) (h' : Takes d' fs) :
    Takes ⟨d.constraints ++ d'.constraints, d.indexes ++ d'.indexes⟩ (es ++ fs) := by
  constructor
  · rw [List.filterMap_append, h.1, h'.1]
  · rw [List.filterMap_append, h.2, h'.2]

theorem takes_leafEffects {l : Declared} {es : List Effect}
    (h : p.LeafEffects (p.composer.DropsRecorded i e.table) e found tableHasRows l es) :
    if p.rebuilds e found l then ∃ d, p.rebuiltDependents i e l = .ok d ∧ Takes d es
    else Takes ⟨[], []⟩ es := by
  cases h with
  | added missing =>
    have kept : p.rebuilds e found l = false := by simp [rebuilds, missing]
    rw [kept]
    exact ⟨rfl, rfl⟩
  | altered present compared mild =>
    have kept : p.rebuilds e found l = false := by simp [rebuilds, present, compared, mild]
    rw [kept]
    exact ⟨rfl, rfl⟩
  | @rebuilt _ _ _ keys dropped definition present compared severe depends unlocks =>
    have rebuilt : p.rebuilds e found l = true := by simp [rebuilds, present, compared, severe]
    obtain ⟨constraints, indexes, hconstraints, hindexes, rfl⟩ := depends
    rw [if_pos rebuilt, rebuiltDependents, hconstraints, hindexes, unlocks]
    refine ⟨_, rfl, ?_⟩
    have locked : Takes ⟨keys, []⟩ (keys.map .dropsConstraint) := by
      simpa using takes_recorded keys []
    have column : Takes ⟨[], []⟩ [.dropsColumn dropped, .addsColumn definition] := ⟨rfl, rfl⟩
    have whole := takes_append (takes_append (takes_recorded constraints indexes) locked) column
    simpa using whole

theorem takes_orphanEffects {orphan : String} {es : List Effect}
    (h : p.OrphanEffects (p.composer.DropsRecorded i e.table) orphan es) :
    ∃ d, p.orphanDependents i e orphan = .ok d ∧ Takes d es := by
  obtain ⟨_, dropped, ⟨constraints, indexes, hconstraints, hindexes, rfl⟩, -, rfl⟩ := h
  refine ⟨⟨constraints, indexes⟩, ?_, ?_⟩
  · rw [orphanDependents, hconstraints, hindexes]
    rfl
  · have column : Takes ⟨[], []⟩ [.dropsColumn dropped] := ⟨rfl, rfl⟩
    have whole := takes_append (takes_recorded constraints indexes) column
    simpa using whole

/-- The dependents of several columns, one after another. -/
def allOf (ds : List Dependents) : Dependents :=
  ⟨ds.flatMap (·.constraints), ds.flatMap (·.indexes)⟩

theorem takes_leaves {ls : List Declared} {effects : List (List Effect)}
    (h : List.Forall₂ (p.LeafEffects (p.composer.DropsRecorded i e.table) e found tableHasRows)
      ls effects) :
    ∃ ds, (ls.filter (p.rebuilds e found)).mapM (p.rebuiltDependents i e) = .ok ds ∧
      Takes (allOf ds) effects.flatten := by
  induction h with
  | nil => exact ⟨[], rfl, rfl, rfl⟩
  | @cons l es ls effects first _ ih =>
    obtain ⟨ds, hds, later⟩ := ih
    have now := takes_leafEffects first
    by_cases rebuilt : p.rebuilds e found l = true
    · rw [if_pos rebuilt] at now
      obtain ⟨d, hd, now⟩ := now
      refine ⟨d :: ds, ?_, takes_append now later⟩
      rw [List.filter_cons_of_pos rebuilt, List.mapM_cons, hd, ok_bind, hds]
      rfl
    · rw [if_neg rebuilt] at now
      refine ⟨ds, ?_, ?_⟩
      · rw [List.filter_cons_of_neg rebuilt, hds]
      · simpa using takes_append now later

theorem takes_orphans {orphans : List String} {effects : List (List Effect)}
    (h : List.Forall₂ (p.OrphanEffects (p.composer.DropsRecorded i e.table)) orphans effects) :
    ∃ ds, orphans.mapM (p.orphanDependents i e) = .ok ds ∧ Takes (allOf ds) effects.flatten := by
  induction h with
  | nil => exact ⟨[], rfl, rfl, rfl⟩
  | cons first _ ih =>
    obtain ⟨d, hd, now⟩ := takes_orphanEffects first
    obtain ⟨ds, hds, later⟩ := ih
    refine ⟨d :: ds, ?_, takes_append now later⟩
    rw [List.mapM_cons, hd, ok_bind, hds]
    rfl

theorem takes_effects {ofLeaves ofOrphans : List (List Effect)}
    (effects : p.EntityEffects (p.composer.DropsRecorded i e.table) e found tableHasRows plan
      ofLeaves ofOrphans) :
    ∃ ds, p.dependents i e found = .ok ds ∧
      Takes (allOf ds) (Statement.effects (plan.statements ++ plan.separateDrops)) := by
  obtain ⟨rebuilt, hrebuilt, first⟩ := takes_leaves effects.leaves
  obtain ⟨orphaned, horphaned, second⟩ := takes_orphans effects.orphans
  refine ⟨rebuilt ++ orphaned, ?_, ?_⟩
  · rw [dependents, hrebuilt, ok_bind, horphaned]
    rfl
  · rw [effects.all.effects]
    simpa [allOf] using takes_append first second

/-- Two columns share nothing that goes along with them. -/
def Dependents.Apart (d d' : Dependents) : Prop :=
  d.constraints.Disjoint d'.constraints ∧ d.indexes.Disjoint d'.indexes

/--
A plan drops what goes along with each column that goes. It drops nothing twice exactly if nothing
goes along twice with one of these columns and no two of them share anything.
-/
theorem planChanges_drops_once_iff
    (h : (p.planChanges Inventory.provider e columns tableHasRows).Returns t plan t') :
    ∃ found ds, columnsByName columns = .ok found ∧ p.dependents t.source e found = .ok ds ∧
      Statement.droppedConstraints (plan.statements ++ plan.separateDrops) =
        ds.flatMap (·.constraints) ∧
      Statement.droppedIndexes (plan.statements ++ plan.separateDrops) =
        ds.flatMap (·.indexes) ∧
      ((Statement.droppedConstraints (plan.statements ++ plan.separateDrops)).Nodup ∧
          (Statement.droppedIndexes (plan.statements ++ plan.separateDrops)).Nodup ↔
        (∀ d ∈ ds, d.constraints.Nodup ∧ d.indexes.Nodup) ∧ ds.Pairwise Dependents.Apart) := by
  have records : Inventory.SameRecords t.source t.source := ⟨rfl, rfl, rfl⟩
  obtain ⟨found, parts, drops, hfound, -, entityPlan, -⟩ :=
    returns_planChanges looksUp_recorded records h
  obtain ⟨ofLeaves, ofOrphans, effects⟩ := entityPlan.effects
  obtain ⟨ds, hds, constraints, indexes⟩ := takes_effects effects
  refine ⟨found, ds, hfound, hds, constraints, indexes, ?_⟩
  rw [Statement.droppedConstraints, Statement.droppedIndexes, constraints, indexes, allOf,
    List.nodup_flatMap, List.nodup_flatMap]
  constructor
  · rintro ⟨⟨each, apart⟩, each', apart'⟩
    exact ⟨fun d hd => ⟨each d hd, each' d hd⟩, apart.and apart'⟩
  · rintro ⟨each, apart⟩
    exact ⟨⟨fun d hd => (each d hd).1, apart.imp And.left⟩, fun d hd => (each d hd).2,
      apart.imp And.right⟩

def customer : Entity where
  name := "Customer"
  table := "CUSTOMER"
  attributes := [
    .plain { name := "name", type := ⟨"java.lang.String", "String"⟩, length := .int 20 } []]

/-- The columns found of the table, with two that are declared no more. -/
def customerColumns : List (Value × Option Column) := [
  ("NAME", some { type := "varchar", length := .int 20 }),
  ("FIRST_NAME", some { type := "varchar" }),
  ("LAST_NAME", some { type := "varchar" })]

def customerRecords : Inventory where
  indexEntries := [
    ⟨"CUSTOMER", "FIRST_NAME", { name := "IX_NAMES" }⟩,
    ⟨"CUSTOMER", "LAST_NAME", { name := "IX_NAMES" }⟩]

/-- The index is dropped with each of its columns. -/
theorem planChanges_drops_index_twice :
    ((filePlanner.planChanges Inventory.provider customer customerColumns true).start
        customerRecords).1.toOption.map
          (fun plan => Statement.droppedIndexes (plan.statements ++ plan.separateDrops)) =
      some [⟨"IX_NAMES"⟩, ⟨"IX_NAMES"⟩] ∧
    (customer.declared.map Declared.key).Nodup := by
  decide +kernel

theorem planChanges_drops_once_iff_customer :
    ∃ plan trail,
      (filePlanner.planChanges Inventory.provider customer customerColumns true).Returns
        { source := customerRecords } plan trail ∧
      Statement.droppedIndexes (plan.statements ++ plan.separateDrops) =
        [⟨"IX_NAMES"⟩, ⟨"IX_NAMES"⟩] := by
  obtain ⟨plan, trail, returned⟩ := Session.exists_returns
    (s := filePlanner.planChanges Inventory.provider customer customerColumns true)
    (t := { source := customerRecords }) (by decide +kernel)
  have listed : ((columnsByName customerColumns).toOption.bind fun found =>
      (filePlanner.dependents customerRecords customer found).toOption).map
        (fun ds => ds.flatMap (·.indexes)) = some [⟨"IX_NAMES"⟩, ⟨"IX_NAMES"⟩] := by
    decide +kernel
  obtain ⟨found, ds, hfound, hds, -, indexes, -⟩ := planChanges_drops_once_iff returned
  have shared : some (ds.flatMap (·.indexes)) = some [⟨"IX_NAMES"⟩, ⟨"IX_NAMES"⟩] := by
    rw [hfound] at listed
    rw [← listed]
    show _ = (filePlanner.dependents customerRecords customer found).toOption.map _
    rw [hds]
    rfl
  refine ⟨plan, trail, returned, ?_⟩
  rw [indexes]
  exact Option.some.inj shared

end Planner

end SchemaDrift
