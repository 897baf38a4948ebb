import SchemaDrift.Planner
import SchemaDrift.Proofs.Ddl.Composition
import SchemaDrift.Proofs.Session.Alike
import SchemaDrift.Proofs.Session.Reports

/-!
# Planners that run alike

How a run reports, its settings say; no statement depends on that. Two planners that differ in their
reports only are twins if their reports run alike. Beside two sources that serve alike, twins run
alike, and what asks nothing of a source runs alike beside any two.
-/

namespace SchemaDrift

open Document (Value)

/-- The configuration with other reports. -/
def Config.relogged (g : Config → Reporting) (c : Config) : Config :=
  { c with
    logger := (g c).logger
    logLevel := (g c).level
    statementLoggingSetting := (g c).statements }

def Composer.relogged (g : Config → Reporting) (b : Composer) : Composer :=
  { b with
    config := b.config.relogged g
    conventions := { b.conventions with config := b.conventions.config.relogged g } }

def Planner.relogged (g : Config → Reporting) (p : Planner) : Planner :=
  { p with composer := p.composer.relogged g, config := p.config.relogged g }

theorem Composer.relogged_reporting (b : Composer) : b.relogged Config.reporting = b := rfl

theorem Planner.relogged_reporting (p : Planner) : p.relogged Config.reporting = p := rfl

section

variable {ι σ τ : Type} {B : Bond ι σ τ} {P : Provider σ} {P' : Provider τ} {e : Entity}
  {a : Attribute} {table column : Value} {tableHasRows : Bool}

open Bond (alike_lift alike_pure alike_throw alike_mapM alike_forM)

/-- The reports of two configurations run alike. -/
structure Bond.Reports (B : Bond ι σ τ) (c c' : Config) : Prop where
  tell : ∀ x : Event, x.isListing = false →
    B.Alike (Session.log c.logger x.record.level x.record.message)
      (Session.log c'.logger x.record.level x.record.message)
  list : ∀ ss, B.Alike (Composer.logStatements c ss) (Composer.logStatements c' ss)

theorem Bond.reports_self (records : ∀ {w t u} (r : Log.Record), B.holds w none t u →
      B.holds w none { t with log := t.log ++ [r] } { u with log := u.log ++ [r] }) (c : Config) :
    B.Reports c c := by
  have logs (level : Log.Level) (message : String) :
      B.Alike (Session.log c.logger level message) (Session.log c.logger level message) := by
    cases c.logger with
    | none => exact alike_pure ()
    | some logger =>
      cases logger with
      | recorder => exact fun w t u bound => ⟨rfl, records ⟨level, message⟩ bound⟩
      | mute v => exact alike_throw .unsupported
  refine ⟨fun x _ => logs _ _, fun ss => ?_⟩
  exact .ite (alike_forM fun s _ => logs .debug s.logLine) (alike_pure ())

theorem Bond.reports_still (σ : Type) (c : Config) : (still σ).Reports c c := by
  refine reports_self ?_ c
  rintro w t u r ⟨rfl, kept⟩
  exact ⟨rfl, kept⟩

theorem Bond.reports_loose (σ τ : Type) (c : Config) : (loose σ τ).Reports c c :=
  reports_self (fun _ => id) c

/-- Two composers differ in their reports only, and these run alike. -/
structure Composer.Twins (B : Bond ι σ τ) (b b' : Composer) : Prop where
  same : ∃ g, b' = b.relogged g
  reports : B.Reports b.config b'.config

/-- Two planners differ in their reports only, and these run alike. -/
structure Planner.Twins (B : Bond ι σ τ) (p p' : Planner) : Prop where
  same : ∃ g, p' = p.relogged g
  reports : B.Reports p.config p'.config
  composers : B.Reports p.composer.config p'.composer.config

theorem Composer.twins_self (reports : ∀ c, B.Reports c c) (b : Composer) : Twins B b b :=
  ⟨⟨_, b.relogged_reporting.symm⟩, reports b.config⟩

theorem Planner.twins_self (reports : ∀ c, B.Reports c c) (p : Planner) : Twins B p p :=
  ⟨⟨_, p.relogged_reporting.symm⟩, reports p.config, reports p.composer.config⟩

theorem Composer.twins_still (σ : Type) (b : Composer) : Twins (Bond.still σ) b b :=
  twins_self (Bond.reports_still σ) b

theorem Planner.twins_still (σ : Type) (p : Planner) : Twins (Bond.still σ) p p :=
  twins_self (Bond.reports_still σ) p

theorem Planner.Twins.composer {p p' : Planner} (twins : Twins B p p') :
    Composer.Twins B p.composer p'.composer := by
  obtain ⟨⟨g, rfl⟩, -, reports⟩ := twins
  exact ⟨⟨g, rfl⟩, reports⟩

namespace Composer

variable {b b' : Composer}

/-- The drops of what was found to depend on a column, reported. -/
def reportDrops (b : Composer) (table column : Value) :
    List Value × List Value × List Index → Session σ (List Statement)
  | (foreignKeys, defaults, indexes) => do
    let statements ← b.dependencyDrops table foreignKeys defaults indexes
    let count := statements.length
    if count ≠ 0 then
      Session.log b.config.logger .debug
        (table.display ++ "." ++ column.display ++ s!" 有 {count} 個依賴需先刪除")
      logStatements b.config statements
    return statements

theorem dropDependencies_eq : b.dropDependencies P table column =
    lookUpDependencies P table column >>= b.reportDrops table column := rfl

theorem alike_lookUpDependencies (served : B.Serves P P') :
    B.Alike (lookUpDependencies P table column) (lookUpDependencies P' table column) := by
  refine served.within ?_
  refine (served.foreignKeys table column).bind fun keys => ?_
  refine (served.defaults table column).bind fun constraints => ?_
  exact (served.indexes table column).bind fun listed => alike_pure (keys, constraints, listed)

theorem alike_reportDrops (twins : Twins B b b') (found : List Value × List Value × List Index) :
    B.Alike (b.reportDrops table column found) (b'.reportDrops table column found) := by
  obtain ⟨⟨g, rfl⟩, reports⟩ := twins
  refine (alike_lift (b.dependencyDrops table found.1 found.2.1 found.2.2)).bind fun ss => ?_
  refine .ite ?_ (alike_pure ss)
  have counted := reports.tell (.counted table column ss.length) rfl
  exact counted.bind fun _ => (reports.list ss).bind fun _ => alike_pure ss

theorem alike_dropDependencies (served : B.Serves P P') (twins : Twins B b b') :
    B.Alike (b.dropDependencies P table column) (b'.dropDependencies P' table column) :=
  (alike_lookUpDependencies served).bind fun found => alike_reportDrops twins found

theorem alike_dropColumnFully (served : B.Serves P P') (twins : Twins B b b') :
    B.Alike (b.dropColumnFully P table column) (b'.dropColumnFully P' table column) := by
  refine (alike_dropDependencies served twins).bind fun ss => ?_
  obtain ⟨⟨g, rfl⟩, -⟩ := twins
  exact (alike_lift (b.dropColumn table column)).bind fun drop => alike_pure (ss ++ [drop])

theorem alike_dropTableConstraints (served : B.Serves P P') (twins : Twins B b b') :
    B.Alike (b.dropTableConstraints P table) (b'.dropTableConstraints P' table) := by
  obtain ⟨⟨g, rfl⟩, reports⟩ := twins
  refine (served.within (served.foreignKeys table .null)).bind fun constraints => ?_
  refine (alike_lift (b.dropConstraints table constraints)).bind fun ss => ?_
  exact (reports.list ss).bind fun _ => alike_pure ss

theorem alike_addLeaf (twins : Twins B b b') :
    B.Alike (b.addLeaf e a column tableHasRows) (b'.addLeaf e a column tableHasRows) := by
  obtain ⟨⟨g, rfl⟩, reports⟩ := twins
  refine (alike_lift (columnOr column a)).bind fun named => ?_
  refine (alike_lift (b.leafAdditions e a named tableHasRows)).bind fun ss => ?_
  refine (alike_lift (b.lacksFilling a.field tableHasRows)).bind fun lacks => ?_
  exact .ite ((reports.tell (.warned _) rfl).bind fun _ => alike_pure ss) (alike_pure ss)

theorem alike_addColumn (twins : Twins B b b') :
    B.Alike (b.addColumn e a column tableHasRows) (b'.addColumn e a column tableHasRows) := by
  refine (alike_mapM fun leaf _ => ?_).bind fun groups => alike_pure groups.flatten
  exact (alike_lift leaf.2).bind fun own => alike_addLeaf twins

end Composer

namespace Planner

variable {p p' : Planner} {current : Option Column}

theorem alike_announce (twins : Twins B p p') (plan : Plan) :
    B.Alike (p.announce plan) (p'.announce plan) := by
  have told := twins.reports.tell (.told ("Migration plan created:\n" ++ plan.report)) rfl
  refine told.bind fun _ => (twins.reports.list _).bind fun _ => ?_
  refine (alike_forM fun warning _ => ?_).bind fun _ => alike_pure plan
  exact twins.reports.tell (.warned warning.display) rfl

/-- The statements that make a column anew once what depends on it goes. -/
def renew (p : Planner) (e : Entity) (a : Attribute) (column : Value) (tableHasRows : Bool)
    (dependencies : List Statement) : Session σ (List Statement) := do
  let key ← p.primaryKeyDrops e a
  let drop ← p.composer.dropColumn e.table column
  let additions ← p.composer.addColumn e a column tableHasRows
  let restored ← p.keyStatements e a column
  return dependencies ++ key ++ [drop] ++ additions ++ restored

theorem rebuild_eq : p.rebuild P e a column tableHasRows =
    p.composer.dropDependencies P e.table column >>= p.renew e a column tableHasRows := rfl

theorem alike_renew (twins : Twins B p p') (dependencies : List Statement) :
    B.Alike (p.renew e a column tableHasRows dependencies)
      (p'.renew e a column tableHasRows dependencies) := by
  have composer := twins.composer
  obtain ⟨⟨g, rfl⟩, -⟩ := twins
  refine (alike_lift (p.primaryKeyDrops e a)).bind fun key => ?_
  refine (alike_lift (p.composer.dropColumn e.table column)).bind fun drop => ?_
  refine (Composer.alike_addColumn composer).bind fun additions => ?_
  refine (alike_lift (p.keyStatements e a column)).bind fun restored => ?_
  exact alike_pure (dependencies ++ key ++ [drop] ++ additions ++ restored)

theorem alike_rebuild (served : B.Serves P P') (twins : Twins B p p') :
    B.Alike (p.rebuild P e a column tableHasRows) (p'.rebuild P' e a column tableHasRows) :=
  (Composer.alike_dropDependencies served twins.composer).bind fun dependencies =>
    alike_renew twins dependencies

/-- The difference that a change of an attribute is planned by. -/
def changeDifference (p : Planner) (e : Entity) (a : Attribute) (current : Option Column)
    (column : Value) : Except Fault Difference := do
  p.difference e a current (← Composer.columnOr column a)

/-- Whether a change of an attribute makes its column anew. -/
def isRebuild (p : Planner) (e : Entity) (a : Attribute) (current : Option Column)
    (column : Value) : Bool :=
  match p.changeDifference e a current column with
  | .ok d => d.kind == .rebuild
  | .error _ => false

theorem isRebuild_of_difference {named : Value} {d : Difference}
    (hnamed : Composer.columnOr column a = .ok named)
    (compared : p.difference e a current named = .ok d) :
    p.isRebuild e a current column = (d.kind == .rebuild) := by
  have found : p.changeDifference e a current column = .ok d := by
    rw [changeDifference, hnamed, ok_bind, compared]
  rw [isRebuild, found]

theorem exists_difference_of_isRebuild (h : p.isRebuild e a current column = true) :
    ∃ named d, Composer.columnOr column a = .ok named ∧ p.difference e a current named = .ok d ∧
      d.kind = .rebuild := by
  rw [isRebuild] at h
  split at h
  · next d found =>
    obtain ⟨named, hnamed, compared⟩ := bind_eq_ok.1 found
    exact ⟨named, d, hnamed, compared, beq_iff_eq.1 h⟩
  · cases h

theorem planChange_of_rebuild {named : Value} {d : Difference}
    (hnamed : Composer.columnOr column a = .ok named)
    (compared : p.difference e a current named = .ok d) (kind : d.kind = .rebuild) :
    p.planChange P e a current column tableHasRows =
      p.rebuild P e a named tableHasRows >>= fun statements => p.announce {
        table := e.table, statements, differences := [d]
        warnings := [.text (lossWarning e.table named (typeOf d.current) (typeOf d.desired))] } := by
  rw [planChange, hnamed, Session.lift_ok_bind, compared, Session.lift_ok_bind, kind]

theorem alike_planChange_of_rebuild (twins : Twins B p p')
    (rebuilds : p.isRebuild e a current column = true → ∀ named,
      B.Alike (p.rebuild P e a named tableHasRows) (p'.rebuild P' e a named tableHasRows)) :
    B.Alike (p.planChange P e a current column tableHasRows)
      (p'.planChange P' e a current column tableHasRows) := by
  have reported (plan : Plan) := alike_announce twins plan
  obtain ⟨⟨g, rfl⟩, -⟩ := twins
  refine Bond.alike_lift_bind fun named hnamed => Bond.alike_lift_bind fun d compared => ?_
  split
  · exact alike_pure _
  · next kind =>
    have rebuilt : p.isRebuild e a current column = true := by
      rw [isRebuild_of_difference hnamed compared]
      exact beq_iff_eq.2 kind
    exact (rebuilds rebuilt named).bind fun ss => reported _
  · exact (alike_lift _).bind fun plan => reported plan

/-- A change that makes no column anew asks nothing of a source. -/
theorem alike_planChange_of_mild (twins : Twins B p p')
    (mild : p.isRebuild e a current column = false) :
    B.Alike (p.planChange P e a current column tableHasRows)
      (p'.planChange P' e a current column tableHasRows) := by
  refine alike_planChange_of_rebuild twins fun rebuilds => ?_
  rw [mild] at rebuilds
  cases rebuilds

theorem alike_planChange (served : B.Serves P P') (twins : Twins B p p') :
    B.Alike (p.planChange P e a current column tableHasRows)
      (p'.planChange P' e a current column tableHasRows) :=
  alike_planChange_of_rebuild twins fun _ _ => alike_rebuild served twins

theorem alike_planAdd (twins : Twins B p p') :
    B.Alike (p.planAdd e a column tableHasRows) (p'.planAdd e a column tableHasRows) := by
  have reported (plan : Plan) := alike_announce twins plan
  refine (Composer.alike_addColumn twins.composer).bind fun additions => ?_
  obtain ⟨⟨g, rfl⟩, -⟩ := twins
  refine (alike_mapM fun leaf _ => ?_).bind fun parts => reported _
  exact (alike_lift leaf.2).bind fun own =>
    alike_lift (p.additionParts e tableHasRows leaf.1 (newColumn a column own))

theorem alike_planDropColumn (served : B.Serves P P') (twins : Twins B p p') :
    B.Alike (p.planDropColumn P table column) (p'.planDropColumn P' table column) :=
  (Composer.alike_dropColumnFully served twins.composer).bind fun _ => alike_announce twins _

theorem alike_planCreate (twins : Twins B p p') : B.Alike (p.planCreate e) (p'.planCreate e) := by
  have reported (plan : Plan) := alike_announce twins plan
  obtain ⟨⟨g, rfl⟩, -⟩ := twins
  refine (alike_lift (p.composer.createTable e)).bind fun created => ?_
  refine (alike_mapM fun leaf _ => ?_).bind fun references => reported _
  exact (alike_lift leaf.2).bind fun own => alike_lift (p.references e leaf.1 own)

theorem alike_planDropTable (served : B.Serves P P') (twins : Twins B p p') :
    B.Alike (p.planDropTable P table) (p'.planDropTable P' table) := by
  have reported (plan : Plan) := alike_announce twins plan
  refine (Composer.alike_dropTableConstraints served twins.composer).bind fun constraints => ?_
  obtain ⟨⟨g, rfl⟩, -⟩ := twins
  exact (alike_lift (p.composer.dropTable table)).bind fun drop => reported _

theorem alike_planLeaf {found : Found} {leaf : Attribute.Leaf} (served : B.Serves P P')
    (twins : Twins B p p') : B.Alike (p.planLeaf P e found tableHasRows leaf)
      (p'.planLeaf P' e found tableHasRows leaf) := by
  refine (alike_lift leaf.2).bind fun own => (alike_lift (Document.textOf own)).bind fun name => ?_
  simp only
  split
  · exact (alike_planChange served twins).bind fun plan => alike_pure (Text.upper name, plan)
  · exact (alike_planAdd twins).bind fun plan => alike_pure (Text.upper name, plan)

theorem alike_orphanDrops {seen : List String} {entry : String × Option Column}
    (served : B.Serves P P') (twins : Twins B p p') :
    B.Alike (p.orphanDrops P e seen entry) (p'.orphanDrops P' e seen entry) := by
  have dropped : B.Alike (p.composer.dropColumnFully P e.table (.text entry.1))
      (p'.composer.dropColumnFully P' e.table (.text entry.1)) :=
    Composer.alike_dropColumnFully served twins.composer
  obtain ⟨⟨g, rfl⟩, -⟩ := twins
  refine .ite (alike_pure []) ?_
  exact (alike_lift (Document.textOf (typeOf entry.2))).bind fun type =>
    .ite (alike_pure []) dropped

theorem alike_planChanges {columns : List (Value × Option Column)} (served : B.Serves P P')
    (twins : Twins B p p') : B.Alike (p.planChanges P e columns tableHasRows)
      (p'.planChanges P' e columns tableHasRows) := by
  refine (alike_lift (columnsByName columns)).bind fun found => ?_
  refine (alike_mapM fun leaf _ => alike_planLeaf served twins).bind fun parts => ?_
  refine (alike_mapM fun entry _ => alike_orphanDrops served twins).bind fun drops => ?_
  have reports := twins.reports
  obtain ⟨⟨g, rfl⟩, -⟩ := twins
  exact (reports.tell (.told _) rfl).bind fun _ => alike_pure _

end Planner

end

end SchemaDrift
