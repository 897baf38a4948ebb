import SchemaDrift.Proofs.Ddl.Addition
import SchemaDrift.Proofs.Planner.Accounting
import SchemaDrift.Proofs.Planner.Alteration

/-!
# What a plan destroys

The kind of the difference decides what the plan of one attribute does: nothing, alterations that
destroy nothing, or the drop of the column and of what depends on it, which come first, with a
warning. `planChange_classifies` says so of every plan of one attribute that is returned.
-/

namespace SchemaDrift

open Document (Value)

namespace Planner

variable {σ : Type} {p : Planner} {provider : Provider σ} {e : Entity} {a : Attribute}
  {current : Option Column} {column : Value} {tableHasRows : Bool} {t t' : Trail σ} {plan : Plan}
  {d : Difference}

theorem category_primaryKeyDrops {drops : List Statement}
    (h : p.primaryKeyDrops e a = .ok drops) : ∀ s ∈ drops, s.category = .drop := by
  rw [primaryKeyDrops] at h
  split at h
  · obtain ⟨s, hs, h⟩ := bind_eq_ok.1 h
    obtain rfl := pure_eq_ok.1 h
    intro s' hs'
    rw [List.mem_singleton.1 hs']
    exact Composer.category_dropConstraint hs
  · cases h
    simp

theorem category_rebuildDrops {dependencies keyDrops : List Statement} {drop : Statement}
    {u : Trail σ}
    (depends : (p.composer.dropDependencies provider e.table column).Returns t dependencies u)
    (unlocks : p.primaryKeyDrops e a = .ok keyDrops)
    (drops : p.composer.dropColumn e.table column = .ok drop) :
    ∀ s ∈ dependencies ++ keyDrops ++ [drop], s.category = .drop := by
  intro s hs
  rcases List.mem_append.1 hs with hs | hs
  · rcases List.mem_append.1 hs with hs | hs
    · exact Composer.category_dropDependencies depends s hs
    · exact category_primaryKeyDrops unlocks s hs
  · rw [List.mem_singleton.1 hs]
    exact Composer.category_dropColumn drops

theorem category_keyStatements {restored : List Statement}
    (h : p.keyStatements e a column = .ok restored) : ∀ s ∈ restored, s.category = .alter := by
  rw [keyStatements] at h
  split at h
  · exact Composer.category_addPrimaryKey h
  · intro s hs
    exact Composer.category_addForeignKey (addForeignKey_of_mem_references h hs)

theorem aspect?_of_references {references : List Statement}
    (h : p.references e a column = .ok references) :
    ∀ s ∈ references, s.aspect? = some .key := by
  intro s hs
  have key := addForeignKey_of_mem_references h hs
  obtain ⟨owner, _, _, _, _, -, rfl⟩ := Composer.command_of_addForeignKey key
  rfl

theorem aspect?_of_keyStatements {restored : List Statement}
    (h : p.keyStatements e a column = .ok restored) : ∀ s ∈ restored, s.aspect? = some .key := by
  rw [keyStatements] at h
  split at h
  · obtain ⟨owner, constraint, key, -, rfl⟩ := Composer.command_of_addPrimaryKey h
    intro s hs
    rw [List.mem_singleton.1 hs]
    rfl
  · exact aspect?_of_references h

/--
A plan that makes a column anew: what is dropped comes first, the column last among it and once,
and the column is added at once.
-/
structure Rebuilding (p : Planner) (e : Entity) (a : Attribute) (column : Value)
    (tableHasRows : Bool) (plan : Plan) (before after : List Statement) (drop : Statement)
    (owner : Identifier) (definition : ColumnDefinition) : Prop where
  drops : p.composer.dropColumn e.table column = .ok drop
  owned : p.composer.identify e.table = .ok owner
  adds : p.composer.columnDefinition e a column
    (!Composer.needsTransition a.field tableHasRows) = .ok definition
  statements : plan.statements =
    before ++ drop :: p.composer.issue (.addColumn owner definition) :: after
  category_before : ∀ s ∈ before, s.category = .drop
  category_drop : drop.category = .drop
  category_after : ∀ s ∈ p.composer.issue (.addColumn owner definition) :: after, s.category ≠ .drop
  occurs_once : plan.occurrences drop = 1

/-- How destructive the plan of one attribute is, by the difference that it reports. -/
structure Classified (p : Planner) (e : Entity) (a : Attribute) (column : Value)
    (tableHasRows : Bool) (plan : Plan) (d : Difference) : Prop where
  differences : plan.differences = [d]
  isEmpty_iff : plan.isEmpty = true ↔ plan.kind = .keep
  warnings_of_keep : plan.kind = .keep → plan.warnings = []
  drops_iff : (∃ s ∈ plan.statements ++ plan.separateDrops, s.category = .drop) ↔
    d.changes.type = true
  warns : d.changes.type = true → plan.warnings =
    [.text (lossWarning e.table column (typeOf d.current) (typeOf d.desired))]
  alters : plan.kind = .alter → ∀ s ∈ plan.statements ++ plan.separateDrops,
    (s.category = .alter ∨ s.category = .update) ∧
      ∀ owner definition, s.command? ≠ some (.addColumn owner definition)
  rebuilds : plan.kind = .rebuild → ∃ before after drop owner definition,
    p.Rebuilding e a column tableHasRows plan before after drop owner definition

theorem classified_of_keep (kind : d.kind = .keep) :
    p.Classified e a column tableHasRows { table := e.table, differences := [d] } d := by
  have whole : ({ table := e.table, differences := [d] } : Plan).kind = .keep :=
    (Plan.kind_of_differences rfl).trans kind
  have type : d.changes.type = false := by
    rw [(Changes.kind_eq_keep_iff _).1 kind]
  refine ⟨rfl, ?_, fun _ => rfl, ?_, ?_, ?_, ?_⟩
  · rw [whole]
    exact iff_of_true rfl rfl
  · rw [type]
    simp
  · intro changed
    rw [type] at changed
    cases changed
  · intro alter
    rw [whole] at alter
    cases alter
  · intro rebuild
    rw [whole] at rebuild
    cases rebuild

theorem classified_of_alter {desired found : Column} {type foundType : String} {named : Value}
    {owner identifier : Identifier}
    (h : p.AlteredPlan e a current column plan d desired found type foundType owner identifier)
    (separate : plan.separateDrops = []) : p.Classified e a named tableHasRows plan d := by
  have whole : plan.kind = .alter := (Plan.kind_of_differences h.differences).trans h.kind
  have type : d.changes.type = false := h.parametric.type_eq
  have some : plan.statements ≠ [] := h.restates.ne_nil (alteredSpecs_ne_nil h.kind)
  have harmless : ∀ s ∈ plan.statements, (s.category = .alter ∨ s.category = .update) ∧
      ∀ owner definition, s.command? ≠ .some (.addColumn owner definition) := by
    intro s hs
    rcases h.restates.exists_command_of_mem hs with ⟨spec, -, rfl⟩ | ⟨value, rfl⟩
    · exact ⟨.inl rfl, nofun⟩
    · exact ⟨.inr rfl, nofun⟩
  refine ⟨h.differences, ?_, ?_, ?_, ?_, ?_, ?_⟩
  · rw [whole, Plan.isEmpty, separate]
    cases statements : plan.statements with
    | nil => exact absurd statements some
    | cons s ss => exact iff_of_false nofun nofun
  · intro keep
    rw [whole] at keep
    cases keep
  · rw [type, separate, List.append_nil]
    refine iff_of_false ?_ nofun
    rintro ⟨s, hs, drop⟩
    rcases (harmless s hs).1 with alter | update
    · rw [alter] at drop
      cases drop
    · rw [update] at drop
      cases drop
  · intro changed
    rw [type] at changed
    cases changed
  · intro _ s hs
    rw [separate, List.append_nil] at hs
    exact harmless s hs
  · intro rebuild
    rw [whole] at rebuild
    cases rebuild

/-- A column's drop occurs once: no other effect drops a column. -/
theorem occurrences_rebuilt {dependencies : List Effect} {constraints : List Identifier}
    {owner dropped : Identifier} {definition : ColumnDefinition} {column : Value}
    (issues : p.composer.Issues e.table (plan.statements ++ plan.separateDrops)
      (dependencies ++ constraints.map .dropsConstraint ++
        [.dropsColumn dropped, .addsColumn definition]))
    (depends : OnDependencies column dependencies)
    (howner : p.composer.identify e.table = .ok owner) :
    plan.occurrences (p.composer.issue (.dropColumn owner dropped)) = 1 := by
  have locked := onDependencies_constraints column constraints
  rw [Plan.occurrences, issues.countP_dropColumn howner, Statement.droppedColumns, issues.effects,
    List.filterMap_append, List.filterMap_append, droppedColumn?_of_onDependencies depends,
    droppedColumn?_of_onDependencies locked]
  show [dropped].count dropped = 1
  exact List.count_singleton_self

theorem rebuilding {dependencies keyDrops additions restored : List Statement} {drop : Statement}
    {u : Trail σ}
    (depends : (p.composer.dropDependencies provider e.table column).Returns t dependencies u)
    (unlocks : p.primaryKeyDrops e a = .ok keyDrops)
    (drops : p.composer.dropColumn e.table column = .ok drop)
    (adds : p.composer.leafAdditions e a column tableHasRows = .ok additions)
    (restores : p.keyStatements e a column = .ok restored)
    (statements : plan.statements = dependencies ++ keyDrops ++ [drop] ++ additions ++ restored)
    (separate : plan.separateDrops = []) :
    ∃ before after drop owner definition,
      p.Rebuilding e a column tableHasRows plan before after drop owner definition := by
  obtain ⟨_, _, _, _, -, depends, -⟩ := Composer.returns_dropDependencies depends
  obtain ⟨constraints, indexes, -, -, issues⟩ := Composer.issues_dependencyDrops depends
  obtain ⟨locks, owner, dropped, definition, rest, -, howner, -, rfl, defines, rfl, whole⟩ :=
    issues_rebuilt issues unlocks drops adds (issues_keyStatements restores)
  refine ⟨dependencies ++ keyDrops, rest ++ restored, _, owner, definition, drops, howner,
    defines, ?_, ?_, rfl, ?_, ?_⟩
  · rw [statements]
    simp
  · intro s hs
    rcases List.mem_append.1 hs with hs | hs
    · exact Composer.category_dependencyDrops depends s hs
    · exact category_primaryKeyDrops unlocks s hs
  · intro s hs
    rw [← List.cons_append] at hs
    rcases List.mem_append.1 hs with hs | hs
    · exact Composer.category_leafAdditions adds s hs
    · rw [category_keyStatements restores s hs]
      exact nofun
  · rw [← statements, ← List.append_nil plan.statements, ← separate] at whole
    exact occurrences_rebuilt whole (onDependencies_drops column constraints indexes) howner

theorem classified_of_rebuild (kind : d.kind = .rebuild) (differences : plan.differences = [d])
    (separate : plan.separateDrops = [])
    (warnings : plan.warnings = [rebuildWarning e column d])
    (rebuilds : ∃ before after drop owner definition,
      p.Rebuilding e a column tableHasRows plan before after drop owner definition) :
    p.Classified e a column tableHasRows plan d := by
  have whole : plan.kind = .rebuild := (Plan.kind_of_differences differences).trans kind
  have type : d.changes.type = true := (Changes.kind_eq_rebuild_iff _).1 kind
  obtain ⟨before, after, drop, owner, definition, rebuilding⟩ := rebuilds
  have dropped : drop ∈ plan.statements := by
    rw [rebuilding.statements]
    exact List.mem_append_right _ (List.mem_cons_self ..)
  refine ⟨differences, ?_, ?_, ?_, fun _ => warnings, ?_, ?_⟩
  · rw [whole, Plan.isEmpty, separate]
    cases statements : plan.statements with
    | nil =>
      rw [statements] at dropped
      cases dropped
    | cons s ss => exact iff_of_false nofun nofun
  · intro keep
    rw [whole] at keep
    cases keep
  · exact iff_of_true ⟨drop, List.mem_append_left _ dropped, rebuilding.category_drop⟩ type
  · intro alter
    rw [whole] at alter
    cases alter
  · exact fun _ => ⟨before, after, drop, owner, definition, rebuilding⟩

/--
Every plan of one attribute is as destructive as the difference that it reports: empty where nothing
has changed, free of drops where the type is kept, and with the drops first, the column's own last
among them, where it is not.
-/
theorem planChange_classifies
    (h : (p.planChange provider e a current column tableHasRows).Returns t plan t') :
    ∃ named d, Composer.columnOr column a = .ok named ∧
      p.difference e a current column = .ok d ∧
      p.Classified e a named tableHasRows plan d := by
  obtain ⟨named, hnamed, change⟩ := changePlan_of_returns h
  refine ⟨named, ?_⟩
  rw [← difference_columnOr hnamed]
  cases change with
  | @kept d compared kind whole =>
    subst whole
    exact ⟨d, hnamed, compared, classified_of_keep kind⟩
  | @altered d type compared kind typed alters =>
    -- The plan is taken apart a second time, for the definitions that it states.
    obtain ⟨-, differences, separate, -⟩ := alterations_eq_ok alters
    have alter : plan.kind = .alter := (Plan.kind_of_differences differences).trans kind
    obtain ⟨d', desired, found, type, foundType, owner, identifier, altered⟩ :=
      alteredPlan_of_returns h alter
    rw [altered.differences, List.singleton_inj] at differences
    subst differences
    exact ⟨d', hnamed, compared, classified_of_alter altered separate⟩
  | @rebuilt d dependencies keyDrops additions restored drop u compared kind depends unlocks drops
      adds restores whole =>
    subst whole
    exact ⟨d, hnamed, compared, classified_of_rebuild kind rfl rfl rfl
      (rebuilding depends unlocks drops adds restores rfl rfl)⟩

def quantity : Attribute :=
  .plain { name := "quantity", type := ⟨"java.lang.Integer", "Integer"⟩, isMandatory := true } []

def shipment : Entity where
  name := "Shipment"
  table := "SHIPMENT"
  attributes := [quantity]

def shipmentRecords : Inventory where
  defaultEntries := [⟨"SHIPMENT", "QUANTITY", "DF_QUANTITY"⟩]
  indexEntries := [⟨"SHIPMENT", "QUANTITY", { name := "IX_QUANTITY" }⟩]

theorem planChange_classifies_quantity :
    ∃ plan trail before after drop owner definition,
      (filePlanner.planChange Inventory.provider shipment quantity (some { type := "varchar" })
        .null true).Returns { source := shipmentRecords } plan trail ∧
      filePlanner.Rebuilding shipment quantity "QUANTITY" true plan before after drop owner
        definition ∧
      plan.statements.map (·.text) = [
        "alter table SHIPMENT drop constraint DF_QUANTITY ^",
        "drop index IX_QUANTITY on SHIPMENT ^",
        "alter table SHIPMENT drop column QUANTITY ^",
        "alter table SHIPMENT add QUANTITY integer ^",
        "update SHIPMENT set QUANTITY = 0 where QUANTITY is null ^",
        "alter table SHIPMENT alter column QUANTITY integer not null ^"] := by
  obtain ⟨plan, trail, returned, planned⟩ := Session.exists_returns_of_map
    (s := filePlanner.planChange Inventory.provider shipment quantity
      (some { type := "varchar" }) .null true) (t := { source := shipmentRecords })
    (f := fun plan => (plan.kind, plan.statements.map (·.text))) (b := (.rebuild, [
      "alter table SHIPMENT drop constraint DF_QUANTITY ^",
      "drop index IX_QUANTITY on SHIPMENT ^",
      "alter table SHIPMENT drop column QUANTITY ^",
      "alter table SHIPMENT add QUANTITY integer ^",
      "update SHIPMENT set QUANTITY = 0 where QUANTITY is null ^",
      "alter table SHIPMENT alter column QUANTITY integer not null ^"])) (by decide +kernel)
  obtain ⟨rebuild, texts⟩ := Prod.mk.inj planned
  obtain ⟨named, d, hnamed, -, classified⟩ := planChange_classifies returned
  have own : Composer.columnOr .null quantity = .ok "QUANTITY" := by decide +kernel
  rw [own] at hnamed
  cases hnamed
  obtain ⟨before, after, drop, owner, definition, rebuilding⟩ := classified.rebuilds rebuild
  exact ⟨plan, trail, before, after, drop, owner, definition, returned, rebuilding, texts⟩

end Planner

end SchemaDrift
