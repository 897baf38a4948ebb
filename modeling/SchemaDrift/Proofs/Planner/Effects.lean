import SchemaDrift.Proofs.Planner.Entity

/-!
# What the plan of an entity does

The effects of an entity's plan, column by column: a declared column that was not found is added,
one that is made anew is dropped with what depends on it and added again, any other has no effect;
an orphan is dropped with what depends on it. What the drops of a column's dependencies are is left
to a relation between columns and effects.
-/

namespace SchemaDrift

open Document (Value)

namespace Planner

variable {σ : Type} {p : Planner} {provider : Provider σ} {e : Entity} {found : Found}
  {tableHasRows : Bool} {plan : Plan} {D : Value → List Effect → Prop}

/-- Statements about the table of an entity that have one of the effects of a relation. -/
def Issuing (p : Planner) (e : Entity) (D : Value → List Effect → Prop) (column : Value)
    (ss : List Statement) : Prop :=
  ∃ es, D column es ∧ p.composer.Issues e.table ss es

/-- The definition with which a declared column is added. -/
def additionOf (p : Planner) (e : Entity) (tableHasRows : Bool) (l : Declared) :
    Except Fault ColumnDefinition :=
  p.composer.columnDefinition e l.1 (.text l.2) (!Composer.needsTransition l.1.field tableHasRows)

/-- The effects that the plan of a declared column can have. -/
inductive LeafEffects (p : Planner) (D : Value → List Effect → Prop) (e : Entity) (found : Found)
    (tableHasRows : Bool) (l : Declared) : List Effect → Prop
  | added {definition : ColumnDefinition}
      (missing : found.get? l.key = none)
      (adds : p.additionOf e tableHasRows l = .ok definition) :
      LeafEffects p D e found tableHasRows l [.addsColumn definition]
  | altered {current : Option Column} {d : Difference}
      (present : found.get? l.key = some current)
      (compared : p.difference e l.1 current (.text l.2) = .ok d)
      (mild : d.kind ≠ .rebuild) :
      LeafEffects p D e found tableHasRows l []
  | rebuilt {current : Option Column} {d : Difference} {dependencies : List Effect}
      {constraints : List Identifier} {dropped : Identifier} {definition : ColumnDefinition}
      (present : found.get? l.key = some current)
      (compared : p.difference e l.1 current (.text l.2) = .ok d)
      (severe : d.kind = .rebuild)
      (depends : D (.text l.2) dependencies)
      (unlocks : p.keyConstraints e l.1.field = .ok constraints)
      (drops : p.composer.identify (.text l.2) = .ok dropped)
      (adds : p.additionOf e tableHasRows l = .ok definition) :
      LeafEffects p D e found tableHasRows l
        (dependencies ++ constraints.map .dropsConstraint ++
          [.dropsColumn dropped, .addsColumn definition])

/-- The effects that the drops of an orphan can have. -/
def OrphanEffects (p : Planner) (D : Value → List Effect → Prop) (orphan : String)
    (es : List Effect) : Prop :=
  ∃ dependencies dropped, D (.text orphan) dependencies ∧
    p.composer.identify (.text orphan) = .ok dropped ∧ es = dependencies ++ [.dropsColumn dropped]

/-- A column that is made anew goes after what depends on it, and is added at once. -/
theorem issues_rebuilt {a : Attribute} {column : Value} {es : List Effect}
    {dependencies keyDrops additions restored : List Statement} {drop : Statement}
    (depends : p.composer.Issues e.table dependencies es)
    (unlocks : p.primaryKeyDrops e a = .ok keyDrops)
    (drops : p.composer.dropColumn e.table column = .ok drop)
    (adds : p.composer.leafAdditions e a column tableHasRows = .ok additions)
    (restores : p.composer.Issues e.table restored []) :
    ∃ constraints owner dropped definition rest, p.keyConstraints e a.field = .ok constraints ∧
      p.composer.identify e.table = .ok owner ∧ p.composer.identify column = .ok dropped ∧
      drop = p.composer.issue (.dropColumn owner dropped) ∧
      p.composer.columnDefinition e a column (!Composer.needsTransition a.field tableHasRows) =
        .ok definition ∧
      additions = p.composer.issue (.addColumn owner definition) :: rest ∧
      p.composer.Issues e.table (dependencies ++ keyDrops ++ [drop] ++ additions ++ restored)
        (es ++ constraints.map .dropsConstraint ++
          [.dropsColumn dropped, .addsColumn definition]) := by
  obtain ⟨constraints, unlocks, second⟩ := issues_primaryKeyDrops unlocks
  obtain ⟨owner, dropped, howner, hdropped, rfl⟩ := Composer.issues_dropColumn drops
  obtain ⟨owner', definition, rest, howner', defines, rfl, fourth⟩ :=
    Composer.issues_leafAdditions adds
  rw [howner] at howner'
  cases howner'
  have third : p.composer.Issues e.table [p.composer.issue (.dropColumn owner dropped)]
      [.dropsColumn dropped] := .one howner rfl
  have whole := (((depends.append second).append third).append fourth).append restores
  refine ⟨constraints, owner, dropped, definition, rest, unlocks, howner, hdropped, rfl, defines,
    rfl, ?_⟩
  simpa using whole

theorem LeafPlan.issues {l : Declared}
    (h : p.LeafPlan (p.Issuing e D) e found tableHasRows l plan) :
    ∃ es, p.LeafEffects D e found tableHasRows l es ∧ p.composer.Issues e.table plan.statements es := by
  cases h with
  | added missing adds refers statements =>
    obtain ⟨owner, definition, rest, -, defines, -, issues⟩ := Composer.issues_leafAdditions adds
    rw [statements]
    exact ⟨_, .added missing defines, issues.append refers⟩
  | altered present compared mild alters =>
    exact ⟨_, .altered present compared mild, alters⟩
  | rebuilt present compared severe depends unlocks drops adds restores statements =>
    obtain ⟨dependencies, depends, first⟩ := depends
    obtain ⟨constraints, owner, dropped, definition, rest, unlocks, -, hdropped, -, defines, -,
      whole⟩ := issues_rebuilt first unlocks drops adds restores
    rw [statements]
    exact ⟨_, .rebuilt present compared severe depends unlocks hdropped defines, whole⟩

theorem OrphanDrops.issues {orphan : String} {ss : List Statement}
    (h : p.OrphanDrops (p.Issuing e D) e orphan ss) :
    ∃ es, p.OrphanEffects D orphan es ∧ p.composer.Issues e.table ss es := by
  obtain ⟨dependencies, drop, ⟨es, depends, first⟩, drops, rfl⟩ := h
  obtain ⟨owner, dropped, howner, hdropped, rfl⟩ := Composer.issues_dropColumn drops
  exact ⟨_, ⟨es, dropped, depends, hdropped, rfl⟩, first.append (.one howner rfl)⟩

theorem issues_flatMap {α β : Type} {E : α → List Effect → Prop} {f : β → List Statement}
    {table : Value} {P : α → β → Prop} {xs : List α} {ys : List β} (h : List.Forall₂ P xs ys)
    (issues : ∀ {x y}, P x y → ∃ es, E x es ∧ p.composer.Issues table (f y) es) :
    ∃ effects, List.Forall₂ E xs effects ∧
      p.composer.Issues table (ys.flatMap f) effects.flatten := by
  induction h with
  | nil => exact ⟨[], .nil, .nil⟩
  | cons first _ ih =>
    obtain ⟨es, hes, now⟩ := issues first
    obtain ⟨effects, heffects, later⟩ := ih
    exact ⟨es :: effects, .cons hes heffects, now.append later⟩

/-- The effects of a whole plan: those of the declared columns, then those of the orphans. -/
structure EntityEffects (p : Planner) (D : Value → List Effect → Prop) (e : Entity)
    (found : Found) (tableHasRows : Bool) (plan : Plan) (ofLeaves ofOrphans : List (List Effect)) :
    Prop where
  leaves : List.Forall₂ (p.LeafEffects D e found tableHasRows) e.declared ofLeaves
  orphans : List.Forall₂ (p.OrphanEffects D) (p.orphans e found) ofOrphans
  statements : p.composer.Issues e.table plan.statements
    (ofLeaves.flatten ++ if p.config.separateDrops then [] else ofOrphans.flatten)
  separateDrops : p.composer.Issues e.table plan.separateDrops
    (if p.config.separateDrops then ofOrphans.flatten else [])

theorem EntityPlan.effects {parts : List Plan} {drops : List (List Statement)}
    (h : p.EntityPlan (p.Issuing e D) e found tableHasRows plan parts drops) :
    ∃ ofLeaves ofOrphans, p.EntityEffects D e found tableHasRows plan ofLeaves ofOrphans := by
  obtain ⟨ofLeaves, leaves, first⟩ := issues_flatMap h.leafPlans LeafPlan.issues
  obtain ⟨ofOrphans, orphans, second⟩ := issues_flatMap (f := id) h.orphanDrops OrphanDrops.issues
  rw [List.flatMap_id] at second
  refine ⟨ofLeaves, ofOrphans, leaves, orphans, ?_, ?_⟩
  · rw [h.statements]
    cases p.config.separateDrops
    · exact first.append second
    · exact first.append .nil
  · rw [h.separateDrops]
    cases p.config.separateDrops
    · exact .nil
    · exact second

theorem EntityEffects.all {ofLeaves ofOrphans : List (List Effect)}
    (h : p.EntityEffects D e found tableHasRows plan ofLeaves ofOrphans) :
    p.composer.Issues e.table (plan.statements ++ plan.separateDrops)
      (ofLeaves.flatten ++ ofOrphans.flatten) := by
  have whole := h.statements.append h.separateDrops
  cases hs : p.config.separateDrops <;> simpa [hs] using whole

end Planner

end SchemaDrift
