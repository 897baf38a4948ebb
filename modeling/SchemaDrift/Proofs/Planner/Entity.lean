import SchemaDrift.Catalog.Builtin
import SchemaDrift.Proofs.Model.Declared
import SchemaDrift.Proofs.Planner.Change

/-!
# The plan of an entity

A plan for an entity is made of one plan for each declared column, in order, and of the drops of
each orphan. `LeafPlan` says what the plan of a declared column can be: the column is added, or
altered in place, or made anew. `returns_planChanges` takes a whole plan apart.
-/

namespace SchemaDrift

open Document (Value)

/--
Whatever holds of the source, the drops of what depends on a column of the table are among those
that the relation has for the column, and it holds of the source afterwards.
-/
def Composer.LooksUp {σ : Type} (b : Composer) (provider : Provider σ) (table : Value)
    (J : σ → Prop) (R : Value → List Statement → Prop) : Prop :=
  ∀ {column : Value} {t t' : Trail σ} {ss : List Statement}, J t.source →
    (b.dropDependencies provider table column).Returns t ss t' → R column ss ∧ J t'.source

theorem Composer.looksUp_trivial {σ : Type} (b : Composer) (provider : Provider σ) (table : Value) :
    b.LooksUp provider table (fun _ => True) fun _ _ => True :=
  fun _ _ => ⟨trivial, trivial⟩

namespace Planner

variable {σ : Type} {p : Planner} {provider : Provider σ} {e : Entity} {a : Attribute}
  {column : Value} {tableHasRows : Bool} {t t' : Trail σ} {ss : List Statement}

/-! ### One attribute -/

theorem addForeignKey_of_mem_references {references : List Statement} {s : Statement}
    (h : p.references e a column = .ok references) (hs : s ∈ references) :
    p.composer.addForeignKey e a column = .ok s := by
  rw [Planner.references] at h
  split at h
  · obtain ⟨key, hkey, h⟩ := bind_eq_ok.1 h
    obtain rfl := pure_eq_ok.1 h
    rw [List.mem_singleton.1 hs]
    exact hkey
  · cases h
    cases hs

theorem issues_references {references : List Statement}
    (h : p.references e a column = .ok references) : p.composer.Issues e.table references [] := by
  rw [Planner.references] at h
  split at h
  · obtain ⟨s, hs, h⟩ := bind_eq_ok.1 h
    obtain rfl := pure_eq_ok.1 h
    exact Composer.issues_addForeignKey hs
  · cases h
    exact .nil

theorem issues_keyStatements {restored : List Statement}
    (h : p.keyStatements e a column = .ok restored) : p.composer.Issues e.table restored [] := by
  rw [keyStatements] at h
  split at h
  · exact Composer.issues_addPrimaryKey h
  · exact issues_references h

/-- The constraint that the column of a key has to give up before it goes. -/
def keyConstraints (p : Planner) (e : Entity) (f : Field) : Except Fault (List Identifier) :=
  if f.isId then do return [← p.composer.identify ("PK_" ++ e.table.display)] else .ok []

theorem issues_primaryKeyDrops {drops : List Statement} (h : p.primaryKeyDrops e a = .ok drops) :
    ∃ constraints, p.keyConstraints e a.field = .ok constraints ∧
      p.composer.Issues e.table drops (constraints.map .dropsConstraint) := by
  rw [primaryKeyDrops] at h
  rw [keyConstraints]
  split at h
  · next isId =>
    obtain ⟨s, hs, h⟩ := bind_eq_ok.1 h
    obtain rfl := pure_eq_ok.1 h
    obtain ⟨dropped, hdropped, issues⟩ := Composer.issues_dropConstraint hs
    refine ⟨[dropped], ?_, issues⟩
    rw [if_pos isId, hdropped]
    rfl
  · next isNotId =>
    cases h
    exact ⟨[], if_neg isNotId, .nil⟩

theorem issues_onlyIf {holds : Bool} {s : Except Fault Statement} {ss : List Statement}
    (issues : ∀ s', s = .ok s' → p.composer.Issues e.table [s'] []) (h : onlyIf holds s = .ok ss) :
    p.composer.Issues e.table ss [] := by
  rw [onlyIf] at h
  split at h
  · cases s with
    | error fault => cases h
    | ok s' =>
      cases h
      exact issues s' rfl
  · cases h
    exact .nil

theorem issues_obligationPlan {r : List Statement × List Value}
    (h : p.obligationPlan e a column tableHasRows = .ok r) :
    p.composer.Issues e.table r.1 [] := by
  obtain ⟨⟨filling, warnings⟩, hfilling, h⟩ := bind_eq_ok.1 h
  obtain ⟨restated, hrestated, h⟩ := bind_eq_ok.1 h
  obtain rfl := pure_eq_ok.1 h
  have filled : p.composer.Issues e.table filling [] := by
    rw [obligationFilling] at hfilling
    split at hfilling
    · obtain ⟨value, -, hfilling⟩ := bind_eq_ok.1 hfilling
      cases value with
      | none =>
        cases hfilling
        exact .nil
      | some value =>
        obtain ⟨s, hs, hfilling⟩ := bind_eq_ok.1 hfilling
        cases hfilling
        exact Composer.issues_fillNulls hs
    · cases hfilling
      exact .nil
  exact filled.append (Composer.issues_alterToAttribute hrestated)

theorem alterations_eq_ok {d : Difference} {type : String} {plan : Plan}
    (h : p.alterations e a d type column tableHasRows = .ok plan) :
    p.composer.Issues e.table plan.statements [] ∧ plan.differences = [d] ∧
      plan.separateDrops = [] ∧ plan.table = e.table := by
  obtain ⟨length, hlength, h⟩ := bind_eq_ok.1 h
  obtain ⟨decimal, hdecimal, h⟩ := bind_eq_ok.1 h
  have length := issues_onlyIf (fun s hs => Composer.issues_restate hs) hlength
  have decimal := issues_onlyIf (fun s hs => Composer.issues_restate hs) hdecimal
  simp only at h
  split at h
  · obtain ⟨obligation, hobligation, h⟩ := bind_eq_ok.1 h
    obtain rfl := pure_eq_ok.1 h
    exact ⟨(length.append decimal).append (issues_obligationPlan hobligation), rfl, rfl, rfl⟩
  · obtain rfl := pure_eq_ok.1 h
    exact ⟨(length.append decimal).append .nil, rfl, rfl, rfl⟩

theorem columnType_of_difference {p : Planner} {e : Entity} {a : Attribute}
    {current : Option Column} {column : Value} {d : Difference}
    (h : p.difference e a current column = .ok d) :
    ∃ type, p.composer.columnType e a = .ok (.text type) := by
  obtain ⟨_, _, type, _, comparison⟩ := exists_comparison h
  exact ⟨type, comparison.typed⟩

/-- What the plan of a declared column can be. -/
inductive LeafPlan (p : Planner) (R : Value → List Statement → Prop) (e : Entity) (found : Found)
    (tableHasRows : Bool) (l : Declared) (plan : Plan) : Prop
  /-- The column was not found and is added. -/
  | added {additions references : List Statement}
      (missing : found.get? l.key = none)
      (adds : p.composer.leafAdditions e l.1 (.text l.2) tableHasRows = .ok additions)
      (refers : p.composer.Issues e.table references [])
      (statements : plan.statements = additions ++ references)
      (differences : plan.differences = [])
  /-- The column was found and is left or altered in place. -/
  | altered {current : Option Column} {d : Difference}
      (present : found.get? l.key = some current)
      (compared : p.difference e l.1 current (.text l.2) = .ok d)
      (mild : d.kind ≠ .rebuild)
      (alters : p.composer.Issues e.table plan.statements [])
      (differences : plan.differences = [d])
  /-- The column was found and is made anew. -/
  | rebuilt {current : Option Column} {d : Difference}
      {dependencies keyDrops additions restored : List Statement} {drop : Statement}
      (present : found.get? l.key = some current)
      (compared : p.difference e l.1 current (.text l.2) = .ok d)
      (severe : d.kind = .rebuild)
      (depends : R (.text l.2) dependencies)
      (unlocks : p.primaryKeyDrops e l.1 = .ok keyDrops)
      (drops : p.composer.dropColumn e.table (.text l.2) = .ok drop)
      (adds : p.composer.leafAdditions e l.1 (.text l.2) tableHasRows = .ok additions)
      (restores : p.composer.Issues e.table restored [])
      (statements :
        plan.statements = dependencies ++ keyDrops ++ [drop] ++ additions ++ restored)
      (differences : plan.differences = [d])

section Leaf

variable {J : σ → Prop} {R : Value → List Statement → Prop} {found : Found} {l : Declared}
  {plan : Plan}

theorem returns_planChange {current : Option Column} (hl : l ∈ e.declared)
    (looks : p.composer.LooksUp provider e.table J R) (holds : J t.source)
    (present : found.get? l.key = some current)
    (h : (p.planChange provider e l.1 current (.text l.2) tableHasRows).Returns t plan t') :
    p.LeafPlan R e found tableHasRows l plan ∧ plan.separateDrops = [] ∧ J t'.source := by
  obtain ⟨named, hnamed, change⟩ := changePlan_of_returns h
  rw [Entity.columnOr_of_mem_declared hl] at hnamed
  cases hnamed
  cases change with
  | kept compared kind whole source =>
    subst whole
    refine ⟨.altered present compared ?_ .nil rfl, rfl, ?_⟩
    · rw [kind]
      decide
    · rw [source]
      exact holds
  | altered compared kind _ alters source =>
    obtain ⟨issues, differences, separate, -⟩ := alterations_eq_ok alters
    refine ⟨.altered present compared ?_ issues differences, separate, ?_⟩
    · rw [kind]
      decide
    · rw [source]
      exact holds
  | rebuilt compared kind depends unlocks drops adds restores whole source =>
    subst whole
    obtain ⟨depends, held⟩ := looks holds depends
    refine ⟨.rebuilt present compared kind depends unlocks drops adds
      (issues_keyStatements restores) rfl rfl, rfl, ?_⟩
    rw [source]
    exact held

theorem issues_additionParts {r : List Value × List Statement}
    (h : p.additionParts e tableHasRows a column = .ok r) : p.composer.Issues e.table r.2 [] := by
  obtain ⟨lacks, -, h⟩ := bind_eq_ok.1 h
  obtain ⟨references, refers, h⟩ := bind_eq_ok.1 h
  obtain rfl := pure_eq_ok.1 h
  exact issues_references refers

theorem issues_additions {leaves : List Attribute.Leaf} {parts : List (List Value × List Statement)}
    (h : List.Forall₂ (fun _ r => p.composer.Issues e.table r.2 []) leaves parts) :
    p.composer.Issues e.table (parts.flatMap (·.2)) [] := by
  induction h with
  | nil => exact .nil
  | cons first _ ih => exact first.append ih

theorem returns_planAdd (hl : l ∈ e.declared) (missing : found.get? l.key = none)
    (h : (p.planAdd e l.1 (.text l.2) tableHasRows : Session σ Plan).Returns t plan t') :
    p.LeafPlan R e found tableHasRows l plan ∧ plan.separateDrops = [] ∧ t'.source = t.source := by
  obtain ⟨additions, u, adds, h⟩ := Session.returns_bind.1 h
  obtain ⟨parts, v, hparts, h⟩ := Session.returns_bind.1 h
  obtain ⟨rfl, announced⟩ := returns_announce h
  obtain ⟨adds, source⟩ := Composer.returns_addColumn (Entity.isEmbedded_of_mem_declared hl)
    (Entity.columnOr_of_mem_declared hl) adds
  have refers : List.Forall₂ (fun _ r => p.composer.Issues e.table r.2 [])
      (l.1.expand (.ok "")) parts ∧ v.source = u.source := by
    refine Session.forall₂_of_returns_mapM (I := fun w => w.source = u.source) rfl ?_ hparts
    intro leaf _ w r w' same hr
    obtain ⟨own, -, hr⟩ := Session.returns_lift_bind.1 hr
    obtain ⟨known, rfl⟩ := Session.returns_lift.1 hr
    exact ⟨issues_additionParts known, same⟩
  obtain ⟨refers, kept⟩ := refers
  refine ⟨.added missing adds (issues_additions refers) rfl rfl, rfl, ?_⟩
  rw [announced, kept, source]

/-- A leaf with its column is compared with what was found of that, and added if nothing was. -/
theorem planLeaf_cases {leaf : Attribute.Leaf} {r : String × Plan} (hleaf : leaf ∈ e.leaves)
    (h : (p.planLeaf provider e found tableHasRows leaf).Returns t r t') :
    ∃ l ∈ e.declared, leaf = (l.1, .ok (.text l.2)) ∧ r.1 = l.key ∧
      ((∃ current, found.get? l.key = some current ∧
          (p.planChange provider e l.1 current (.text l.2) tableHasRows).Returns t r.2 t') ∨
        (found.get? l.key = none ∧
          (p.planAdd e l.1 (.text l.2) tableHasRows : Session σ Plan).Returns t r.2 t')) := by
  obtain ⟨v, hv, h⟩ := Session.returns_lift_bind.1 h
  obtain ⟨c, rfl⟩ := Attribute.exists_text_of_isLeaf (Entity.isLeaf_of_mem_leaves hleaf) hv
  obtain ⟨name, hname, h⟩ := Session.returns_lift_bind.1 h
  cases hname
  refine ⟨(leaf.1, c), Entity.mem_declared_of_mem_leaves hleaf hv, Prod.ext rfl hv, ?_⟩
  simp only at h
  split at h
  · next current present =>
    obtain ⟨plan, u, changes, h⟩ := Session.returns_bind.1 h
    obtain ⟨rfl, rfl⟩ := Session.returns_pure.1 h
    exact ⟨rfl, .inl ⟨current, present, changes⟩⟩
  · next missing =>
    obtain ⟨plan, u, adds, h⟩ := Session.returns_bind.1 h
    obtain ⟨rfl, rfl⟩ := Session.returns_pure.1 h
    exact ⟨rfl, .inr ⟨missing, adds⟩⟩

theorem returns_planLeaf {leaf : Attribute.Leaf} {r : String × Plan} (hleaf : leaf ∈ e.leaves)
    (looks : p.composer.LooksUp provider e.table J R) (holds : J t.source)
    (h : (p.planLeaf provider e found tableHasRows leaf).Returns t r t') :
    (∃ c, leaf.2 = .ok (.text c) ∧ r.1 = Text.upper c ∧
      p.LeafPlan R e found tableHasRows (leaf.1, c) r.2 ∧ r.2.separateDrops = []) ∧
        J t'.source := by
  obtain ⟨l, hl, rfl, key, ⟨current, present, changes⟩ | ⟨missing, adds⟩⟩ := planLeaf_cases hleaf h
  · obtain ⟨leafPlan, separate, held⟩ := returns_planChange hl looks holds present changes
    exact ⟨⟨l.2, rfl, key, leafPlan, separate⟩, held⟩
  · obtain ⟨leafPlan, separate, source⟩ := returns_planAdd hl missing adds
    refine ⟨⟨l.2, rfl, key, leafPlan, separate⟩, ?_⟩
    rw [source]
    exact holds

end Leaf

/-! ### Orphans -/

/-- Whether a column found is declared by no attribute and filled in by no database. -/
def isOrphan (p : Planner) (e : Entity) (entry : String × Option Column) : Bool :=
  decide (entry.1 ∉ e.declared.map Declared.key) &&
    match typeOf entry.2 with
    | .text type => !p.composer.catalog.isAutoGenerated type
    | _ => false

/-- The orphans among the columns found, in order. -/
def orphans (p : Planner) (e : Entity) (found : Found) : List String :=
  (found.entries.filter (p.isOrphan e)).map (·.1)

/-- The statements that drop an orphan: what depends on it goes, then the column. -/
def OrphanDrops (p : Planner) (R : Value → List Statement → Prop) (e : Entity) (orphan : String)
    (ss : List Statement) : Prop :=
  ∃ dependencies drop, R (.text orphan) dependencies ∧
    p.composer.dropColumn e.table (.text orphan) = .ok drop ∧ ss = dependencies ++ [drop]

section Orphan

variable {J : σ → Prop} {R : Value → List Statement → Prop} {found : Found}

theorem returns_dropColumnFully {orphan : String}
    (looks : p.composer.LooksUp provider e.table J R) (holds : J t.source)
    (h : (p.composer.dropColumnFully provider e.table (.text orphan)).Returns t ss t') :
    p.OrphanDrops R e orphan ss ∧ J t'.source := by
  obtain ⟨dependencies, u, depends, h⟩ := Session.returns_bind.1 h
  obtain ⟨drop, drops, h⟩ := Session.returns_lift_bind.1 h
  obtain ⟨rfl, rfl⟩ := Session.returns_pure.1 h
  obtain ⟨depends, held⟩ := looks holds depends
  exact ⟨⟨dependencies, drop, depends, drops, rfl⟩, held⟩

/-- An orphan is dropped with all that depends on it, and nothing is asked of any other column. -/
theorem orphanDrops_cases {entry : String × Option Column}
    (h : (p.orphanDrops provider e (e.declared.map Declared.key) entry).Returns t ss t') :
    (p.isOrphan e entry = true ∧
        (p.composer.dropColumnFully provider e.table (.text entry.1)).Returns t ss t') ∨
      (p.isOrphan e entry = false ∧ ss = [] ∧ t' = t) := by
  rw [orphanDrops] at h
  split at h
  · next declared =>
    obtain ⟨rfl, rfl⟩ := Session.returns_pure.1 h
    exact .inr ⟨by simp [isOrphan, declared], rfl, rfl⟩
  · next undeclared =>
    obtain ⟨type, htype, h⟩ := Session.returns_lift_bind.1 h
    have typed : typeOf entry.2 = .text type := by
      cases hv : typeOf entry.2 <;> rw [hv] at htype <;> cases htype
      rfl
    split at h
    · next auto =>
      obtain ⟨rfl, rfl⟩ := Session.returns_pure.1 h
      exact .inr ⟨by simp [isOrphan, typed, auto], rfl, rfl⟩
    · next lasting => exact .inl ⟨by simp [isOrphan, undeclared, typed, lasting], h⟩

theorem returns_orphanDrops {entry : String × Option Column}
    (looks : p.composer.LooksUp provider e.table J R) (holds : J t.source)
    (h : (p.orphanDrops provider e (e.declared.map Declared.key) entry).Returns t ss t') :
    (if p.isOrphan e entry then p.OrphanDrops R e entry.1 ss else ss = []) ∧ J t'.source := by
  rcases orphanDrops_cases h with ⟨isOne, dropped⟩ | ⟨isNone, rfl, rfl⟩
  · rw [isOne]
    exact returns_dropColumnFully looks holds dropped
  · rw [isNone]
    exact ⟨rfl, holds⟩

theorem forall₂_orphans {entries : List (String × Option Column)} {drops : List (List Statement)}
    (h : List.Forall₂ (fun entry ss =>
      if p.isOrphan e entry then p.OrphanDrops R e entry.1 ss else ss = []) entries drops) :
    ∃ dropped, List.Forall₂ (p.OrphanDrops R e) ((entries.filter (p.isOrphan e)).map (·.1)) dropped ∧
      drops.flatten = dropped.flatten := by
  induction h with
  | nil => exact ⟨[], .nil, rfl⟩
  | @cons entry ss entries drops first _ ih =>
    obtain ⟨dropped, later, same⟩ := ih
    by_cases isOne : p.isOrphan e entry = true
    · rw [if_pos isOne] at first
      refine ⟨ss :: dropped, ?_, ?_⟩
      · rw [List.filter_cons_of_pos isOne, List.map_cons]
        exact .cons first later
      · rw [List.flatten_cons, List.flatten_cons, same]
    · rw [if_neg isOne] at first
      refine ⟨dropped, ?_, ?_⟩
      · rw [List.filter_cons_of_neg isOne]
        exact later
      · rw [List.flatten_cons, first, List.nil_append, same]

end Orphan

/-! ### Whole plans -/

theorem foldl_append (plans : List Plan) (start : Plan) :
    plans.foldl Plan.append start =
      { start with
        statements := start.statements ++ plans.flatMap (·.statements)
        differences := start.differences ++ plans.flatMap (·.differences)
        warnings := start.warnings ++ plans.flatMap (·.warnings)
        separateDrops := start.separateDrops ++ plans.flatMap (·.separateDrops) } := by
  induction plans generalizing start with
  | nil => simp
  | cons plan plans ih => simp [ih, Plan.append]

/-- A plan is made of one plan for each declared column and of the drops of each orphan. -/
structure EntityPlan (p : Planner) (R : Value → List Statement → Prop) (e : Entity)
    (found : Found) (tableHasRows : Bool) (plan : Plan) (parts : List Plan)
    (drops : List (List Statement)) : Prop where
  leafPlans : List.Forall₂ (p.LeafPlan R e found tableHasRows) e.declared parts
  orphanDrops : List.Forall₂ (p.OrphanDrops R e) (p.orphans e found) drops
  differences : plan.differences = parts.flatMap (·.differences)
  statements : plan.statements =
    parts.flatMap (·.statements) ++ if p.config.separateDrops then [] else drops.flatten
  separateDrops : plan.separateDrops = if p.config.separateDrops then drops.flatten else []

theorem forall₂_leafPlans {R : Value → List Statement → Prop} {found : Found}
    {leaves : List Attribute.Leaf} {parts : List (String × Plan)}
    (h : List.Forall₂ (fun leaf r => ∃ c, leaf.2 = .ok (.text c) ∧ r.1 = Text.upper c ∧
      p.LeafPlan R e found tableHasRows (leaf.1, c) r.2 ∧ r.2.separateDrops = []) leaves parts) :
    List.Forall₂ (p.LeafPlan R e found tableHasRows) (leaves.filterMap Attribute.declared?)
        (parts.map (·.2)) ∧
      parts.map (·.1) = (leaves.filterMap Attribute.declared?).map Declared.key ∧
      (parts.map (·.2)).flatMap (·.separateDrops) = [] := by
  induction h with
  | nil => exact ⟨.nil, rfl, rfl⟩
  | @cons leaf r leaves parts first _ ih =>
    obtain ⟨c, hc, key, leafPlan, separate⟩ := first
    obtain ⟨plans, keys, separates⟩ := ih
    have head : Attribute.declared? leaf = some (leaf.1, c) := by rw [Attribute.declared?, hc]
    rw [List.filterMap_cons_some head]
    refine ⟨.cons leafPlan plans, ?_, ?_⟩
    · rw [List.map_cons, List.map_cons, keys, key]
      rfl
    · rw [List.map_cons, List.flatMap_cons, separate, separates]
      rfl

/-- The plan of an entity from the plans of its leaves and the drops of its orphans. -/
def ofParts (p : Planner) (e : Entity) (parts : List Plan) (drops : List Statement) : Plan :=
  parts.foldl Plan.append { table := e.table } ++
    (if p.config.separateDrops then { table := e.table, separateDrops := drops }
      else { table := e.table, statements := drops } : Plan)

section OfParts

variable {parts : List Plan} {drops : List Statement}

theorem differences_ofParts :
    (p.ofParts e parts drops).differences = parts.flatMap (·.differences) := by
  show (Plan.append _ _).differences = _
  rw [foldl_append]
  cases p.config.separateDrops <;> simp [Plan.append]

theorem warnings_ofParts : (p.ofParts e parts drops).warnings = parts.flatMap (·.warnings) := by
  show (Plan.append _ _).warnings = _
  rw [foldl_append]
  cases p.config.separateDrops <;> simp [Plan.append]

theorem statements_ofParts : (p.ofParts e parts drops).statements =
    parts.flatMap (·.statements) ++ if p.config.separateDrops then [] else drops := by
  show (Plan.append _ _).statements = _
  rw [foldl_append]
  cases p.config.separateDrops <;> simp [Plan.append]

theorem separateDrops_ofParts : (p.ofParts e parts drops).separateDrops =
    parts.flatMap (·.separateDrops) ++ if p.config.separateDrops then drops else [] := by
  show (Plan.append _ _).separateDrops = _
  rw [foldl_append]
  cases p.config.separateDrops <;> simp [Plan.append]

end OfParts

/-- The plans of the declared columns and the drops of the orphans, put together. -/
theorem entityPlan_ofParts {R : Value → List Statement → Prop} {found : Found} {parts : List Plan}
    {drops dropped : List (List Statement)}
    (plans : List.Forall₂ (p.LeafPlan R e found tableHasRows) e.declared parts)
    (separates : parts.flatMap (·.separateDrops) = [])
    (orphanDrops : List.Forall₂ (p.OrphanDrops R e) (p.orphans e found) dropped)
    (same : drops.flatten = dropped.flatten) :
    p.EntityPlan R e found tableHasRows (p.ofParts e parts drops.flatten) parts dropped := by
  refine ⟨plans, orphanDrops, differences_ofParts, ?_, ?_⟩
  · rw [statements_ofParts, same]
  · rw [separateDrops_ofParts, separates, same, List.nil_append]

theorem leafPlans_of_returns {J : σ → Prop} {R : Value → List Statement → Prop} {found : Found}
    {parts : List (String × Plan)} (looks : p.composer.LooksUp provider e.table J R)
    (holds : J t.source)
    (h : (e.leaves.mapM (p.planLeaf provider e found tableHasRows)).Returns t parts t') :
    List.Forall₂ (p.LeafPlan R e found tableHasRows) e.declared (parts.map (·.2)) ∧
      parts.map (·.1) = e.declared.map Declared.key ∧
      (parts.map (·.2)).flatMap (·.separateDrops) = [] ∧
      e.leaves = e.declared.map (fun l => (l.1, .ok (.text l.2))) ∧ J t'.source := by
  obtain ⟨leafPlans, held⟩ := Session.forall₂_of_returns_mapM (I := fun x => J x.source) holds
    (fun leaf hleaf _ _ _ hx hr => returns_planLeaf hleaf looks hx hr) h
  obtain ⟨plans, keys, separates⟩ := forall₂_leafPlans leafPlans
  have columned : ∀ leaf ∈ e.leaves, ∃ v, leaf.2 = .ok v := by
    intro leaf hleaf
    obtain ⟨_, _, c, hc, -⟩ := exists_of_mem_forall₂ leafPlans hleaf
    exact ⟨_, hc⟩
  exact ⟨plans, keys, separates, Entity.leaves_eq_of_forall_ok columned, held⟩

theorem keys_of_returns_planLeaves {found : Found} {parts : List (String × Plan)}
    (h : (e.leaves.mapM (p.planLeaf provider e found tableHasRows)).Returns t parts t') :
    parts.map (·.1) = e.declared.map Declared.key :=
  (leafPlans_of_returns (J := fun _ => True) (p.composer.looksUp_trivial _ _) trivial h).2.1

/-- The steps of a run that returned the plan of an entity: its leaves, its orphans, a record. -/
theorem steps_of_returns_planChanges {columns : List (Value × Option Column)} {plan : Plan}
    (h : (p.planChanges provider e columns tableHasRows).Returns t plan t') :
    ∃ found parts drops u v, columnsByName columns = .ok found ∧
      (e.leaves.mapM (p.planLeaf provider e found tableHasRows)).Returns t parts u ∧
      (found.entries.mapM (p.orphanDrops provider e (e.declared.map Declared.key))).Returns
        u drops v ∧
      (Session.log p.config.logger .info (summary e plan)).Returns v () t' ∧
      plan = p.ofParts e (parts.map (·.2)) drops.flatten := by
  obtain ⟨found, hfound, h⟩ := Session.returns_lift_bind.1 h
  obtain ⟨parts, u, hparts, h⟩ := Session.returns_bind.1 h
  obtain ⟨drops, v, hdrops, h⟩ := Session.returns_bind.1 h
  obtain ⟨_, w, logged, h⟩ := Session.returns_bind.1 h
  obtain ⟨rfl, rfl⟩ := Session.returns_pure.1 h
  rw [keys_of_returns_planLeaves hparts] at hdrops
  exact ⟨found, parts, drops, u, v, hfound, hparts, hdrops, logged, rfl⟩

theorem returns_planChanges_of_steps {columns : List (Value × Option Column)} {found : Found}
    {parts : List (String × Plan)} {drops : List (List Statement)} {u v : Trail σ}
    (hfound : columnsByName columns = .ok found)
    (hparts : (e.leaves.mapM (p.planLeaf provider e found tableHasRows)).Returns t parts u)
    (hdrops : (found.entries.mapM (p.orphanDrops provider e (e.declared.map Declared.key))).Returns
      u drops v)
    (logged : (Session.log p.config.logger .info
      (summary e (p.ofParts e (parts.map (·.2)) drops.flatten))).Returns v () t') :
    (p.planChanges provider e columns tableHasRows).Returns t
      (p.ofParts e (parts.map (·.2)) drops.flatten) t' := by
  rw [← keys_of_returns_planLeaves hparts] at hdrops
  refine Session.returns_lift_bind.2 ⟨found, hfound, ?_⟩
  refine Session.returns_bind.2 ⟨parts, u, hparts, ?_⟩
  refine Session.returns_bind.2 ⟨drops, v, hdrops, ?_⟩
  exact Session.returns_bind.2 ⟨(), t', logged, Session.returns_pure.2 ⟨rfl, rfl⟩⟩

theorem entityPlan_of_returns {J : σ → Prop} {R : Value → List Statement → Prop} {found : Found}
    {parts : List (String × Plan)} {drops : List (List Statement)} {u v : Trail σ}
    (looks : p.composer.LooksUp provider e.table J R) (holds : J t.source)
    (hparts : (e.leaves.mapM (p.planLeaf provider e found tableHasRows)).Returns t parts u)
    (hdrops : (found.entries.mapM (p.orphanDrops provider e (e.declared.map Declared.key))).Returns
      u drops v) :
    ∃ dropped, e.leaves = e.declared.map (fun l => (l.1, .ok (.text l.2))) ∧
      p.EntityPlan R e found tableHasRows (p.ofParts e (parts.map (·.2)) drops.flatten)
        (parts.map (·.2)) dropped ∧ J v.source := by
  -- What holds of the source is carried through the leaves first and through the orphans then.
  obtain ⟨plans, -, separates, declared, held⟩ := leafPlans_of_returns looks holds hparts
  obtain ⟨orphanDrops, held⟩ := Session.forall₂_of_returns_mapM
    (f := p.orphanDrops provider e (e.declared.map Declared.key)) (I := fun x => J x.source) held
    (fun entry _ _ _ _ hx hr => returns_orphanDrops looks hx hr) hdrops
  obtain ⟨dropped, orphanDrops, same⟩ := forall₂_orphans orphanDrops
  exact ⟨dropped, declared, entityPlan_ofParts plans separates orphanDrops same, held⟩

theorem returns_planChanges {J : σ → Prop} {R : Value → List Statement → Prop}
    {columns : List (Value × Option Column)} {plan : Plan}
    (looks : p.composer.LooksUp provider e.table J R) (holds : J t.source)
    (h : (p.planChanges provider e columns tableHasRows).Returns t plan t') :
    ∃ found parts drops, columnsByName columns = .ok found ∧
      e.leaves = e.declared.map (fun l => (l.1, .ok (.text l.2))) ∧
      p.EntityPlan R e found tableHasRows plan parts drops ∧ J t'.source := by
  obtain ⟨found, parts, drops, u, v, hfound, hparts, hdrops, logged, rfl⟩ :=
    steps_of_returns_planChanges h
  obtain ⟨dropped, leaves, entityPlan, held⟩ := entityPlan_of_returns looks holds hparts hdrops
  refine ⟨found, parts.map (·.2), dropped, hfound, leaves, entityPlan, ?_⟩
  rw [Session.source_of_returns_log logged]
  exact held

def filePlanner : Planner := ofConfig .access default

end Planner

end SchemaDrift
