import SchemaDrift.Proofs.Planner.Accounting
import SchemaDrift.Proofs.Planner.Alike
import SchemaDrift.Proofs.Session.Listing

/-!
# Plans on record

Under a configuration whose log hears everything, each statement of a plan is to be found in the log
line by line. A plan for one attribute, for a column or for a table is announced as a whole. The plan
of an entity is not: its log has the announcements of its leaves and the lines of what is dropped
along with its orphans, but only counts the drops of the orphans themselves.
-/

namespace SchemaDrift

open Document (Value)

variable {σ : Type} {F : Log.Record → Prop} {P : Provider σ} {e : Entity} {a : Attribute}
  {table column : Value} {tableHasRows : Bool} {t t' u : Trail σ} {ss : List Statement}

namespace Composer

variable {b : Composer}

theorem Issues.dropsColumn_mem {es : List Effect} {owner : Value} {s : Statement}
    (h : b.Issues table ss es) (hs : s ∈ ss) (drops : b.dropColumn owner column = .ok s) :
    ∃ dropped, b.identify column = .ok dropped ∧ .dropsColumn dropped ∈ es := by
  obtain ⟨_, dropped, -, hdropped, rfl⟩ := issues_dropColumn drops
  refine ⟨dropped, hdropped, ?_⟩
  rw [← h.effects]
  exact List.mem_filterMap.2 ⟨_, hs, rfl⟩

theorem lists_lookUpDependencies (adds : P.Adds F)
    {found : List Value × List Value × List Index}
    (h : (lookUpDependencies P table column).Returns t found t') : t.Lists F t' [] := by
  refine Session.Adds.lists (adds.within ?_) h
  refine Session.Adds.bind (adds.foreignKeys table column) fun keys => ?_
  refine Session.Adds.bind (adds.defaults table column) fun constraints => ?_
  refine Session.Adds.bind (adds.indexes table column) fun listed => ?_
  exact Session.Adds.pure (keys, constraints, listed)

theorem lists_dropDependencies (heard : b.config.IsHeard) (adds : P.Adds F)
    (h : (b.dropDependencies P table column).Returns t ss t') : t.Lists F t' ss := by
  obtain ⟨⟨keys, constraints, indexes⟩, u, asked, h⟩ := Session.returns_bind.1 h
  have looked := lists_lookUpDependencies adds asked
  obtain ⟨drops, -, h⟩ := Session.returns_lift_bind.1 h
  simp only at h
  split at h
  · obtain ⟨_, v, counted, h⟩ := Session.returns_bind.1 h
    obtain ⟨_, w, logged, h⟩ := Session.returns_bind.1 h
    obtain ⟨rfl, rfl⟩ := Session.returns_pure.1 h
    have counted := heard.lists_log (F := F) (x := .counted table column drops.length)
      rfl counted
    exact looked.nil_trans (counted.nil_trans (heard.lists_logStatements logged))
  · next none =>
    obtain ⟨rfl, rfl⟩ := Session.returns_pure.1 h
    rw [List.length_eq_zero_iff.1 (not_not.1 none)]
    exact looked

theorem lists_dropColumnFully (heard : b.config.IsHeard) (adds : P.Adds F)
    (h : (b.dropColumnFully P table column).Returns t ss t') : t.Lists F t' ss.dropLast := by
  obtain ⟨dependencies, u, depends, h⟩ := Session.returns_bind.1 h
  obtain ⟨drop, -, h⟩ := Session.returns_lift_bind.1 h
  obtain ⟨rfl, rfl⟩ := Session.returns_pure.1 h
  rw [List.dropLast_concat]
  exact lists_dropDependencies heard adds depends

theorem lists_dropTableConstraints (heard : b.config.IsHeard) (adds : P.Adds F)
    (h : (b.dropTableConstraints P table).Returns t ss t') : t.Lists F t' ss := by
  obtain ⟨constraints, u, asked, h⟩ := Session.returns_bind.1 h
  have looked := Session.Adds.lists (adds.within (adds.foreignKeys table .null)) asked
  obtain ⟨drops, -, h⟩ := Session.returns_lift_bind.1 h
  obtain ⟨_, v, logged, h⟩ := Session.returns_bind.1 h
  obtain ⟨rfl, rfl⟩ := Session.returns_pure.1 h
  exact looked.nil_trans (heard.lists_logStatements logged)

theorem lists_addLeaf (heard : b.config.IsHeard)
    (h : (b.addLeaf e a column tableHasRows : Session σ _).Returns t ss t') :
    t.Lists F t' [] := by
  obtain ⟨named, -, h⟩ := Session.returns_lift_bind.1 h
  obtain ⟨additions, -, h⟩ := Session.returns_lift_bind.1 h
  obtain ⟨lacks, -, h⟩ := Session.returns_lift_bind.1 h
  split at h
  · obtain ⟨_, u, warned, h⟩ := Session.returns_bind.1 h
    obtain ⟨-, rfl⟩ := Session.returns_pure.1 h
    exact heard.lists_log (x := .warned _) rfl warned
  · obtain ⟨-, rfl⟩ := Session.returns_pure.1 h
    exact .of_log_eq rfl

theorem lists_addColumn (heard : b.config.IsHeard)
    (h : (b.addColumn e a column tableHasRows : Session σ _).Returns t ss t') :
    t.Lists F t' [] := by
  obtain ⟨groups, u, added, h⟩ := Session.returns_bind.1 h
  obtain ⟨-, rfl⟩ := Session.returns_pure.1 h
  refine Session.lists_nil_of_returns_mapM (fun leaf _ _ _ _ h => ?_) added
  obtain ⟨own, -, h⟩ := Session.returns_lift_bind.1 h
  exact lists_addLeaf heard h

end Composer

namespace Planner

/-- The log of the planner hears everything, and so does that of its composer. -/
structure IsHeard (p : Planner) : Prop where
  config : p.config.IsHeard
  composer : p.composer.config.IsHeard

theorem isHeard_ofConfig (catalog : Catalog) {config : Config} (heard : config.IsHeard) :
    (ofConfig catalog config).IsHeard := ⟨heard, heard⟩

variable {p : Planner} {plan : Plan}

theorem lists_announce (heard : p.IsHeard) {announced : Plan}
    (h : (p.announce plan : Session σ Plan).Returns t announced t') :
    announced = plan ∧ t.Lists F t' (plan.statements ++ plan.separateDrops) := by
  obtain ⟨_, u, told, h⟩ := Session.returns_bind.1 h
  obtain ⟨_, v, listed, h⟩ := Session.returns_bind.1 h
  obtain ⟨_, w, warned, h⟩ := Session.returns_bind.1 h
  obtain ⟨rfl, rfl⟩ := Session.returns_pure.1 h
  have told := heard.config.lists_log (F := F) (x := .told _) rfl told
  have warned := Session.lists_of_returns_forM (F := F)
    (fun warning _ _ _ _ h => heard.config.lists_log (x := .warned warning.display) rfl h) warned
  exact ⟨rfl, told.nil_trans ((heard.config.lists_logStatements listed).trans_nil warned)⟩

theorem lists_of_announced (heard : p.IsHeard) {announced : Plan}
    (before : t.Lists F u ss) (within : ∀ s ∈ ss, s ∈ plan.statements)
    (h : (p.announce plan : Session σ Plan).Returns u announced t') :
    t.Lists F t' (announced.statements ++ announced.separateDrops) := by
  obtain ⟨rfl, whole⟩ := lists_announce (F := F) heard h
  refine (before.trans whole).congr fun s => ?_
  constructor
  · exact List.mem_append_right _
  · intro hs
    exact (List.mem_append.1 hs).elim (fun earlier => List.mem_append_left _ (within s earlier)) id

theorem lists_rebuild (heard : p.IsHeard) (adds : P.Adds F)
    (h : (p.rebuild P e a column tableHasRows).Returns t ss t') :
    ∃ dependencies, t.Lists F t' dependencies ∧ ∀ s ∈ dependencies, s ∈ ss := by
  obtain ⟨dependencies, u, depends, h⟩ := Session.returns_bind.1 h
  obtain ⟨keyDrops, -, h⟩ := Session.returns_lift_bind.1 h
  obtain ⟨drop, -, h⟩ := Session.returns_lift_bind.1 h
  obtain ⟨additions, v, added, h⟩ := Session.returns_bind.1 h
  obtain ⟨restored, -, h⟩ := Session.returns_lift_bind.1 h
  obtain ⟨rfl, rfl⟩ := Session.returns_pure.1 h
  have depends := Composer.lists_dropDependencies heard.composer adds depends
  have added := Composer.lists_addColumn (F := F) heard.composer added
  exact ⟨dependencies, depends.trans_nil added, fun s hs => by simp [hs]⟩

theorem lists_planChange {current : Option Column} (heard : p.IsHeard) (adds : P.Adds F)
    (h : (p.planChange P e a current column tableHasRows).Returns t plan t') :
    t.Lists F t' (plan.statements ++ plan.separateDrops) := by
  obtain ⟨named, -, h⟩ := Session.returns_lift_bind.1 h
  obtain ⟨d, -, h⟩ := Session.returns_lift_bind.1 h
  split at h
  · obtain ⟨rfl, rfl⟩ := Session.returns_pure.1 h
    exact .of_log_eq rfl
  · obtain ⟨statements, u, rebuilt, h⟩ := Session.returns_bind.1 h
    obtain ⟨dependencies, before, within⟩ := lists_rebuild heard adds rebuilt
    exact lists_of_announced heard before within h
  · obtain ⟨altered, -, h⟩ := Session.returns_lift_bind.1 h
    exact lists_of_announced heard (.of_log_eq rfl) (List.forall_mem_nil _) h

theorem lists_planAdd (heard : p.IsHeard)
    (h : (p.planAdd e a column tableHasRows : Session σ Plan).Returns t plan t') :
    t.Lists F t' (plan.statements ++ plan.separateDrops) := by
  obtain ⟨additions, u, added, h⟩ := Session.returns_bind.1 h
  obtain ⟨parts, v, collected, h⟩ := Session.returns_bind.1 h
  have added := Composer.lists_addColumn (F := F) heard.composer added
  have before := added.trans_nil (Session.lists_nil_of_returns_mapM ?_ collected)
  · exact lists_of_announced heard before (List.forall_mem_nil _) h
  · intro leaf _ w r w' h
    obtain ⟨own, -, h⟩ := Session.returns_lift_bind.1 h
    exact .of_log_eq (by rw [(Session.returns_lift.1 h).2])

theorem lists_planDropColumn (heard : p.IsHeard) (adds : P.Adds F)
    (h : (p.planDropColumn P table column).Returns t plan t') :
    t.Lists F t' (plan.statements ++ plan.separateDrops) := by
  obtain ⟨drops, u, dropped, h⟩ := Session.returns_bind.1 h
  have before := Composer.lists_dropColumnFully heard.composer adds dropped
  exact lists_of_announced heard before (fun s hs => List.dropLast_subset drops hs) h

theorem lists_planCreate (heard : p.IsHeard)
    (h : (p.planCreate e : Session σ Plan).Returns t plan t') :
    t.Lists F t' (plan.statements ++ plan.separateDrops) := by
  obtain ⟨created, -, h⟩ := Session.returns_lift_bind.1 h
  obtain ⟨references, u, referred, h⟩ := Session.returns_bind.1 h
  have before := Session.lists_nil_of_returns_mapM (F := F) ?_ referred
  · exact lists_of_announced heard before (List.forall_mem_nil _) h
  · intro leaf _ v r v' h
    obtain ⟨own, -, h⟩ := Session.returns_lift_bind.1 h
    exact .of_log_eq (by rw [(Session.returns_lift.1 h).2])

theorem lists_planDropTable (heard : p.IsHeard) (adds : P.Adds F)
    (h : (p.planDropTable P table).Returns t plan t') :
    t.Lists F t' (plan.statements ++ plan.separateDrops) := by
  obtain ⟨constraints, u, dropped, h⟩ := Session.returns_bind.1 h
  obtain ⟨drop, -, h⟩ := Session.returns_lift_bind.1 h
  have before := Composer.lists_dropTableConstraints heard.composer adds dropped
  exact lists_of_announced heard before (fun s hs => List.mem_append_left _ hs) h

variable {found : Found}

theorem lists_planLeaf {leaf : Attribute.Leaf} {r : String × Plan} (heard : p.IsHeard)
    (adds : P.Adds F) (hleaf : leaf ∈ e.leaves)
    (h : (p.planLeaf P e found tableHasRows leaf).Returns t r t') :
    t.Lists F t' (r.2.statements ++ r.2.separateDrops) := by
  obtain ⟨l, -, -, -, ⟨current, -, changed⟩ | ⟨-, added⟩⟩ := planLeaf_cases hleaf h
  · exact lists_planChange heard adds changed
  · exact lists_planAdd heard added

theorem lists_orphanDrops {entry : String × Option Column} (heard : p.IsHeard)
    (adds : P.Adds F)
    (h : (p.orphanDrops P e (e.declared.map Declared.key) entry).Returns t ss t') :
    t.Lists F t' ss.dropLast := by
  rcases orphanDrops_cases h with ⟨-, dropped⟩ | ⟨-, rfl, rfl⟩
  · exact Composer.lists_dropColumnFully heard.composer adds dropped
  · exact .of_log_eq rfl

theorem LeafPlan.exists_drop {R : Value → List Statement → Prop} {l : Declared}
    (h : p.LeafPlan R e found tableHasRows l plan) (anew : p.rebuilds e found l = true) :
    ∃ drop ∈ plan.statements, p.composer.dropColumn e.table (.text l.2) = .ok drop := by
  cases h with
  | added missing => simp [rebuilds, missing] at anew
  | altered present compared mild => simp [rebuilds, present, compared, mild] at anew
  | rebuilt _ _ _ _ _ drops _ _ statements => exact ⟨_, by simp [statements], drops⟩

theorem LeafPlan.drop_of_mem {l : Declared} {s : Statement}
    (h : p.LeafPlan (p.Issuing e OnDependencies) e found tableHasRows l plan)
    (hs : s ∈ plan.statements) (drops : p.composer.dropColumn e.table column = .ok s) :
    p.rebuilds e found l = true ∧ p.composer.dropColumn e.table (.text l.2) = .ok s := by
  obtain ⟨es, effects, issues⟩ := h.issues
  obtain ⟨dropped, hdropped, mem⟩ := issues.dropsColumn_mem hs drops
  have among : dropped ∈ es.filterMap Effect.droppedColumn? :=
    List.mem_filterMap.2 ⟨_, mem, rfl⟩
  rw [droppedColumns_of_leafEffects effects] at among
  split at among
  · next anew =>
    obtain rfl := List.mem_singleton.1 among
    obtain ⟨own, -, howned⟩ := h.exists_drop anew
    obtain ⟨owner, written, howner, hwritten, rfl⟩ := Composer.issues_dropColumn howned
    obtain ⟨owner', dropped, howner', hdropped', rfl⟩ := Composer.issues_dropColumn drops
    cases howner.symm.trans howner'
    cases hdropped.symm.trans hdropped'
    cases eq_written_of_identify hwritten
    exact ⟨anew, howned⟩
  · cases among

/-- Whether a statement drops a column found that is declared no more. -/
def DropsOrphan (p : Planner) (e : Entity) (found : Found) (s : Statement) : Prop :=
  ∃ orphan ∈ p.orphans e found, p.composer.dropColumn e.table (.text orphan) = .ok s

/-- Whether a statement drops a declared column that is made anew. -/
def DropsRebuilt (p : Planner) (e : Entity) (found : Found) (s : Statement) : Prop :=
  ∃ l ∈ e.declared, p.rebuilds e found l = true ∧
    p.composer.dropColumn e.table (.text l.2) = .ok s

section Parts

variable {parts : List Plan} {s : Statement}

theorem mem_parts_of_dropsRebuilt {R : Value → List Statement → Prop}
    (leafPlans : List.Forall₂ (p.LeafPlan R e found tableHasRows) e.declared parts)
    (h : p.DropsRebuilt e found s) : ∃ part ∈ parts, s ∈ part.statements := by
  obtain ⟨l, hl, anew, drops⟩ := h
  obtain ⟨part, hpart, leafPlan⟩ := exists_of_mem_forall₂ leafPlans hl
  obtain ⟨drop, mem, drops'⟩ := leafPlan.exists_drop anew
  cases drops.symm.trans drops'
  exact ⟨part, hpart, mem⟩

theorem dropsRebuilt_of_mem_parts
    (leafPlans : List.Forall₂ (p.LeafPlan (p.Issuing e OnDependencies) e found tableHasRows)
      e.declared parts)
    {part : Plan} (hpart : part ∈ parts) (hs : s ∈ part.statements)
    (h : p.DropsOrphan e found s) : p.DropsRebuilt e found s := by
  obtain ⟨orphan, -, drops⟩ := h
  obtain ⟨l, hl, leafPlan⟩ := exists_of_mem_forall₂ leafPlans.flip hpart
  exact ⟨l, hl, leafPlan.drop_of_mem hs drops⟩

theorem OrphanDrops.mem_iff {orphan : String}
    (h : p.OrphanDrops (p.Issuing e OnDependencies) e orphan ss) :
    s ∈ ss ↔ s ∈ ss.dropLast ∨ p.composer.dropColumn e.table (.text orphan) = .ok s := by
  obtain ⟨dependencies, drop, -, drops, rfl⟩ := h
  rw [List.dropLast_concat, drops]
  simp [eq_comm]

theorem OrphanDrops.dropColumn_ne {orphan : String}
    (h : p.OrphanDrops (p.Issuing e OnDependencies) e orphan ss) (hs : s ∈ ss.dropLast)
    (column : Value) : p.composer.dropColumn e.table column ≠ .ok s := by
  obtain ⟨dependencies, drop, ⟨es, depends, issues⟩, -, rfl⟩ := h
  rw [List.dropLast_concat] at hs
  intro drops
  obtain ⟨dropped, -, mem⟩ := issues.dropsColumn_mem hs drops
  have isDependency := depends _ mem
  cases isDependency

theorem mem_flatten_iff {drops : List (List Statement)}
    (h : List.Forall₂ (fun entry ss => if p.isOrphan e entry then
      p.OrphanDrops (p.Issuing e OnDependencies) e entry.1 ss else ss = []) found.entries drops) :
    (s ∈ drops.flatten ↔ s ∈ drops.flatMap List.dropLast ∨ p.DropsOrphan e found s) ∧
      (s ∈ drops.flatMap List.dropLast → ¬ p.DropsOrphan e found s) := by
  have each : ∀ ss ∈ drops, s ∈ ss → ∃ entry ∈ found.entries, p.isOrphan e entry = true ∧
      p.OrphanDrops (p.Issuing e OnDependencies) e entry.1 ss := by
    intro ss hss hs
    obtain ⟨entry, hentry, block⟩ : ∃ entry ∈ found.entries, if p.isOrphan e entry then
        p.OrphanDrops (p.Issuing e OnDependencies) e entry.1 ss else ss = [] :=
      exists_of_mem_forall₂ h.flip hss
    by_cases isOne : p.isOrphan e entry = true
    · rw [if_pos isOne] at block
      exact ⟨entry, hentry, isOne, block⟩
    · rw [if_neg isOne] at block
      rw [block] at hs
      cases hs
  simp only [List.mem_flatten, List.mem_flatMap]
  refine ⟨⟨?_, ?_⟩, ?_⟩
  · rintro ⟨ss, hss, hs⟩
    obtain ⟨entry, hentry, isOne, block⟩ := each ss hss hs
    rcases block.mem_iff.1 hs with before | own
    · exact .inl ⟨ss, hss, before⟩
    · exact .inr ⟨entry.1, List.mem_map_of_mem (List.mem_filter.2 ⟨hentry, isOne⟩), own⟩
  · rintro (⟨ss, hss, before⟩ | ⟨orphan, horphan, own⟩)
    · exact ⟨ss, hss, List.dropLast_subset ss before⟩
    · obtain ⟨entry, hentry, rfl⟩ := List.mem_map.1 horphan
      obtain ⟨hentry, isOne⟩ := List.mem_filter.1 hentry
      obtain ⟨ss, hss, block⟩ := exists_of_mem_forall₂ h hentry
      rw [if_pos isOne] at block
      exact ⟨ss, hss, block.mem_iff.2 (.inr own)⟩
  · rintro ⟨ss, hss, before⟩
    obtain ⟨entry, -, -, block⟩ := each ss hss (List.dropLast_subset ss before)
    rintro ⟨orphan, -, drops⟩
    exact block.dropColumn_ne before (.text orphan) drops

theorem mem_leaves_iff (separates : parts.flatMap (·.separateDrops) = []) :
    s ∈ parts.flatMap (fun part => part.statements ++ part.separateDrops) ↔
      s ∈ parts.flatMap (·.statements) := by
  have none : ∀ part ∈ parts, part.separateDrops = [] := List.flatMap_eq_nil_iff.1 separates
  have same : ∀ part ∈ parts, part.statements ++ part.separateDrops = part.statements := by
    intro part hpart
    rw [none part hpart, List.append_nil]
  rw [List.flatMap_congr same]

theorem mem_ofParts_iff {drops : List Statement}
    (separates : parts.flatMap (·.separateDrops) = []) :
    s ∈ (p.ofParts e parts drops).statements ++ (p.ofParts e parts drops).separateDrops ↔
      s ∈ parts.flatMap (·.statements) ∨ s ∈ drops := by
  rw [statements_ofParts, separateDrops_ofParts, separates]
  cases p.config.separateDrops <;> simp

/-- The statements of an entity's plan that its log has no line for. -/
def IsUnlisted (p : Planner) (e : Entity) (found : Found) (s : Statement) : Prop :=
  p.DropsOrphan e found s ∧ ¬ p.DropsRebuilt e found s

theorem mem_listed_iff {drops : List (List Statement)}
    (leafPlans : List.Forall₂ (p.LeafPlan (p.Issuing e OnDependencies) e found tableHasRows)
      e.declared parts)
    (separates : parts.flatMap (·.separateDrops) = [])
    (blocks : List.Forall₂ (fun entry ss => if p.isOrphan e entry then
      p.OrphanDrops (p.Issuing e OnDependencies) e entry.1 ss else ss = []) found.entries drops) :
    s ∈ parts.flatMap (fun part => part.statements ++ part.separateDrops) ++
        drops.flatMap List.dropLast ↔
      s ∈ (p.ofParts e parts drops.flatten).statements ++
          (p.ofParts e parts drops.flatten).separateDrops ∧ ¬ p.IsUnlisted e found s := by
  obtain ⟨whole, apart⟩ := mem_flatten_iff (s := s) blocks
  have anew : p.DropsRebuilt e found s → s ∈ parts.flatMap (·.statements) :=
    fun h => List.mem_flatMap.2 (mem_parts_of_dropsRebuilt leafPlans h)
  have own : s ∈ parts.flatMap (·.statements) → p.DropsOrphan e found s →
      p.DropsRebuilt e found s := by
    intro hs h
    obtain ⟨part, hpart, hs⟩ := List.mem_flatMap.1 hs
    exact dropsRebuilt_of_mem_parts leafPlans hpart hs h
  rw [mem_ofParts_iff separates, whole, List.mem_append, mem_leaves_iff separates]
  constructor
  · rintro (leaf | before)
    · exact ⟨.inl leaf, fun unlisted => unlisted.2 (own leaf unlisted.1)⟩
    · exact ⟨.inr (.inl before), fun unlisted => apart before unlisted.1⟩
  · rintro ⟨leaf | before | orphan, onRecord⟩
    · exact .inl leaf
    · exact .inr before
    · exact .inl (anew (not_not.1 fun kept => onRecord ⟨orphan, kept⟩))

end Parts

/-- The plan of an entity is on record but for the drops of orphans, unless a leaf has them too. -/
theorem lists_planChanges {columns : List (Value × Option Column)} (heard : p.IsHeard)
    (adds : P.Adds F) (h : (p.planChanges P e columns tableHasRows).Returns t plan t') :
    ∃ found listed, columnsByName columns = .ok found ∧ t.Lists F t' listed ∧
      (∀ s, s ∈ listed ↔
        s ∈ plan.statements ++ plan.separateDrops ∧ ¬ p.IsUnlisted e found s) ∧
      ∀ s, p.IsUnlisted e found s → s ∈ plan.statements ++ plan.separateDrops := by
  obtain ⟨found, parts, drops, u, v, hfound, hparts, hdrops, summarized, rfl⟩ :=
    steps_of_returns_planChanges h
  obtain ⟨leafPlans, -, separates, -, -⟩ := leafPlans_of_returns (J := fun _ => True)
    looksUp_onDependencies trivial hparts
  have blocks := Session.related_of_returns_mapM
    (f := p.orphanDrops P e (e.declared.map Declared.key))
    (fun entry _ _ _ _ hr => (returns_orphanDrops (J := fun _ => True)
      looksUp_onDependencies trivial hr).1) hdrops
  -- The leaves list their plans, the orphans what depends on them, and the summary nothing.
  have leaves := Session.lists_of_returns_mapM (F := F)
    (g := fun r : String × Plan => r.2.statements ++ r.2.separateDrops)
    (fun leaf hleaf _ _ _ hr => lists_planLeaf heard adds hleaf hr) hparts
  have orphans := Session.lists_of_returns_mapM (F := F) (g := List.dropLast)
    (fun entry _ _ _ _ hr => lists_orphanDrops heard adds hr) hdrops
  have told := heard.config.lists_log (F := F) (x := .told _) rfl summarized
  rw [← List.flatMap_map (f := Prod.snd)
    (g := fun part : Plan => part.statements ++ part.separateDrops)] at leaves
  refine ⟨found, _, hfound, (leaves.trans orphans).trans_nil told, fun s => ?_, fun s unlisted => ?_⟩
  · exact mem_listed_iff leafPlans separates blocks
  · exact (mem_ofParts_iff separates).2 (.inr ((mem_flatten_iff blocks).1.2 (.inr unlisted.1)))

/-- The operations that make a plan. -/
inductive Operation where
  | change (e : Entity) (a : Attribute) (current : Option Column) (column : Value)
    (tableHasRows : Bool)
  | add (e : Entity) (a : Attribute) (column : Value) (tableHasRows : Bool)
  | dropColumn (table column : Value)
  | create (e : Entity)
  | dropTable (table : Value)
  | changes (e : Entity) (columns : List (Value × Option Column)) (tableHasRows : Bool)

namespace Operation

def session (p : Planner) (P : Provider σ) : Operation → Session σ Plan
  | change e a current column tableHasRows => p.planChange P e a current column tableHasRows
  | add e a column tableHasRows => p.planAdd e a column tableHasRows
  | dropColumn table column => p.planDropColumn P table column
  | create e => p.planCreate e
  | dropTable table => p.planDropTable P table
  | changes e columns tableHasRows => p.planChanges P e columns tableHasRows

/-- The statements that the plan has and its log has no line for: drops of orphans. -/
def IsUnlisted (p : Planner) : Operation → Statement → Prop
  | changes e columns _, s =>
    ∃ found, columnsByName columns = .ok found ∧ p.IsUnlisted e found s
  | _, _ => False

/--
Where the log hears everything, what it gains with a plan are the lines of the plan's statements,
other reports, and what the metadata source has to say. No line is missing but those of the drops of
orphans, for which there is none unless the same statement makes a declared column anew.
-/
theorem plan_lists {op : Operation} (heard : p.IsHeard) (adds : P.Adds F)
    (h : (op.session p P).Returns t plan t') :
    ∃ listed, t.Lists F t' listed ∧
      (∀ s, s ∈ listed ↔
        s ∈ plan.statements ++ plan.separateDrops ∧ ¬ op.IsUnlisted p s) ∧
      ∀ s, op.IsUnlisted p s → s ∈ plan.statements ++ plan.separateDrops := by
  have whole (everything : t.Lists F t' (plan.statements ++ plan.separateDrops))
      (none : ∀ s, ¬ op.IsUnlisted p s) : ∃ listed, t.Lists F t' listed ∧
        (∀ s, s ∈ listed ↔
          s ∈ plan.statements ++ plan.separateDrops ∧ ¬ op.IsUnlisted p s) ∧
        ∀ s, op.IsUnlisted p s → s ∈ plan.statements ++ plan.separateDrops :=
    ⟨_, everything, fun s => (and_iff_left (none s)).symm, fun s hs => absurd hs (none s)⟩
  cases op with
  | change e a current column tableHasRows => exact whole (lists_planChange heard adds h) fun _ => id
  | add e a column tableHasRows => exact whole (lists_planAdd heard h) fun _ => id
  | dropColumn table column => exact whole (lists_planDropColumn heard adds h) fun _ => id
  | create e => exact whole (lists_planCreate heard h) fun _ => id
  | dropTable table => exact whole (lists_planDropTable heard adds h) fun _ => id
  | changes e columns tableHasRows =>
    obtain ⟨found, listed, hfound, lists, iff, unlisted⟩ := lists_planChanges heard adds h
    have same (s : Statement) : (changes e columns tableHasRows).IsUnlisted p s ↔
        p.IsUnlisted e found s := by
      constructor
      · rintro ⟨found', hfound', unlisted⟩
        cases hfound.symm.trans hfound'
        exact unlisted
      · intro unlisted
        exact ⟨found, hfound, unlisted⟩
    refine ⟨listed, lists, fun s => ?_, fun s hs => unlisted s ((same s).1 hs)⟩
    rw [iff, same]

/-- A planner whose log hears everything. -/
def heardPlanner : Planner := ofConfig .access { (default : Config) with logger := some .recorder }

/-- A table of which one column is declared no more. -/
def tenant : Entity where
  name := "Tenant"
  table := "TENANT"
  attributes := [
    .plain { name := "name", type := ⟨"java.lang.String", "String"⟩, length := .int 20 } []]

def tenantColumns : List (Value × Option Column) := [
  ("NAME", some { type := "varchar", length := .int 20 }), ("NICK", some { type := "varchar" })]

def tenantRecords : Inventory where
  indexEntries := [⟨"TENANT", "NICK", { name := "IX_NICK" }⟩]

/-- The plan of the entity drops a column, and its log does not say so. -/
theorem plan_drops_unlisted : ∃ plan trail,
    ((changes tenant tenantColumns true).session heardPlanner Inventory.provider).Returns
      { source := {} } plan trail ∧
    ∃ s ∈ plan.statements ++ plan.separateDrops,
      s.text = "alter table TENANT drop column NICK ^" ∧ (Event.listed s).record ∉ trail.log := by
  obtain ⟨plan, trail, returned, silent⟩ := Session.exists_returns_of_any
    (s := (changes tenant tenantColumns true).session heardPlanner Inventory.provider)
    (t := { source := {} })
    (P := fun plan trail => (plan.statements ++ plan.separateDrops).any fun s =>
      s.text == "alter table TENANT drop column NICK ^" &&
        decide ((Event.listed s).record ∉ trail.log))
    (by decide +kernel)
  obtain ⟨s, hs, drop⟩ := List.any_eq_true.1 silent
  rw [Bool.and_eq_true, beq_iff_eq, decide_eq_true_eq] at drop
  exact ⟨plan, trail, returned, s, hs, drop⟩

theorem plan_lists_tenant : ∃ plan trail,
    ((changes tenant tenantColumns true).session heardPlanner Inventory.provider).Returns
      { source := tenantRecords } plan trail ∧
    ∃ s ∈ plan.statements ++ plan.separateDrops,
      s.text = "drop index IX_NICK on TENANT ^" ∧ (Event.listed s).record ∈ trail.log := by
  obtain ⟨plan, trail, returned, texts⟩ := Session.exists_returns_of_map
    (s := (changes tenant tenantColumns true).session heardPlanner Inventory.provider)
    (t := { source := tenantRecords })
    (f := fun plan => (plan.statements ++ plan.separateDrops).map (·.text))
    (b := ["drop index IX_NICK on TENANT ^", "alter table TENANT drop column NICK ^"])
    (by decide +kernel)
  have heard : heardPlanner.IsHeard := isHeard_ofConfig _ ⟨rfl, rfl⟩
  obtain ⟨listed, ⟨records, grown, listing⟩, iff, -⟩ := plan_lists heard
    (Inventory.adds (F := fun _ => False)) returned
  obtain ⟨s, hs, text⟩ : ∃ s ∈ plan.statements ++ plan.separateDrops,
      s.text = "drop index IX_NICK on TENANT ^" := List.mem_map.1 (by rw [texts]; simp)
  have noColumn : ¬ (changes tenant tenantColumns true).IsUnlisted heardPlanner s := by
    rintro ⟨found, -, ⟨orphan, -, drops⟩, -⟩
    obtain ⟨owner, dropped, -, -, rfl⟩ := Composer.issues_dropColumn drops
    have about : (Command.dropColumn owner dropped).table? = some owner := rfl
    rw [Composer.issue, Statement.text_of_table? about, Command.render_of_clause? about rfl] at text
    have heads := congrArg (fun text => text.toList.head?) text
    simp at heads
  refine ⟨plan, trail, returned, s, hs, text, ?_⟩
  rw [grown]
  exact List.mem_append_right _ (listing.lists s ((iff s).2 ⟨hs, noColumn⟩))

end Operation

end Planner

end SchemaDrift
