import SchemaDrift.Proofs.Planner.Destruction

/-!
# What the kind of a plan tells

The kind of a plan is that of the worst of its differences, and a plan is empty if nothing is to be
run. For the plan of one attribute the two agree. The plan of an entity also adds columns that were
not found and drops those that are declared no more; neither leaves a difference, so that a plan
whose kind is to keep everything may still have statements.
-/

namespace SchemaDrift

open Document (Value)

namespace Plan

theorem isEmpty_iff {plan : Plan} :
    plan.isEmpty = true ↔ plan.statements = [] ∧ plan.separateDrops = [] := by
  simp [isEmpty]

theorem kind_eq_keep_iff {plan : Plan} :
    plan.kind = .keep ↔ ∀ d ∈ plan.differences, d.kind = .keep := by
  rw [kind, ChangeKind.worst_eq_keep_iff, List.forall_mem_map]

end Plan

namespace Planner

variable {σ : Type} {p : Planner} {provider : Provider σ} {e : Entity} {a : Attribute}
  {column : Value} {tableHasRows : Bool} {t t' : Trail σ} {plan : Plan} {found : Found}

theorem isEmpty_iff_of_returns_planChange {current : Option Column}
    (h : (p.planChange provider e a current column tableHasRows).Returns t plan t') :
    plan.isEmpty = true ↔ plan.kind = .keep := by
  obtain ⟨named, -, change⟩ := changePlan_of_returns h
  cases change with
  | kept compared kind whole =>
    have keep : plan.kind = .keep := by
      rw [whole]
      exact (Plan.kind_of_differences rfl).trans kind
    apply iff_of_true _ keep
    rw [whole]
    rfl
  | @altered d type compared kind typed alters =>
    obtain ⟨-, differences, separate, -⟩ := alterations_eq_ok alters
    have alter : plan.kind = .alter := (Plan.kind_of_differences differences).trans kind
    obtain ⟨d', _, _, _, _, _, _, altered⟩ := alteredPlan_of_returns h alter
    have some : plan.statements ≠ [] := altered.restates.ne_nil (alteredSpecs_ne_nil altered.kind)
    apply iff_of_false
    · intro empty
      exact some (Plan.isEmpty_iff.1 empty).1
    · simp [alter]
  | rebuilt compared kind depends unlocks drops adds restores whole =>
    have rebuild : plan.kind = .rebuild := by
      rw [whole]
      exact (Plan.kind_of_differences rfl).trans kind
    apply iff_of_false
    · intro empty
      rw [whole] at empty
      have none := (Plan.isEmpty_iff.1 empty).1
      simp at none
    · simp [rebuild]

theorem statements_of_returns_planAdd {l : Declared} (hl : l ∈ e.declared)
    (h : (p.planAdd e l.1 (.text l.2) tableHasRows : Session σ Plan).Returns t plan t') :
    plan.statements ≠ [] ∧ plan.kind = .keep := by
  obtain ⟨additions, u, adds, h⟩ := Session.returns_bind.1 h
  obtain ⟨parts, v, -, h⟩ := Session.returns_bind.1 h
  obtain ⟨rfl, -⟩ := returns_announce h
  have adds := (Composer.returns_addColumn (Entity.isEmbedded_of_mem_declared hl)
    (Entity.columnOr_of_mem_declared hl) adds).1
  obtain ⟨owner, definition, rest, -, -, rfl, -⟩ := Composer.issues_leafAdditions adds
  exact ⟨List.cons_ne_nil _ _, rfl⟩

theorem isEmpty_iff_of_returns_planLeaf {leaf : Attribute.Leaf} {r : String × Plan}
    (hleaf : leaf ∈ e.leaves)
    (h : (p.planLeaf provider e found tableHasRows leaf).Returns t r t') :
    r.2.isEmpty = true ↔ r.2.kind = .keep ∧ (found.get? r.1).isSome = true := by
  obtain ⟨l, hl, rfl, key, ⟨current, present, changes⟩ | ⟨missing, adds⟩⟩ := planLeaf_cases hleaf h
  · rw [key, present]
    simpa using isEmpty_iff_of_returns_planChange changes
  · have added := (statements_of_returns_planAdd hl adds).1
    rw [key, missing]
    simp [Plan.isEmpty_iff, added]

theorem eq_nil_iff_of_returns_orphanDrops {entry : String × Option Column} {ss : List Statement}
    (h : (p.orphanDrops provider e (e.declared.map Declared.key) entry).Returns t ss t') :
    ss = [] ↔ p.isOrphan e entry = false := by
  rcases orphanDrops_cases h with ⟨isOne, dropped⟩ | ⟨isNone, rfl, -⟩
  · obtain ⟨dependencies, u, -, dropped⟩ := Session.returns_bind.1 dropped
    obtain ⟨drop, -, dropped⟩ := Session.returns_lift_bind.1 dropped
    obtain ⟨rfl, -⟩ := Session.returns_pure.1 dropped
    simp [isOne]
  · simp [isNone]

theorem flatten_eq_nil_iff {entries : List (String × Option Column)} {drops : List (List Statement)}
    (h : List.Forall₂ (fun entry ss => ss = [] ↔ p.isOrphan e entry = false) entries drops) :
    drops.flatten = [] ↔ (entries.filter (p.isOrphan e)).map (·.1) = [] := by
  induction h with
  | nil => simp
  | cons first _ ih => simp_all

theorem isEmpty_ofParts_iff {parts : List Plan} {drops : List Statement} :
    (p.ofParts e parts drops).isEmpty = true ↔ (∀ part ∈ parts, part.isEmpty = true) ∧ drops = [] := by
  simp only [Plan.isEmpty_iff, statements_ofParts, separateDrops_ofParts, List.append_eq_nil_iff,
    List.flatMap_eq_nil_iff]
  cases p.config.separateDrops
  · simp only [Bool.false_eq_true, if_false, and_true, forall_and]
    tauto
  · simp only [if_true, and_true, forall_and]
    tauto

theorem kind_ofParts_eq_keep_iff {parts : List Plan} {drops : List Statement} :
    (p.ofParts e parts drops).kind = .keep ↔ ∀ part ∈ parts, part.kind = .keep := by
  simp only [Plan.kind_eq_keep_iff, differences_ofParts, List.forall_mem_flatMap]

/--
A returned plan is empty just if its kind is to keep everything, each declared column was found, and
no column found is an orphan.
-/
theorem planChanges_isEmpty_iff {columns : List (Value × Option Column)}
    (h : (p.planChanges provider e columns tableHasRows).Returns t plan t') :
    ∃ found, columnsByName columns = .ok found ∧
      (plan.isEmpty = true ↔ plan.kind = .keep ∧
        (∀ l ∈ e.declared, (found.get? l.key).isSome = true) ∧ p.orphans e found = []) := by
  obtain ⟨found, parts, drops, u, v, hfound, hparts, hdrops, -, rfl⟩ :=
    steps_of_returns_planChanges h
  have leaves := Session.related_of_returns_mapM
    (fun leaf hleaf _ _ _ hr => isEmpty_iff_of_returns_planLeaf hleaf hr) hparts
  have settled : ∀ r ∈ parts, r.2.isEmpty = true ↔
      r.2.kind = .keep ∧ (found.get? r.1).isSome = true := by
    intro r hr
    obtain ⟨_, -, iff⟩ := exists_of_mem_forall₂ leaves.flip hr
    exact iff
  have dropped := Session.related_of_returns_mapM
    (R := fun entry ss => ss = [] ↔ p.isOrphan e entry = false)
    (fun entry _ _ _ _ hr => eq_nil_iff_of_returns_orphanDrops hr) hdrops
  have none : drops.flatten = [] ↔ p.orphans e found = [] := flatten_eq_nil_iff dropped
  have present : (∀ r ∈ parts, (found.get? r.1).isSome = true) ↔
      ∀ l ∈ e.declared, (found.get? l.key).isSome = true := by
    rw [← List.forall_mem_map (f := Prod.fst) (P := fun key => (found.get? key).isSome = true),
      keys_of_returns_planLeaves hparts, List.forall_mem_map]
  refine ⟨found, hfound, ?_⟩
  rw [isEmpty_ofParts_iff, kind_ofParts_eq_keep_iff, none, ← present]
  simp only [List.forall_mem_map]
  constructor
  · rintro ⟨empty, noOrphans⟩
    have each := fun r hr => (settled r hr).1 (empty r hr)
    exact ⟨fun r hr => (each r hr).1, fun r hr => (each r hr).2, noOrphans⟩
  · rintro ⟨keep, found, noOrphans⟩
    exact ⟨fun r hr => (settled r hr).2 ⟨keep r hr, found r hr⟩, noOrphans⟩

def visitor : Entity where
  name := "Visitor"
  table := "VISITOR"
  attributes := [
    .plain { name := "name", type := ⟨"java.lang.String", "String"⟩, length := .int 20 } [],
    .plain { name := "email", type := ⟨"java.lang.String", "String"⟩, length := .int 40 } []]

/-- The columns found of the table, without the one it gains. -/
def visitorColumns : List (Value × Option Column) :=
  [("NAME", some { type := "varchar", length := .int 20 })]

/-- The kind of the plan is to keep everything, and the plan adds a column. -/
theorem planChanges_keeps_and_adds :
    ((filePlanner.planChanges Inventory.provider visitor visitorColumns true).start {}).1.toOption.map
        (fun plan => (plan.kind, plan.isEmpty, plan.statements.map (·.text))) =
      some (.keep, false, ["alter table VISITOR add EMAIL varchar(40) ^"]) := by
  decide +kernel

theorem planChanges_isEmpty_visitor :
    ∃ plan trail, (filePlanner.planChanges Inventory.provider visitor visitorColumns true).Returns
        { source := {} } plan trail ∧
      plan.kind = .keep ∧ plan.isEmpty = false := by
  obtain ⟨plan, trail, returned, kind⟩ := Session.exists_returns_of_map
    (s := filePlanner.planChanges Inventory.provider visitor visitorColumns true)
    (t := { source := {} }) (f := Plan.kind) (b := .keep) (by decide +kernel)
  obtain ⟨found, hfound, iff⟩ := planChanges_isEmpty_iff returned
  have missing : (columnsByName visitorColumns).toOption.map (fun found =>
      visitor.declared.all fun l => (found.get? l.key).isSome) = some false := by decide +kernel
  rw [hfound] at missing
  refine ⟨plan, trail, returned, kind, ?_⟩
  apply Bool.eq_false_iff.2
  intro empty
  have all := List.all_eq_true.2 (iff.1 empty).2.1
  exact absurd (Option.some.inj missing) (by simp [all])

end Planner

end SchemaDrift
