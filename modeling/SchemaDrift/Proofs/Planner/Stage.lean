import SchemaDrift.Proofs.Ddl.Addition
import SchemaDrift.Proofs.Planner.Accounting

/-!
# Stages of a plan

The statements of a plan fall into stages that stay together when plans are put together: the
addition of a column, the filling of a column with the statement that requires it, or one statement
alone. `Staged` says that a plan is made of stages, by what becomes of each column, and which
warnings go with them; what holds at each place of a plan is read off its stages.
-/

namespace SchemaDrift

open Document (Value)

/-- The statement says nothing about what a column is like or holds. -/
def Statement.IsAside (s : Statement) : Prop := s.aspect? ≠ some .column ∧ s.category ≠ .update

theorem Statement.isAside_of_category_drop {s : Statement} (h : s.category = .drop) :
    s.IsAside := by
  constructor
  · intro about
    cases Statement.aspect?_of_category_drop h about
  · rw [h]
    decide

theorem Statement.isAside_of_aspect {s : Statement} {x : Aspect} (h : s.aspect? = some x)
    (other : x ≠ .column) : s.IsAside := by
  constructor
  · rw [h]
    exact fun about => other (Option.some.inj about)
  · intro update
    cases s with
    | verbatim category text => cases h
    | issued command terminator =>
      obtain rfl := Option.some.inj h
      cases command <;> first | exact other rfl | cases update

theorem exists_mem_of_flatten_eq {α : Type} {groups : List (List α)} {before after : List α} {x : α}
    (h : groups.flatten = before ++ x :: after) :
    ∃ group ∈ groups, ∃ front inner later back, group = inner ++ x :: later ∧
      before = front ++ inner ∧ after = later ++ back := by
  rcases List.flatten_eq_append_iff.1 h with ⟨fronts, backs, rfl, rfl, behind⟩ |
    ⟨fronts, inner, c, later, backs, rfl, rfl, behind⟩
  · obtain ⟨empty, later, rest, rfl, -, rfl⟩ := List.flatten_eq_cons_iff.1 behind.symm
    exact ⟨x :: later, by simp, fronts.flatten, [], later, rest.flatten, rfl, by simp, rfl⟩
  · obtain ⟨rfl, rfl⟩ := List.cons.inj behind
    exact ⟨inner ++ x :: later, by simp, fronts.flatten, inner, later, backs.flatten, rfl, rfl, rfl⟩

namespace Planner

/-- What a planner can be asked to do to the columns of an entity. -/
inductive Job where
  | change (a : Attribute) (current : Option Column) (column : Value)
  | add (a : Attribute) (column : Value)
  | entity (columns : List (Value × Option Column))

/-- What becomes of a column. -/
inductive Treatment where
  | added
  | rebuilt
  | kept
  deriving Repr, DecidableEq

/-- What becomes of a column that was found. -/
def Treatment.ofKind (k : ChangeKind) : Treatment := if k = .rebuild then .rebuilt else .kept

def treatment (p : Planner) (e : Entity) (found : Found) (l : Declared) : Treatment :=
  if (found.get? l.key).isNone then .added else if p.rebuilds e found l then .rebuilt else .kept

namespace Job

/-- The plan for a job. -/
def plan {σ : Type} (p : Planner) (provider : Provider σ) (e : Entity) (tableHasRows : Bool) :
    Job → Session σ Plan
  | change a current column => p.planChange provider e a current column tableHasRows
  | add a column => p.planAdd e a column tableHasRows
  | entity columns => p.planChanges provider e columns tableHasRows

/-- The leaves whose columns a job is about. -/
def leaves (e : Entity) : Job → List Attribute.Leaf
  | change a _ column => [(a, Composer.columnOr column a)]
  | add a column => Composer.addedColumns a column
  | entity _ => e.leaves

/-- What becomes of the column of a leaf in the plan for a job. -/
def Treats (p : Planner) (e : Entity) : Job → Declared → Treatment → Prop
  | change a current column, l, x =>
    l.1 = a ∧ Composer.columnOr column a = .ok (.text l.2) ∧
      ∃ d, p.difference e a current column = .ok d ∧ x = .ofKind d.kind
  | add a column, l, x => (l.1, .ok (.text l.2)) ∈ Composer.addedColumns a column ∧ x = .added
  | entity columns, l, x =>
    l ∈ e.declared ∧ ∃ found, columnsByName columns = .ok found ∧ x = p.treatment e found l

variable {p : Planner} {e : Entity} {job : Job} {l l' : Declared} {x x' : Treatment}

theorem Treats.mem_leaves (h : job.Treats p e l x) : (l.1, .ok (.text l.2)) ∈ job.leaves e := by
  cases job with
  | change a current column =>
    obtain ⟨rfl, named, -⟩ := h
    exact List.mem_singleton.2 (by rw [named])
  | add a column => exact h.1
  | entity columns => exact Entity.mem_leaves_of_mem_declared h.1

theorem Treats.unique (h : job.Treats p e l x) (h' : job.Treats p e l x') : x = x' := by
  cases job with
  | change a current column =>
    obtain ⟨-, -, d, compared, rfl⟩ := h
    obtain ⟨-, -, d', compared', rfl⟩ := h'
    rw [compared] at compared'
    cases compared'
    rfl
  | add a column => rw [h.2, h'.2]
  | entity columns =>
    obtain ⟨-, found, hfound, rfl⟩ := h
    obtain ⟨-, found', hfound', rfl⟩ := h'
    rw [hfound] at hfound'
    cases hfound'
    rfl

theorem Treats.eq_of_written_eq (distinct : (e.declared.map fun l => p.written l.2).Nodup)
    (h : job.Treats p e l x) (h' : job.Treats p e l' x') (found : x ≠ .added)
    (same : p.written l.2 = p.written l'.2) : l = l' := by
  cases job with
  | change a current column =>
    obtain ⟨first, named, -⟩ := h
    obtain ⟨first', named', -⟩ := h'
    have second : l.2 = l'.2 := Value.text.inj (Except.ok.inj (named.symm.trans named'))
    exact Prod.ext (first.trans first'.symm) second
  | add a column => exact absurd h.2 found
  | entity columns => exact List.inj_on_of_nodup_map distinct h.1 h'.1 same

end Job

/--
Statements that stay together: they are about the column of one leaf, or about none. Some need a
warning in the plan.
-/
inductive Stage (p : Planner) (e : Entity) (tableHasRows : Bool)
    (treats : Declared → Treatment → Prop) (warnings : List Value) : List Statement → Prop
  | aside {s : Statement} (aside : s.IsAside) : Stage p e tableHasRows treats warnings [s]
  | comes {l : Declared} {x : Treatment} {ss : List Statement} (treated : treats l x)
      (comes : x ≠ .kept)
      (adds : p.composer.Additions e l.1 (.text l.2) tableHasRows ss)
      (warns : x = .added → Composer.needsTransition l.1.field tableHasRows = true →
        p.composer.conventions.filling? l.1.field = .ok none →
        .text (fillWarning e.table (.text l.2) "rows") ∈ warnings) :
      Stage p e tableHasRows treats warnings ss
  | fills {l : Declared} {owner column : Identifier} {value : String} {spec : ColumnSpec}
      (treated : treats l .kept) (rows : tableHasRows = true)
      (owned : p.composer.identify e.table = .ok owner)
      (named : p.composer.identify (.text l.2) = .ok column)
      (filling : p.composer.conventions.filling? l.1.field = .ok (some value))
      (required : spec.suffix.notNull = true) :
      Stage p e tableHasRows treats warnings [
        p.composer.issue (.fillNulls owner column value),
        p.composer.issue (.alterColumn owner ⟨column, spec⟩)]
  | alters {l : Declared} {owner column : Identifier} {spec : ColumnSpec}
      (treated : treats l .kept) (named : p.composer.identify (.text l.2) = .ok column)
      (warns : spec.suffix.notNull = true → tableHasRows = true →
        .text (fillWarning e.table (.text l.2) "NULL values") ∈ warnings) :
      Stage p e tableHasRows treats warnings [p.composer.issue (.alterColumn owner ⟨column, spec⟩)]

/-- Statements that are made of stages. -/
def Stages (p : Planner) (e : Entity) (tableHasRows : Bool) (treats : Declared → Treatment → Prop)
    (warnings : List Value) (ss : List Statement) : Prop :=
  ∃ stages : List (List Statement),
    (∀ stage ∈ stages, p.Stage e tableHasRows treats warnings stage) ∧ ss = stages.flatten

section Stages

variable {p : Planner} {e : Entity} {tableHasRows : Bool}
  {treats treats' : Declared → Treatment → Prop} {warnings warnings' : List Value}
  {ss us : List Statement}

theorem Stage.mono (wider : ∀ l x, treats l x → treats' l x) (more : warnings ⊆ warnings')
    (h : p.Stage e tableHasRows treats warnings ss) :
    p.Stage e tableHasRows treats' warnings' ss := by
  cases h with
  | aside aside => exact .aside aside
  | comes treated comes adds warns =>
    exact .comes (wider _ _ treated) comes adds
      fun added needs unfilled => more (warns added needs unfilled)
  | fills treated rows owned named filling required =>
    exact .fills (wider _ _ treated) rows owned named filling required
  | alters treated named warns =>
    exact .alters (wider _ _ treated) named fun required rows => more (warns required rows)

theorem Stages.mono (wider : ∀ l x, treats l x → treats' l x) (more : warnings ⊆ warnings')
    (h : p.Stages e tableHasRows treats warnings ss) :
    p.Stages e tableHasRows treats' warnings' ss := by
  obtain ⟨stages, staged, whole⟩ := h
  exact ⟨stages, fun stage mem => (staged stage mem).mono wider more, whole⟩

theorem Stages.nil : p.Stages e tableHasRows treats warnings [] := ⟨[], nofun, rfl⟩

theorem Stages.one (h : p.Stage e tableHasRows treats warnings ss) :
    p.Stages e tableHasRows treats warnings ss := by
  refine ⟨[ss], fun stage mem => ?_, by simp⟩
  rw [List.mem_singleton.1 mem]
  exact h

theorem Stages.append (h : p.Stages e tableHasRows treats warnings ss)
    (h' : p.Stages e tableHasRows treats warnings us) :
    p.Stages e tableHasRows treats warnings (ss ++ us) := by
  obtain ⟨stages, staged, rfl⟩ := h
  obtain ⟨stages', staged', rfl⟩ := h'
  refine ⟨stages ++ stages', fun stage mem => ?_, List.flatten_append.symm⟩
  exact (List.mem_append.1 mem).elim (staged stage) (staged' stage)

theorem stages_of_asides (h : ∀ s ∈ ss, s.IsAside) :
    p.Stages e tableHasRows treats warnings ss := by
  refine ⟨ss.map fun s => [s], fun stage mem => ?_, ?_⟩
  · obtain ⟨s, hs, rfl⟩ := List.mem_map.1 mem
    exact .aside (h s hs)
  · rw [← List.flatMap_def, List.flatMap_singleton']

end Stages

/-- What a warning calls the rows that nothing fills: all of them, or those without a value. -/
def NamesRows (told : String) : Prop := told = "rows" ∨ told = "NULL values"

/-- What a plan can warn of: data is lost, or nothing fills a column that comes or stays. -/
inductive Warns (e : Entity) (treats : Declared → Treatment → Prop) : Value → Prop
  | loss (column found wanted : Value) :
      Warns e treats (.text (lossWarning e.table column found wanted))
  | unfilled {l : Declared} {x : Treatment} (treated : treats l x) (anew : x ≠ .rebuilt)
      {told : String} (rows : NamesRows told) :
      Warns e treats (.text (fillWarning e.table (.text l.2) told))

theorem Warns.mono {e : Entity} {treats treats' : Declared → Treatment → Prop} {w : Value}
    (wider : ∀ l x, treats l x → treats' l x) (h : Warns e treats w) : Warns e treats' w := by
  cases h with
  | loss column found wanted => exact .loss column found wanted
  | unfilled treated anew rows => exact .unfilled (wider _ _ treated) anew rows

/-- A plan that is made of stages, with their warnings, and that keeps nothing else apart. -/
structure Staged (p : Planner) (e : Entity) (tableHasRows : Bool)
    (treats : Declared → Treatment → Prop) (plan : Plan) : Prop where
  statements : p.Stages e tableHasRows treats plan.warnings plan.statements
  warnings : ∀ w ∈ plan.warnings, Warns e treats w
  separateDrops : ∀ s ∈ plan.separateDrops, s.IsAside

section Staged

variable {p : Planner} {e : Entity} {tableHasRows : Bool}
  {treats treats' : Declared → Treatment → Prop} {plan plan' : Plan}

theorem Staged.mono (wider : ∀ l x, treats l x → treats' l x)
    (h : p.Staged e tableHasRows treats plan) : p.Staged e tableHasRows treats' plan where
  statements := h.statements.mono wider (List.Subset.refl _)
  warnings := fun w mem => (h.warnings w mem).mono wider
  separateDrops := h.separateDrops

theorem Staged.append (h : p.Staged e tableHasRows treats plan)
    (h' : p.Staged e tableHasRows treats plan') :
    p.Staged e tableHasRows treats (plan.append plan') where
  statements :=
    (h.statements.mono (fun _ _ => id) (List.subset_append_left ..)).append
      (h'.statements.mono (fun _ _ => id) (List.subset_append_right ..))
  warnings := fun w mem => (List.mem_append.1 mem).elim (h.warnings w) (h'.warnings w)
  separateDrops := fun s mem =>
    (List.mem_append.1 mem).elim (h.separateDrops s) (h'.separateDrops s)

theorem staged_foldl {plans : List Plan} (start : p.Staged e tableHasRows treats plan)
    (h : ∀ part ∈ plans, p.Staged e tableHasRows treats part) :
    p.Staged e tableHasRows treats (plans.foldl Plan.append plan) := by
  induction plans generalizing plan with
  | nil => exact start
  | cons part plans ih =>
    exact ih (start.append (h part (List.mem_cons_self ..)))
      fun part' mem => h part' (List.mem_cons_of_mem _ mem)

end Staged

end Planner

end SchemaDrift
