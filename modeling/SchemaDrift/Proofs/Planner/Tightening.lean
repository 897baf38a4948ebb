import SchemaDrift.Proofs.Planner.Backfill
import SchemaDrift.Proofs.Planner.Rebuild

/-!
# Columns that become required

A column can become required though nothing has filled its old rows. The plan warns of that where
the column is added or kept (`Stage.filled_or_warned`), and is silent where it is made anew:
`announces_tightenings_unless_rebuilt` says that these are all the columns that it is silent about.
-/

namespace SchemaDrift

open Document (Value)

namespace Planner

variable {σ : Type} {p : Planner} {provider : Provider σ} {e : Entity} {tableHasRows : Bool}
  {treats : Declared → Treatment → Prop} {warnings : List Value} {ss : List Statement}

theorem rows_ne_values (s u : String) : s ++ "rows" ≠ u ++ "NULL values" := by
  intro same
  have first : "rows" = "ro" ++ "ws" := by decide
  have second : "NULL values" = "NULL valu" ++ "es" := by decide
  rw [first, second, ← String.append_assoc, ← String.append_assoc] at same
  have lists := congrArg String.toList same
  simp only [String.toList_append] at lists
  have ends : "ws".toList = "es".toList := List.append_inj_right' lists rfl
  exact absurd ends (by decide)

theorem display_eq_of_fillWarning {table column column' : Value} {told told' : String}
    (h : fillWarning table column told = fillWarning table column' told')
    (rows : NamesRows told) (rows' : NamesRows told') : column.display = column'.display := by
  rw [fillWarning, fillWarning, String.append_left_inj] at h
  have same : told = told' := by
    rcases rows with rfl | rfl <;> rcases rows' with rfl | rfl
    · rfl
    · exact absurd h (rows_ne_values _ _)
    · exact absurd h.symm (rows_ne_values _ _)
    · rfl
  subst same
  rw [String.append_left_inj, String.append_left_inj, String.append_right_inj] at h
  exact h

theorem head?_lossWarning (table column found wanted : Value) :
    (lossWarning table column found wanted).toList.head? = some 'T' := by
  have front : "Type change '".toList = 'T' :: "ype change '".toList := by decide
  unfold lossWarning
  simp only [String.append_assoc]
  rw [String.toList_append, front]
  rfl

theorem head?_fillWarning (table column : Value) (rows : String) :
    (fillWarning table column rows).toList.head? = some '\'' := by
  have front : "'".toList = ['\''] := by decide
  simp only [fillWarning, String.append_assoc]
  rw [String.toList_append, front]
  rfl

theorem lossWarning_ne_fillWarning (table column found wanted table' column' : Value)
    (rows : String) :
    lossWarning table column found wanted ≠ fillWarning table' column' rows := by
  intro same
  have heads := congrArg (fun s : String => s.toList.head?) same
  rw [head?_lossWarning, head?_fillWarning] at heads
  exact absurd heads (by decide)

/-- The column of a leaf is made anew and required, and there is no default for its rows. -/
def LacksFilling (p : Planner) (tableHasRows : Bool) (treats : Declared → Treatment → Prop)
    (l : Declared) : Prop :=
  treats l .rebuilt ∧ Composer.needsTransition l.1.field tableHasRows = true ∧
    p.composer.conventions.filling? l.1.field = .ok none

/-- A column that becomes required is filled before, or announced, or made anew. -/
theorem Stage.filled_or_warned {owner column : Identifier} {spec : ColumnSpec}
    {inner later : List Statement} (rows : tableHasRows = true)
    (stage : p.Stage e tableHasRows treats warnings ss)
    (split : ss = inner ++ p.composer.issue (.alterColumn owner ⟨column, spec⟩) :: later)
    (required : spec.suffix.notNull = true) :
    (∃ value, p.composer.issue (.fillNulls owner column value) ∈ inner) ∨
    ∃ l, p.composer.identify (.text l.2) = .ok column ∧
      (p.LacksFilling tableHasRows treats l ∨
        ∃ told, NamesRows told ∧ .text (fillWarning e.table (.text l.2) told) ∈ warnings) := by
  have mem : p.composer.issue (.alterColumn owner ⟨column, spec⟩) ∈ ss := by
    rw [split]
    exact List.mem_append_right _ (List.mem_cons_self ..)
  cases stage with
  | aside aside =>
    rw [← List.mem_singleton.1 mem] at aside
    exact absurd rfl aside.1
  | @comes l x _ treated comes adds warns =>
    cases adds with
    | direct => simp [Composer.issue] at mem
    | @filled owner' definition value =>
      have front : p.composer.issue (.alterColumn owner ⟨column, spec⟩) ∉ [
          p.composer.issue (.addColumn owner' definition),
          p.composer.issue (.fillNulls owner' definition.column value)] := by
        simp [Composer.issue]
      obtain ⟨rfl, same, -⟩ :=
        (List.append_cons_inj_of_notMem front List.not_mem_nil).1 split
      cases same
      exact .inl ⟨value, by simp⟩
    | @unfilled owner' definition needs _ named _ filling =>
      have front : p.composer.issue (.alterColumn owner ⟨column, spec⟩) ∉ [
          p.composer.issue (.addColumn owner' definition)] := by
        simp [Composer.issue]
      obtain ⟨rfl, same, -⟩ :=
        (List.append_cons_inj_of_notMem front List.not_mem_nil).1 split
      cases same
      refine .inr ⟨l, named, ?_⟩
      cases x with
      | added => exact .inr ⟨"rows", .inl rfl, warns rfl needs filling⟩
      | rebuilt => exact .inl ⟨treated, needs, filling⟩
      | kept => exact absurd rfl comes
  | @fills l owner' column' value =>
    have front : p.composer.issue (.alterColumn owner ⟨column, spec⟩) ∉ [
        p.composer.issue (.fillNulls owner' column' value)] := by
      simp [Composer.issue]
    obtain ⟨rfl, same, -⟩ :=
      (List.append_cons_inj_of_notMem front List.not_mem_nil).1 split
    cases same
    exact .inl ⟨value, by simp⟩
  | @alters l owner' column' spec' treated named warns =>
    cases List.mem_singleton.1 mem
    exact .inr ⟨l, named, .inr ⟨"NULL values", .inr rfl, warns required rows⟩⟩

variable {t t' : Trail σ} {plan : Plan} {job : Job} {l l' : Declared} {x x' : Treatment}

/-- The plan requires a column, and no statement before that fills the rows of the column. -/
def TightensBare (p : Planner) (plan : Plan) (owner column : Identifier) : Prop :=
  ∃ before spec after,
    plan.statements = before ++ p.composer.issue (.alterColumn owner ⟨column, spec⟩) :: after ∧
    spec.suffix.notNull = true ∧
    ∀ value, p.composer.issue (.fillNulls owner column value) ∉ before

/-- The plan warns that nothing fills a column. -/
def Announces (p : Planner) (e : Entity) (plan : Plan) (column : Identifier) : Prop :=
  ∃ named told, p.composer.identify named = .ok column ∧ NamesRows told ∧
    .text (fillWarning e.table named told) ∈ plan.warnings

theorem Staged.announces_of_tightensBare {owner column : Identifier}
    (h : p.Staged e true treats plan) (bare : p.TightensBare plan owner column) :
    p.Announces e plan column ∨
      ∃ l, p.composer.identify (.text l.2) = .ok column ∧ p.LacksFilling true treats l := by
  obtain ⟨before, spec, after, place, required, unfilled⟩ := bare
  obtain ⟨stages, staged, whole⟩ := h.statements
  rw [whole] at place
  obtain ⟨stage, mem, front, inner, later, back, split, rfl, -⟩ := exists_mem_of_flatten_eq place
  rcases (staged stage mem).filled_or_warned rfl split required with
    ⟨value, filled⟩ | ⟨l, named, lacks | ⟨told, rows, warned⟩⟩
  · exact absurd (List.mem_append_right _ filled) (unfilled value)
  · exact .inr ⟨l, named, lacks⟩
  · exact .inl ⟨.text l.2, told, named, rows, warned⟩

/-- A column without a default is never filled where it is written like no other. -/
theorem Staged.not_filled (distinct : (e.declared.map fun l => p.written l.2).Nodup)
    (h : p.Staged e true (job.Treats p e) plan) (lacks : p.LacksFilling true (job.Treats p e) l)
    {column : Identifier} (named : p.composer.identify (.text l.2) = .ok column)
    (owner : Identifier) (value : String) :
    p.composer.issue (.fillNulls owner column value) ∉ plan.statements := by
  intro filled
  obtain ⟨treated, -, unfilled⟩ := lacks
  obtain ⟨stages, staged, whole⟩ := h.statements
  rw [whole] at filled
  obtain ⟨stage, mem, filled⟩ := List.mem_flatten.1 filled
  obtain ⟨inner, later, split⟩ := List.append_of_mem filled
  obtain ⟨-, l', x', owner', column', value', treated', filling⟩ :=
    (staged stage mem).exists_filling split rfl
  cases filling.fills
  obtain rfl := treated.eq_of_written_eq distinct treated' nofun
    (written_eq_of_identify named filling.named)
  cases unfilled.symm.trans filling.filling

theorem Staged.not_announces (distinct : (e.declared.map fun l => p.written l.2).Nodup)
    (h : p.Staged e true (job.Treats p e) plan) (treated : job.Treats p e l .rebuilt)
    {column : Identifier} (named : p.composer.identify (.text l.2) = .ok column) :
    ¬p.Announces e plan column := by
  rintro ⟨named', told, hnamed', rows, warned⟩
  generalize warning : Value.text (fillWarning e.table named' told) = w at warned
  cases h.warnings w warned with
  | loss column' found wanted =>
    exact lossWarning_ne_fillWarning _ _ _ _ _ _ _ (Value.text.inj warning).symm
  | @unfilled l' x' treated' anew told' rows' =>
    have same := display_eq_of_fillWarning (Value.text.inj warning) rows rows'
    obtain ⟨name, rfl, -⟩ := Quoter.exists_text_of_identify hnamed'
    obtain rfl : name = l'.2 := same
    obtain rfl := treated.eq_of_written_eq distinct treated' nofun
      (written_eq_of_identify named hnamed')
    exact anew (treated'.unique treated)

/--
A plan over a table with rows announces every column that it requires unfilled, unless it makes the
column anew and has no default for it: such a column it requires in silence.
-/
theorem announces_tightenings_unless_rebuilt (h : (job.plan p provider e true).Returns t plan t') :
    (∀ owner column, p.TightensBare plan owner column →
      (∀ l, p.composer.identify (.text l.2) = .ok column →
        ¬p.LacksFilling true (job.Treats p e) l) → p.Announces e plan column) ∧
    ((e.declared.map fun l => p.written l.2).Nodup →
      ∀ l, p.LacksFilling true (job.Treats p e) l →
        ∃ owner column, p.composer.identify (.text l.2) = .ok column ∧
          p.TightensBare plan owner column ∧ ¬p.Announces e plan column) := by
  have staged := Job.staged h
  constructor
  · intro owner column bare none
    rcases staged.announces_of_tightensBare bare with announced | ⟨l, named, lacks⟩
    · exact announced
    · exact absurd lacks (none l named)
  · intro distinct l lacks
    -- The column is required somewhere, and filled and announced nowhere.
    obtain ⟨owner, column, spec, named, mem, required⟩ :=
      Job.exists_requires_of_rebuilt h lacks.1 lacks.2.1 lacks.2.2
    obtain ⟨before, after, place⟩ := List.append_of_mem mem
    refine ⟨owner, column, named, ⟨before, spec, after, place, required, ?_⟩,
      staged.not_announces distinct lacks.1 named⟩
    intro value filled
    have absent := staged.not_filled distinct lacks named owner value
    rw [place] at absent
    exact absent (List.mem_append_left _ filled)

/-- A required reference that is made anew is required again for its old rows, without a warning. -/
theorem announces_tightenings_silent :
    (((Job.change buyer (some { type := "varchar", length := .int 36 }) .null).plan filePlanner
        Inventory.provider salesOrder true).start {}).1.toOption.map
          (fun plan => (plan.statements.map (·.text), plan.warnings)) =
      some ([
        "alter table SALES_ORDER drop column CUSTOMER_ID ^",
        "alter table SALES_ORDER add CUSTOMER_ID uniqueidentifier ^",
        "alter table SALES_ORDER alter column CUSTOMER_ID uniqueidentifier not null ^",
        "alter table SALES_ORDER add constraint FK_SALES_ORDER_CUSTOMER_ID foreign key (" ++
          "CUSTOMER_ID) references CUSTOMER(ID) ^"],
        [.text ("Type change 'SALES_ORDER.CUSTOMER_ID': varchar -> uniqueidentifier drops and " ++
          "re-creates the column, existing data is lost")]) := by
  decide +kernel

/-- The same reference is announced where its column is kept. -/
theorem announces_tightenings_buyer :
    ∃ plan trail,
      ((Job.change buyer (some { type := "uniqueidentifier" }) .null).plan filePlanner
        Inventory.provider salesOrder true).Returns { source := {} } plan trail ∧
      plan.statements.map (·.text) =
        ["alter table SALES_ORDER alter column CUSTOMER_ID uniqueidentifier not null ^"] ∧
      plan.warnings = [.text ("'SALES_ORDER.CUSTOMER_ID' has no transitional default, " ++
        "existing NULL values must be filled before it becomes not null")] ∧
      ∀ owner column, filePlanner.TightensBare plan owner column →
        filePlanner.Announces salesOrder plan column := by
  obtain ⟨plan, trail, returned, planned⟩ := Session.exists_returns_of_map
    (s := (Job.change buyer (some { type := "uniqueidentifier" }) .null).plan filePlanner
      Inventory.provider salesOrder true) (t := { source := {} })
    (f := fun plan => (plan.statements.map (·.text), plan.warnings)) (b := (
      ["alter table SALES_ORDER alter column CUSTOMER_ID uniqueidentifier not null ^"],
      [.text ("'SALES_ORDER.CUSTOMER_ID' has no transitional default, " ++
        "existing NULL values must be filled before it becomes not null")])) (by decide +kernel)
  obtain ⟨texts, warned⟩ := Prod.mk.inj planned
  refine ⟨plan, trail, returned, texts, warned, fun owner column bare => ?_⟩
  refine (announces_tightenings_unless_rebuilt returned).1 owner column bare ?_
  rintro l - ⟨⟨-, -, d, compared, rebuilt⟩, -, -⟩
  have kept : filePlanner.difference salesOrder buyer (some { type := "uniqueidentifier" }) .null =
      .ok {
        table := "SALES_ORDER", column := "CUSTOMER_ID"
        desired := some { type := "uniqueidentifier", nullable := .bool false }
        current := some { type := "uniqueidentifier" }
        marks := .ofChanges { mandatory := true } } := by
    decide +kernel
  cases kept.symm.trans compared
  cases rebuilt

end Planner

end SchemaDrift
