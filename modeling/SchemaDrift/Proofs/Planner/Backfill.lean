import SchemaDrift.Proofs.Planner.Staging

/-!
# Filling old rows

A statement that fills the rows of a column stands between the addition of the column, if the plan
adds it, and the alteration that requires it. `Stage.exists_filling` says so of one stage, and
`backfills_in_order` of every place of every plan.
-/

namespace SchemaDrift

open Document (Value)

/-- The logical type whose default value fills old rows. -/
def Field.logicalType (f : Field) : Value := if f.isEnum then f.storedEnumType else f.type.simple

theorem Conventions.default_of_filling {k : Conventions} {f : Field} {text : String}
    (h : k.filling? f = .ok (some text)) :
    ∃ value, k.catalog.defaultValue f.logicalType = .ok value ∧ value ≠ .null ∧
      text = value.display := by
  obtain ⟨value, default, h⟩ := bind_eq_ok.1 h
  have stated : value ≠ .null ∧ text = value.display := by
    cases value with
    | null => cases h
    | bool _ | int _ | real _ | moment _ | text _ | bytes _ | list _ | map _ =>
      cases h
      exact ⟨by simp, rfl⟩
  refine ⟨value, ?_, stated⟩
  rw [transitionalDefault] at default
  rw [Field.logicalType]
  split at default
  · cases default
    exact absurd rfl stated.1
  · split at default
    · next enum =>
      rw [if_pos enum]
      exact default
    · next plain =>
      rw [if_neg plain]
      exact default

theorem Composer.notNull_of_columnDefinition {b : Composer} {e : Entity} {a : Attribute}
    {column : Value} {definition : ColumnDefinition}
    (h : b.columnDefinition e a column false = .ok definition) :
    definition.spec.suffix.notNull = false := by
  obtain ⟨named, -, h⟩ := bind_eq_ok.1 h
  obtain ⟨identifier, -, h⟩ := bind_eq_ok.1 h
  obtain ⟨spec, hspec, h⟩ := bind_eq_ok.1 h
  obtain rfl := pure_eq_ok.1 h
  have whole := hspec
  obtain ⟨type, htype, hspec⟩ := bind_eq_ok.1 hspec
  obtain ⟨suffix, -, hspec⟩ := bind_eq_ok.1 hspec
  cases type with
  | text type =>
    rw [columnSpec_of_columnType htype] at whole
    cases whole
    rfl
  | null | bool _ | int _ | real _ | moment _ | bytes _ | list _ | map _ => cases hspec

theorem Composer.exists_text_of_required (b : Composer) (owner column : Identifier)
    {spec : ColumnSpec} (required : spec.suffix.notNull = true) :
    ∃ body, (b.issue (.alterColumn owner ⟨column, spec⟩)).text =
      "alter table " ++ owner.text ++ " alter column " ++ column.text ++ " " ++ body ++
        " not null" ++ " " ++ b.catalog.delimiter.display := by
  refine ⟨spec.type ++ spec.suffix.parameters.render, ?_⟩
  show ("alter table " ++ owner.text ++ " alter column " ++ (column.text ++ " " ++
    (spec.type ++ (spec.suffix.parameters.render ++
      if spec.suffix.notNull then " not null" else "")))) ++ " " ++
        b.catalog.delimiter.display ++ "" = _
  rw [required, if_pos rfl, String.append_empty]
  simp only [String.append_assoc]

namespace Planner

variable {σ : Type} {p : Planner} {provider : Provider σ} {e : Entity} {tableHasRows : Bool}
  {treats : Declared → Treatment → Prop} {warnings : List Value} {ss : List Statement}

/-- What stands around a statement that fills the column of a leaf. -/
structure Filling (p : Planner) (e : Entity) (l : Declared) (x : Treatment)
    (owner column : Identifier) (value : String) (inner : List Statement) (s : Statement)
    (later : List Statement) : Prop where
  owned : p.composer.identify e.table = .ok owner
  named : p.composer.identify (.text l.2) = .ok column
  filling : p.composer.conventions.filling? l.1.field = .ok (some value)
  fills : s = p.composer.issue (.fillNulls owner column value)
  requires : ∃ spec, later = [p.composer.issue (.alterColumn owner ⟨column, spec⟩)] ∧
    spec.suffix.notNull = true
  adds : x ≠ .kept → ∃ definition, inner = [p.composer.issue (.addColumn owner definition)] ∧
    definition.column = column ∧
    p.composer.columnDefinition e l.1 (.text l.2) false = .ok definition

theorem rows_of_needsTransition {f : Field}
    (needs : Composer.needsTransition f tableHasRows = true) : tableHasRows = true := by
  rw [Composer.needsTransition, Bool.and_eq_true] at needs
  exact needs.2

theorem notMem_singleton_of_update {s u : Statement} (update : s.category = .update)
    (other : u.category ≠ .update) : s ∉ [u] := by
  intro same
  rw [List.mem_singleton.1 same] at update
  exact other update

/-- Rows are filled in two kinds of stage, and never before the column is there. -/
theorem Stage.exists_filling {inner later : List Statement} {s : Statement}
    (stage : p.Stage e tableHasRows treats warnings ss) (split : ss = inner ++ s :: later)
    (update : s.category = .update) :
    tableHasRows = true ∧ ∃ l x owner column value, treats l x ∧
      p.Filling e l x owner column value inner s later := by
  have mem : s ∈ ss := by
    rw [split]
    exact List.mem_append_right _ (List.mem_cons_self ..)
  cases stage with
  | aside aside =>
    rw [← List.mem_singleton.1 mem] at aside
    exact absurd update aside.2
  | @comes l x _ treated comes adds =>
    cases adds with
    | direct =>
      rw [List.mem_singleton.1 mem] at update
      cases update
    | @filled owner definition value needs owned named defines filling =>
      refine ⟨rows_of_needsTransition needs, l, x, owner, definition.column, value, treated, ?_⟩
      have first : s ∉ [p.composer.issue (.addColumn owner definition)] :=
        notMem_singleton_of_update update nofun
      have last : s ∉ [p.composer.issue
          (.alterColumn owner ⟨definition.column, definition.spec.withNotNull true⟩)] :=
        notMem_singleton_of_update update nofun
      -- Of the three statements only the second fills.
      obtain ⟨rfl, rfl, rfl⟩ := (List.append_cons_inj_of_notMem first last).1 split
      exact ⟨owned, named, filling, rfl, ⟨_, rfl, rfl⟩, fun _ => ⟨definition, rfl, rfl, defines⟩⟩
    | unfilled =>
      rcases List.mem_cons.1 mem with rfl | mem
      · cases update
      · rw [List.mem_singleton.1 mem] at update
        cases update
  | @fills l owner column value spec treated rows owned named filling required =>
    refine ⟨rows, l, .kept, owner, column, value, treated, ?_⟩
    have last : s ∉ [p.composer.issue (.alterColumn owner ⟨column, spec⟩)] :=
      notMem_singleton_of_update update nofun
    obtain ⟨rfl, rfl, rfl⟩ := (List.append_cons_inj_of_notMem List.not_mem_nil last).1 split
    exact ⟨owned, named, filling, rfl, ⟨spec, rfl, required⟩, fun moved => absurd rfl moved⟩
  | alters =>
    rw [List.mem_singleton.1 mem] at update
    cases update

theorem Stage.exists_treats_of_addColumn {owner : Identifier} {definition : ColumnDefinition}
    (stage : p.Stage e tableHasRows treats warnings ss)
    (mem : p.composer.issue (.addColumn owner definition) ∈ ss) :
    ∃ l x, treats l x ∧ x ≠ .kept ∧
      p.composer.identify (.text l.2) = .ok definition.column := by
  cases stage with
  | aside aside =>
    rw [← List.mem_singleton.1 mem] at aside
    exact absurd rfl aside.1
  | @comes l x _ treated comes adds =>
    refine ⟨l, x, treated, comes, ?_⟩
    cases adds with
    | direct _ _ named =>
      cases List.mem_singleton.1 mem
      exact named
    | filled _ _ named =>
      rcases List.mem_cons.1 mem with same | mem
      · cases same
        exact named
      · simp [Composer.issue] at mem
    | unfilled _ _ named =>
      rcases List.mem_cons.1 mem with same | mem
      · cases same
        exact named
      · simp [Composer.issue] at mem
  | fills => simp [Composer.issue] at mem
  | alters => simp [Composer.issue] at mem

variable {t t' : Trail σ} {plan : Plan} {job : Job} {l l' : Declared} {x x' : Treatment}

theorem Staged.all (h : p.Staged e tableHasRows treats plan) :
    p.Stages e tableHasRows treats plan.warnings (plan.statements ++ plan.separateDrops) :=
  h.statements.append (stages_of_asides h.separateDrops)

theorem written_eq_of_identify {column : Identifier} {name name' : String}
    (h : p.composer.identify (.text name) = .ok column)
    (h' : p.composer.identify (.text name') = .ok column) : p.written name = p.written name' :=
  (eq_written_of_identify h).symm.trans (eq_written_of_identify h')

/-- A statement of a plan that fills the rows of a leaf's column, in its place. -/
structure Backfill (p : Planner) (e : Entity) (plan : Plan) (l : Declared)
    (owner column : Identifier) (value : Value) (before : List Statement) (s : Statement)
    (after : List Statement) : Prop where
  owned : p.composer.identify e.table = .ok owner
  named : p.composer.identify (.text l.2) = .ok column
  default : p.composer.conventions.catalog.defaultValue l.1.field.logicalType = .ok value
  stated : value ≠ .null
  fills : s = p.composer.issue (.fillNulls owner column value.display)
  /-- The next statement requires the column. -/
  requires : ∃ spec rest body,
    after = p.composer.issue (.alterColumn owner ⟨column, spec⟩) :: rest ∧
    (p.composer.issue (.alterColumn owner ⟨column, spec⟩)).text =
      "alter table " ++ owner.text ++ " alter column " ++ column.text ++ " " ++ body ++
        " not null" ++ " " ++ p.composer.catalog.delimiter.display
  /-- The statement before adds the column without `not null`, if the plan adds it at all. -/
  adds : (∃ definition, definition.column = column ∧
      p.composer.issue (.addColumn owner definition) ∈ plan.statements ++ plan.separateDrops) →
    ∃ front definition, before = front ++ [p.composer.issue (.addColumn owner definition)] ∧
      definition.column = column ∧
      p.composer.columnDefinition e l.1 (.text l.2) false = .ok definition ∧
      definition.spec.suffix.notNull = false

/--
Rows are filled only where there are some, and then in one place: at once before the column becomes
required, and at once after it was added without `not null` by a plan that adds it.
-/
theorem backfills_in_order (distinct : (e.declared.map fun l => p.written l.2).Nodup)
    (h : (job.plan p provider e tableHasRows).Returns t plan t') :
    (tableHasRows = false → ∀ s ∈ plan.statements ++ plan.separateDrops, s.category ≠ .update) ∧
    ∀ before s after, plan.statements ++ plan.separateDrops = before ++ s :: after →
      s.category = .update → ∃ l owner column value, (l.1, .ok (.text l.2)) ∈ job.leaves e ∧
        p.Backfill e plan l owner column value before s after := by
  obtain ⟨stages, staged, whole⟩ := (Job.staged h).all
  constructor
  · intro none s hs update
    rw [whole] at hs
    obtain ⟨stage, mem, hs⟩ := List.mem_flatten.1 hs
    obtain ⟨inner, later, split⟩ := List.append_of_mem hs
    rw [((staged stage mem).exists_filling split update).1] at none
    cases none
  · intro before s after place update
    rw [whole] at place
    obtain ⟨stage, mem, front, inner, later, back, split, rfl, rfl⟩ :=
      exists_mem_of_flatten_eq place
    obtain ⟨-, l, x, owner, column, text, treated, filling⟩ :=
      (staged stage mem).exists_filling split update
    obtain ⟨value, default, stated, rfl⟩ := Conventions.default_of_filling filling.filling
    obtain ⟨spec, rfl, required⟩ := filling.requires
    obtain ⟨body, text⟩ := p.composer.exists_text_of_required owner column required
    refine ⟨l, owner, column, value, treated.mem_leaves, filling.owned, filling.named, default,
      stated, filling.fills, ⟨spec, back, body, rfl, text⟩, ?_⟩
    rintro ⟨definition, rfl, added⟩
    have moves : x ≠ .kept := by
      rintro rfl
      rw [whole] at added
      obtain ⟨stage', mem', added⟩ := List.mem_flatten.1 added
      obtain ⟨l', x', treated', moves, named'⟩ :=
        (staged stage' mem').exists_treats_of_addColumn added
      obtain rfl := treated.eq_of_written_eq distinct treated' nofun
        (written_eq_of_identify filling.named named')
      exact moves (treated'.unique treated)
    obtain ⟨definition', rfl, same, defines⟩ := filling.adds moves
    exact ⟨front, definition', rfl, same, defines, Composer.notNull_of_columnDefinition defines⟩

/-- A table with a required number, a required enumeration and a required text. -/
def parcel : Entity where
  name := "Parcel"
  table := "PARCEL"
  attributes := [
    .plain { name := "weight", type := ⟨"java.lang.Integer", "Integer"⟩, isMandatory := true } [],
    .plain { name := "status", type := ⟨"ParcelStatus", "ParcelStatus"⟩, isMandatory := true
             enumMark := .bool true } [],
    .plain { name := "label", type := ⟨"java.lang.String", "String"⟩, isMandatory := true
             length := .int 20 } []]

/-- The number is missing, the enumeration is stored as a number, and the text is too short. -/
def parcelColumns : List (Value × Option Column) := [
  ("STATUS", some { type := "integer" }),
  ("LABEL", some { type := "varchar", length := .int 10 })]

theorem backfills_in_order_parcel :
    ∃ plan trail,
      ((Job.entity parcelColumns).plan filePlanner Inventory.provider parcel true).Returns
        { source := {} } plan trail ∧
      plan.statements.map (·.text) = [
        "alter table PARCEL add WEIGHT integer ^",
        "update PARCEL set WEIGHT = 0 where WEIGHT is null ^",
        "alter table PARCEL alter column WEIGHT integer not null ^",
        "alter table PARCEL drop column STATUS ^",
        "alter table PARCEL add STATUS varchar(50) ^",
        "update PARCEL set STATUS = '' where STATUS is null ^",
        "alter table PARCEL alter column STATUS varchar(50) not null ^",
        "alter table PARCEL alter column LABEL varchar(20) ^",
        "update PARCEL set LABEL = '' where LABEL is null ^",
        "alter table PARCEL alter column LABEL varchar(20) not null ^"] ∧
      ∀ before s after, plan.statements ++ plan.separateDrops = before ++ s :: after →
        s.category = .update → ∃ l owner column value, (l.1, .ok (.text l.2)) ∈ parcel.leaves ∧
          filePlanner.Backfill parcel plan l owner column value before s after := by
  obtain ⟨plan, trail, returned, texts⟩ := Session.exists_returns_of_map
    (s := (Job.entity parcelColumns).plan filePlanner Inventory.provider parcel true)
    (t := { source := {} }) (f := fun plan => plan.statements.map (·.text)) (b := [
      "alter table PARCEL add WEIGHT integer ^",
      "update PARCEL set WEIGHT = 0 where WEIGHT is null ^",
      "alter table PARCEL alter column WEIGHT integer not null ^",
      "alter table PARCEL drop column STATUS ^",
      "alter table PARCEL add STATUS varchar(50) ^",
      "update PARCEL set STATUS = '' where STATUS is null ^",
      "alter table PARCEL alter column STATUS varchar(50) not null ^",
      "alter table PARCEL alter column LABEL varchar(20) ^",
      "update PARCEL set LABEL = '' where LABEL is null ^",
      "alter table PARCEL alter column LABEL varchar(20) not null ^"]) (by decide +kernel)
  have distinct : (parcel.declared.map fun l => filePlanner.written l.2).Nodup := by decide +kernel
  exact ⟨plan, trail, returned, texts, (backfills_in_order distinct returned).2⟩

end Planner

end SchemaDrift
