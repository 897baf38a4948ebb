import SchemaDrift.Proofs.Ddl.Composition

/-!
# Definitions of columns

The definition that is composed for an attribute says a type, the parameters behind it, and whether
the column is required (`createdSpec`). An alteration of a column replaces the whole definition,
`not null` included: `Statement.definitionAfter` is what is left of it when statements have run, and
`Composer.Restates` says of statements that they do nothing but alter one column and fill its rows.
-/

namespace SchemaDrift

open Document (Value)

namespace Composer

variable {b : Composer} {e : Entity} {a : Attribute} {column : Value}

/-- What stands behind the type in the definition of a column that says whether it is required. -/
def createdSuffix (b : Composer) (e : Entity) (f : Field) (type : String) : Suffix where
  parameters :=
    if f.isId || f.isReference then (Conventions.keySuffix e f true).parameters
    else if b.catalog.takesNoParameters type then .none
    else b.parameters f
  notNull := f.isMandatory || f.isId

/-- The definition of an attribute's column of a type; only one with `not null` may say it. -/
def createdSpec (b : Composer) (e : Entity) (f : Field) (type : String) (notNull : Bool) :
    ColumnSpec :=
  ⟨type, ⟨(b.createdSuffix e f type).parameters, notNull && (f.isMandatory || f.isId)⟩⟩

theorem columnSuffix_of_columnType {type : String} (h : b.columnType e a = .ok (.text type))
    (notNull : Bool) :
    b.columnSuffix e a notNull = .ok (b.createdSpec e a.field type notNull).suffix := by
  rw [columnSuffix, createdSpec, createdSuffix]
  split
  · refine congrArg Except.ok ?_
    rw [Conventions.keySuffix, Bool.or_comm]
    rfl
  · next own =>
    have isNoId : a.field.isId = false := by
      cases isId : a.field.isId
      · rfl
      · rw [isId] at own
        exact absurd rfl own
    rw [h, isNoId, Bool.or_false, Bool.and_comm notNull]
    rfl

theorem columnSpec_of_columnType {type : String} (h : b.columnType e a = .ok (.text type))
    (notNull : Bool) :
    b.columnSpec e a notNull = .ok (b.createdSpec e a.field type notNull) := by
  rw [columnSpec, h, ok_bind, columnSuffix_of_columnType h]
  rfl

theorem columnDefinition_of_columnType {type : String} {named : Value} {identifier : Identifier}
    (h : b.columnType e a = .ok (.text type)) (hnamed : columnOr column a = .ok named)
    (identified : b.identify named = .ok identifier) (notNull : Bool) :
    b.columnDefinition e a column notNull =
      .ok ⟨identifier, b.createdSpec e a.field type notNull⟩ := by
  rw [columnDefinition, hnamed, ok_bind, identified, ok_bind, columnSpec_of_columnType h]
  rfl

/-- A definition is made of the type of its attribute and of what is written behind it. -/
theorem spec_of_columnDefinition {definition : ColumnDefinition}
    (h : b.columnDefinition e a column true = .ok definition) :
    ∃ type, b.columnType e a = .ok (.text type) ∧
      definition.spec = ⟨type, b.createdSuffix e a.field type⟩ := by
  obtain ⟨named, -, h⟩ := bind_eq_ok.1 h
  obtain ⟨identifier, -, h⟩ := bind_eq_ok.1 h
  obtain ⟨spec, hspec, h⟩ := bind_eq_ok.1 h
  obtain rfl := pure_eq_ok.1 h
  have whole := hspec
  obtain ⟨type, htype, hspec⟩ := bind_eq_ok.1 hspec
  obtain ⟨suffix, -, hspec⟩ := bind_eq_ok.1 hspec
  cases type with
  | text type =>
    rw [columnSpec_of_columnType htype] at whole
    cases whole
    exact ⟨type, htype, rfl⟩
  | null | bool _ | int _ | real _ | moment _ | bytes _ | list _ | map _ => cases hspec

end Composer

/--
The definition of a column when a command has run, where there is such a column. An alteration
says the definition anew; names that are changed are not followed.
-/
def Command.redefine (table column : Identifier) (c : Command) (before : Option ColumnSpec) :
    Option ColumnSpec :=
  match c with
  | createTable owner columns _ =>
    if owner = table then (columns.find? (·.column = column)).map (·.spec) else before
  | addColumn owner definition =>
    if owner = table ∧ definition.column = column then before.or (some definition.spec) else before
  | alterColumn owner definition =>
    if owner = table ∧ definition.column = column then before.map fun _ => definition.spec
    else before
  | dropColumn owner dropped => if owner = table ∧ dropped = column then none else before
  | dropTable owner => if owner = table then none else before
  | _ => before

namespace Statement

/-- The definition of a column when a statement has run; a text from outside is not read. -/
def redefine (table column : Identifier) (before : Option ColumnSpec) (s : Statement) :
    Option ColumnSpec :=
  (s.command?.map fun c => c.redefine table column before).getD before

/-- The definition of a column when statements have run, one after another. -/
def definitionAfter (table column : Identifier) (before : Option ColumnSpec)
    (ss : List Statement) : Option ColumnSpec := ss.foldl (redefine table column) before

variable {table column : Identifier} {before : Option ColumnSpec}

@[simp] theorem definitionAfter_cons (s : Statement) (ss : List Statement) :
    definitionAfter table column before (s :: ss) =
      definitionAfter table column (s.redefine table column before) ss := rfl

@[simp] theorem redefine_alterColumn (b : Composer) (spec before : ColumnSpec) :
    (b.issue (.alterColumn table ⟨column, spec⟩)).redefine table column (some before) =
      some spec := by
  simp [redefine, Composer.issue, command?, Command.redefine]

@[simp] theorem redefine_fillNulls (b : Composer) (filled : Identifier) (value : String) :
    (b.issue (.fillNulls table filled value)).redefine table column before = before := rfl

end Statement

namespace Composer

/--
Statements that alter one column and fill its rows, beside the definitions that they give it, in
order.
-/
inductive Restates (b : Composer) (owner column : Identifier) :
    List Statement → List ColumnSpec → Prop
  | nil : Restates b owner column [] []
  | restated (spec : ColumnSpec) {ss : List Statement} {specs : List ColumnSpec} :
      Restates b owner column ss specs →
      Restates b owner column (b.issue (.alterColumn owner ⟨column, spec⟩) :: ss) (spec :: specs)
  | filled (value : String) {ss : List Statement} {specs : List ColumnSpec} :
      Restates b owner column ss specs →
      Restates b owner column (b.issue (.fillNulls owner column value) :: ss) specs

namespace Restates

variable {b : Composer} {owner column : Identifier} {ss us : List Statement}
  {specs laters : List ColumnSpec}

theorem append (h : b.Restates owner column ss specs) (h' : b.Restates owner column us laters) :
    b.Restates owner column (ss ++ us) (specs ++ laters) := by
  induction h with
  | nil => exact h'
  | restated spec _ ih => exact .restated spec ih
  | filled value _ ih => exact .filled value ih

/-- The last definition counts, whatever the column was like before. -/
theorem definitionAfter_eq (h : b.Restates owner column ss specs) (before : ColumnSpec) :
    Statement.definitionAfter owner column (some before) ss = some (specs.getLastD before) := by
  induction h generalizing before with
  | nil => rfl
  | restated spec _ ih =>
    rw [Statement.definitionAfter_cons, Statement.redefine_alterColumn, ih, List.getLastD_cons]
  | filled value _ ih => rw [Statement.definitionAfter_cons, Statement.redefine_fillNulls, ih]

theorem ne_nil (h : b.Restates owner column ss specs) (some : specs ≠ []) : ss ≠ [] := by
  cases h with
  | nil => exact absurd rfl some
  | restated spec _ => exact List.cons_ne_nil _ _
  | filled value _ => exact List.cons_ne_nil _ _

theorem exists_command_of_mem (h : b.Restates owner column ss specs) {s : Statement}
    (hs : s ∈ ss) :
    (∃ spec ∈ specs, s = b.issue (.alterColumn owner ⟨column, spec⟩)) ∨
      ∃ value, s = b.issue (.fillNulls owner column value) := by
  induction h with
  | nil => cases hs
  | restated spec _ ih =>
    rcases List.mem_cons.1 hs with rfl | hs
    · exact .inl ⟨spec, List.mem_cons_self .., rfl⟩
    · rcases ih hs with ⟨later, mem, rfl⟩ | filled
      · exact .inl ⟨later, List.mem_cons_of_mem _ mem, rfl⟩
      · exact .inr filled
  | filled value _ ih =>
    rcases List.mem_cons.1 hs with rfl | hs
    · exact .inr ⟨value, rfl⟩
    · exact ih hs

theorem exists_alteration_iff (h : b.Restates owner column ss specs) {written : String} :
    (∃ s ∈ ss, s.text = "alter table " ++ owner.text ++ (" alter column " ++ written) ++
      (" " ++ b.catalog.delimiter.display)) ↔
      ∃ spec ∈ specs, written = (⟨column, spec⟩ : ColumnDefinition).render := by
  induction h with
  | nil => simp
  | restated spec _ ih =>
    rw [List.exists_mem_cons_iff, List.exists_mem_cons_iff, ih]
    refine or_congr_left ?_
    rw [issue, Statement.text_eq_iff rfl, Command.clause?_eq_alterColumn_iff]
  | filled value _ ih =>
    rw [List.exists_mem_cons_iff, ih]
    refine or_iff_right ?_
    rw [issue, Statement.text_eq_iff rfl]
    intro same
    cases same

/-- What stands behind `alter column` in these statements are the definitions that they give. -/
theorem exists_text_iff (h : b.Restates owner column ss specs) {written : String} :
    (∃ s ∈ ss, s.text = "alter table " ++ owner.text ++ " alter column " ++ written ++ " " ++
      b.catalog.delimiter.display) ↔
      ∃ spec ∈ specs, written = (⟨column, spec⟩ : ColumnDefinition).render := by
  rw [← h.exists_alteration_iff]
  simp only [String.append_assoc]

end Restates

variable {b : Composer} {e : Entity} {a : Attribute} {column : Value}

theorem names_of_restate {type : String} {parameters : Parameters} {s : Statement}
    (own : columnOr column a = .ok column) (h : b.restate e a column type parameters = .ok s) :
    ∃ owner identifier, b.identify e.table = .ok owner ∧ b.identify column = .ok identifier := by
  obtain ⟨named, owner, identifier, hnamed, howner, hidentifier, -⟩ := command_of_restate h
  rw [own] at hnamed
  cases hnamed
  exact ⟨owner, identifier, howner, hidentifier⟩

theorem names_of_alterToAttribute {ss : List Statement} (own : columnOr column a = .ok column)
    (isNoId : a.field.isId = false) (h : b.alterToAttribute e a column = .ok ss) :
    ∃ owner identifier, b.identify e.table = .ok owner ∧ b.identify column = .ok identifier := by
  rcases command_of_alterToAttribute h with ⟨isId, -⟩ | ⟨-, owner, definition, howner, defines, -⟩
  · rw [isNoId] at isId
    cases isId
  · obtain ⟨named, hnamed, hidentifier⟩ := identify_of_columnDefinition defines
    rw [own] at hnamed
    cases hnamed
    exact ⟨owner, definition.column, howner, hidentifier⟩

section Named

variable {owner identifier : Identifier} (howner : b.identify e.table = .ok owner)
  (hidentifier : b.identify column = .ok identifier)

include howner hidentifier

theorem restates_fillNulls {value : String} {s : Statement}
    (h : b.fillNulls e.table column value = .ok s) : b.Restates owner identifier [s] [] := by
  rw [fillNulls, hidentifier, ok_bind, howner, ok_bind] at h
  obtain rfl := pure_eq_ok.1 h
  exact .filled value .nil

variable (own : columnOr column a = .ok column)

include own

theorem restates_restate {type : String} {parameters : Parameters} {s : Statement}
    (h : b.restate e a column type parameters = .ok s) :
    b.Restates owner identifier [s] [⟨type, { parameters }⟩] := by
  rw [restate, own, ok_bind, hidentifier, ok_bind, howner, ok_bind] at h
  obtain rfl := pure_eq_ok.1 h
  exact .restated _ .nil

theorem restates_alterToAttribute {type : String} {ss : List Statement}
    (typed : b.columnType e a = .ok (.text type)) (isNoId : a.field.isId = false)
    (h : b.alterToAttribute e a column = .ok ss) :
    b.Restates owner identifier ss [b.createdSpec e a.field type true] := by
  rw [alterToAttribute, isNoId, columnDefinition_of_columnType typed own hidentifier] at h
  obtain ⟨_, hdefinition, h⟩ := bind_eq_ok.1 h
  cases hdefinition
  rw [howner] at h
  obtain rfl := pure_eq_ok.1 h
  exact .restated _ .nil

end Named

end Composer

end SchemaDrift
