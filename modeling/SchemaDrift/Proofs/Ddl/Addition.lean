import SchemaDrift.Proofs.Ddl.Category
import SchemaDrift.Proofs.Model.Declared

/-!
# Additions of columns

A column is added by one statement, or by an addition without `not null` that is filled where there
is a default and then required. `additions_of_leafAdditions` takes what is composed for a leaf apart
into these three courses. Other statements about a table take something away or add a key: the
aspect of a statement tells them apart.
-/

namespace SchemaDrift

open Document (Value)

/-- What a command is about. -/
inductive Aspect where
  /-- What a column is like, or what its rows hold. -/
  | column
  | key
  | removal
  | other
  deriving Repr, DecidableEq

/-- What a command is about. -/
def Command.aspect : Command → Aspect
  | addColumn .. | alterColumn .. | fillNulls .. => .column
  | addPrimaryKey .. | addForeignKey .. => .key
  | dropTable .. | dropColumn .. | dropConstraint .. | dropIndex .. | dropSequence .. => .removal
  | createTable .. | createIndex .. | renameTable .. | renameColumn .. | createSequence ..
  | findSequence .. => .other

/-- What a statement is about, unless it was given as text. -/
def Statement.aspect? (s : Statement) : Option Aspect := s.command?.map Command.aspect

theorem Statement.aspect?_of_category_drop {s : Statement} {x : Aspect} (h : s.category = .drop)
    (about : s.aspect? = some x) : x = .removal := by
  cases s with
  | verbatim category text => cases about
  | issued command terminator =>
    obtain rfl := Option.some.inj about
    cases command <;> first | rfl | cases h

namespace Composer

variable {b : Composer} {e : Entity} {a : Attribute} {column : Value} {tableHasRows : Bool}
  {ss : List Statement}

/-- The courses that the addition of a leaf's column can take. -/
inductive Additions (b : Composer) (e : Entity) (a : Attribute) (column : Value)
    (tableHasRows : Bool) : List Statement → Prop
  | direct {owner : Identifier} {definition : ColumnDefinition}
      (needs : needsTransition a.field tableHasRows = false)
      (owned : b.identify e.table = .ok owner)
      (named : b.identify column = .ok definition.column)
      (defines : b.columnDefinition e a column true = .ok definition) :
      Additions b e a column tableHasRows [b.issue (.addColumn owner definition)]
  | filled {owner : Identifier} {definition : ColumnDefinition} {value : String}
      (needs : needsTransition a.field tableHasRows = true)
      (owned : b.identify e.table = .ok owner)
      (named : b.identify column = .ok definition.column)
      (defines : b.columnDefinition e a column false = .ok definition)
      (filling : b.conventions.filling? a.field = .ok (some value)) :
      Additions b e a column tableHasRows [
        b.issue (.addColumn owner definition),
        b.issue (.fillNulls owner definition.column value),
        b.issue (.alterColumn owner ⟨definition.column, definition.spec.withNotNull true⟩)]
  | unfilled {owner : Identifier} {definition : ColumnDefinition}
      (needs : needsTransition a.field tableHasRows = true)
      (owned : b.identify e.table = .ok owner)
      (named : b.identify column = .ok definition.column)
      (defines : b.columnDefinition e a column false = .ok definition)
      (filling : b.conventions.filling? a.field = .ok none) :
      Additions b e a column tableHasRows [
        b.issue (.addColumn owner definition),
        b.issue (.alterColumn owner ⟨definition.column, definition.spec.withNotNull true⟩)]

theorem identify_of_own {notNull : Bool} {definition : ColumnDefinition}
    (own : columnOr column a = .ok column)
    (h : b.columnDefinition e a column notNull = .ok definition) :
    b.identify column = .ok definition.column := by
  obtain ⟨named, hnamed, hidentifier⟩ := identify_of_columnDefinition h
  rw [own] at hnamed
  cases hnamed
  exact hidentifier

theorem additions_of_leafAdditions (own : columnOr column a = .ok column)
    (h : b.leafAdditions e a column tableHasRows = .ok ss) :
    b.Additions e a column tableHasRows ss := by
  obtain ⟨owner, howner, h⟩ := bind_eq_ok.1 h
  split at h
  · next needs =>
    obtain ⟨definition, defines, h⟩ := bind_eq_ok.1 h
    obtain ⟨fillings, hfillings, h⟩ := bind_eq_ok.1 h
    obtain ⟨restated, hrestated, h⟩ := bind_eq_ok.1 h
    obtain rfl := pure_eq_ok.1 h
    have named := identify_of_own own defines
    rw [alterMandatory, howner, ok_bind, named, ok_bind] at hrestated
    obtain rfl := pure_eq_ok.1 hrestated
    obtain ⟨filling, hfilling, hfillings⟩ := bind_eq_ok.1 hfillings
    cases filling with
    | none =>
      obtain rfl := pure_eq_ok.1 hfillings
      exact .unfilled needs howner named defines hfilling
    | some value =>
      obtain ⟨s, hs, hfillings⟩ := bind_eq_ok.1 hfillings
      obtain rfl := pure_eq_ok.1 hfillings
      rw [fillNulls, named, ok_bind, howner, ok_bind] at hs
      obtain rfl := pure_eq_ok.1 hs
      exact .filled needs howner named defines hfilling
  · next direct =>
    obtain ⟨definition, defines, h⟩ := bind_eq_ok.1 h
    obtain rfl := pure_eq_ok.1 h
    exact .direct (Bool.eq_false_iff.2 direct) howner (identify_of_own own defines) defines

theorem Additions.exists_text (h : b.Additions e a column tableHasRows ss) :
    ∃ c, column = .text c := by
  have text {identifier : Identifier} (named : b.identify column = .ok identifier) :
      ∃ c, column = .text c := by
    obtain ⟨c, rfl, -⟩ := Quoter.exists_text_of_identify named
    exact ⟨c, rfl⟩
  cases h with
  | direct _ _ named => exact text named
  | filled _ _ named => exact text named
  | unfilled _ _ named => exact text named

theorem Additions.aspect?_eq (h : b.Additions e a column tableHasRows ss) :
    ∀ s ∈ ss, s.aspect? = some .column := by
  cases h <;> simp [Statement.aspect?, Statement.command?, issue, Command.aspect]

/-- What a column has to have before it can be required: a default that fills its rows. -/
theorem Additions.required_of_unfilled (h : b.Additions e a column tableHasRows ss)
    (needs : needsTransition a.field tableHasRows = true)
    (unfilled : b.conventions.filling? a.field = .ok none) :
    ∃ owner definition, b.identify column = .ok definition.column ∧
      ss = [b.issue (.addColumn owner definition),
        b.issue (.alterColumn owner ⟨definition.column, definition.spec.withNotNull true⟩)] := by
  cases h with
  | direct direct =>
    rw [needs] at direct
    cases direct
  | filled _ _ _ _ filling =>
    rw [unfilled] at filling
    cases filling
  | @unfilled owner definition _ _ named => exact ⟨owner, definition, named, rfl⟩

variable {σ : Type} {t t' : Trail σ}

theorem columnOr_of_mem_addedColumns {leaf : Attribute.Leaf} {v : Value}
    (hleaf : leaf ∈ addedColumns a column) (hv : leaf.2 = .ok v) :
    columnOr v leaf.1 = .ok v := by
  rw [addedColumns] at hleaf
  split at hleaf
  · have isLeaf := Attribute.isLeaf_of_mem_columns hleaf
    obtain ⟨c, rfl⟩ := Attribute.exists_text_of_isLeaf isLeaf hv
    exact Attribute.columnOr_of_isLeaf isLeaf hv
  · rw [List.mem_singleton.1 hleaf] at hv ⊢
    exact columnOr_columnOr hv

/-- Each column of a new attribute is added in one of the courses that there are. -/
theorem returns_addColumn_additions
    (h : (b.addColumn e a column tableHasRows : Session σ _).Returns t ss t') :
    ∃ groups, List.Forall₂ (fun leaf group => ∃ c, leaf.2 = .ok (.text c) ∧
      b.Additions e leaf.1 (.text c) tableHasRows group)
        (addedColumns a column) groups ∧ ss = groups.flatten := by
  obtain ⟨groups, u, hgroups, h⟩ := Session.returns_bind.1 h
  obtain ⟨rfl, -⟩ := Session.returns_pure.1 h
  refine ⟨groups, ?_, rfl⟩
  refine Session.related_of_returns_mapM ?_ hgroups
  intro leaf hleaf _ group _ added
  obtain ⟨v, hv, added⟩ := Session.returns_lift_bind.1 added
  obtain ⟨named, hnamed, adds, -⟩ := returns_addLeaf added
  have own := columnOr_of_mem_addedColumns hleaf hv
  rw [own] at hnamed
  cases hnamed
  have additions := additions_of_leafAdditions own adds
  obtain ⟨c, rfl⟩ := additions.exists_text
  exact ⟨c, hv, additions⟩

end Composer

end SchemaDrift
