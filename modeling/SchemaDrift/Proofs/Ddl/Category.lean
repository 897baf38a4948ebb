import SchemaDrift.Proofs.Ddl.Composition

/-!
# Categories of what is composed

What depends on a column, or is a column, is dropped by statements of the category `drop`. What adds
a column, fills it, requires it, or gives it a key is made of statements of other categories.
-/

namespace SchemaDrift

open Document (Value)

namespace Composer

variable {b : Composer} {table column : Value} {e : Entity} {a : Attribute} {ss : List Statement}

theorem category_dropColumn {s : Statement} (h : b.dropColumn table column = .ok s) :
    s.category = .drop := by
  obtain ⟨owner, dropped, -, -, rfl⟩ := issues_dropColumn h
  rfl

theorem category_dropConstraint {constraint : Value} {s : Statement}
    (h : b.dropConstraint table constraint = .ok s) : s.category = .drop := by
  obtain ⟨owner, dropped, -, -, rfl⟩ := command_of_dropConstraint h
  rfl

theorem category_dropIndex {index : Value} {s : Statement} (h : b.dropIndex table index = .ok s) :
    s.category = .drop := by
  obtain ⟨owner, dropped, -, -, rfl⟩ := command_of_dropIndex h
  rfl

theorem category_dropConstraints {constraints : List Value}
    (h : b.dropConstraints table constraints = .ok ss) : ∀ s ∈ ss, s.category = .drop := by
  intro s hs
  obtain ⟨constraint, -, dropped⟩ := exists_of_mem_forall₂ (mapM_eq_ok.1 h).flip hs
  exact category_dropConstraint dropped

theorem category_unmanagedDrop {index : Index} (h : b.unmanagedDrop table index = .ok ss) :
    ∀ s ∈ ss, s.category = .drop := by
  obtain ⟨managed, -, h⟩ := bind_eq_ok.1 h
  split at h
  · obtain rfl := pure_eq_ok.1 h
    simp
  · obtain ⟨s, dropped, h⟩ := bind_eq_ok.1 h
    obtain rfl := pure_eq_ok.1 h
    intro s' hs
    rw [List.mem_singleton.1 hs]
    exact category_dropIndex dropped

theorem category_dependencyDrops {foreignKeys defaults : List Value} {indexes : List Index}
    (h : b.dependencyDrops table foreignKeys defaults indexes = .ok ss) :
    ∀ s ∈ ss, s.category = .drop := by
  obtain ⟨keys, hkeys, h⟩ := bind_eq_ok.1 h
  obtain ⟨constraints, hconstraints, h⟩ := bind_eq_ok.1 h
  obtain ⟨groups, hgroups, h⟩ := bind_eq_ok.1 h
  obtain rfl := pure_eq_ok.1 h
  intro s hs
  rcases List.mem_append.1 hs with hs | hs
  · rcases List.mem_append.1 hs with hs | hs
    · exact category_dropConstraints hkeys s hs
    · exact category_dropConstraints hconstraints s hs
  · obtain ⟨group, mem, hs⟩ := List.mem_flatten.1 hs
    obtain ⟨index, -, dropped⟩ := exists_of_mem_forall₂ (mapM_eq_ok.1 hgroups).flip mem
    exact category_unmanagedDrop dropped s hs

theorem category_dropDependencies {σ : Type} {provider : Provider σ} {t t' : Trail σ}
    (h : (b.dropDependencies provider table column).Returns t ss t') :
    ∀ s ∈ ss, s.category = .drop := by
  obtain ⟨_, _, _, _, -, drops, -⟩ := returns_dropDependencies h
  exact category_dependencyDrops drops

theorem category_dropColumnFully {σ : Type} {provider : Provider σ} {t t' : Trail σ}
    (h : (b.dropColumnFully provider table column).Returns t ss t') :
    ∀ s ∈ ss, s.category = .drop := by
  obtain ⟨dependencies, u, depends, h⟩ := Session.returns_bind.1 h
  obtain ⟨drop, drops, h⟩ := Session.returns_lift_bind.1 h
  obtain ⟨rfl, -⟩ := Session.returns_pure.1 h
  intro s hs
  rcases List.mem_append.1 hs with hs | hs
  · exact category_dropDependencies depends s hs
  · rw [List.mem_singleton.1 hs]
    exact category_dropColumn drops

theorem category_fillings {f : Field} (h : b.fillings e f column = .ok ss) :
    ∀ s ∈ ss, s.category = .update := by
  obtain ⟨filling, -, h⟩ := bind_eq_ok.1 h
  cases filling with
  | none =>
    obtain rfl := pure_eq_ok.1 h
    simp
  | some value =>
    obtain ⟨s, hs, h⟩ := bind_eq_ok.1 h
    obtain rfl := pure_eq_ok.1 h
    obtain ⟨owner, filled, -, -, rfl⟩ := command_of_fillNulls hs
    intro s' hs'
    rw [List.mem_singleton.1 hs']
    rfl

theorem category_alterMandatory {spec : ColumnSpec} {mandatory : Bool} {s : Statement}
    (h : b.alterMandatory table column spec mandatory = .ok s) : s.category = .alter := by
  obtain ⟨owner, altered, -, -, rfl⟩ := command_of_alterMandatory h
  rfl

theorem category_leafAdditions {tableHasRows : Bool}
    (h : b.leafAdditions e a column tableHasRows = .ok ss) :
    ∀ s ∈ ss, s.category ≠ .drop := by
  obtain ⟨owner, -, h⟩ := bind_eq_ok.1 h
  split at h
  · obtain ⟨definition, -, h⟩ := bind_eq_ok.1 h
    obtain ⟨fillings, hfillings, h⟩ := bind_eq_ok.1 h
    obtain ⟨restated, hrestated, h⟩ := bind_eq_ok.1 h
    obtain rfl := pure_eq_ok.1 h
    intro s hs
    rcases List.mem_append.1 hs with hs | hs
    · rcases List.mem_cons.1 hs with rfl | hs
      · exact nofun
      · rw [category_fillings hfillings s hs]
        exact nofun
    · rw [List.mem_singleton.1 hs, category_alterMandatory hrestated]
      exact nofun
  · obtain ⟨definition, -, h⟩ := bind_eq_ok.1 h
    obtain rfl := pure_eq_ok.1 h
    intro s hs
    rw [List.mem_singleton.1 hs]
    exact nofun

theorem category_addForeignKey {s : Statement} (h : b.addForeignKey e a column = .ok s) :
    s.category = .alter := by
  obtain ⟨owner, _, _, _, _, -, rfl⟩ := command_of_addForeignKey h
  rfl

theorem category_addPrimaryKey (h : b.addPrimaryKey e false = .ok ss) :
    ∀ s ∈ ss, s.category = .alter := by
  obtain ⟨owner, _, _, -, rfl⟩ := command_of_addPrimaryKey h
  intro s hs
  rw [List.mem_singleton.1 hs]
  rfl

end Composer

end SchemaDrift
