import SchemaDrift.Proofs.Ddl.Clause
import SchemaDrift.Proofs.Ddl.Definition
import SchemaDrift.Proofs.Planner.Entity

/-!
# What is written for an attribute

A column definition that is made for an attribute says what the attribute wants: the length if
there is one, precision and scale where the type takes parameters, and whether the column is
required. With whole numbers for amounts all of that can be read back (`exists_created`).
-/

namespace SchemaDrift

open Document (Value)

/-- The amounts that an attribute states are whole numbers. -/
structure Field.HasWholeAmounts (f : Field) : Prop where
  length : f.length.IsAmount
  precision : f.precision.IsAmount
  scale : f.scale.IsAmount

/-- The amounts that are known of a column are whole numbers. -/
structure Column.HasWholeAmounts (c : Column) : Prop where
  length : c.length.IsAmount
  precision : c.precision.IsAmount
  scale : c.scale.IsAmount

/-- The amounts that are configured are whole numbers; texts may be left without a length. -/
structure Config.HasWholeAmounts (c : Config) : Prop where
  stringLength : c.stringLength.IsAmount
  enumLength : ∃ n, c.enumLength = .int n
  decimalPrecision : ∃ n, c.decimalPrecision = .int n
  decimalScale : ∃ n, c.decimalScale = .int n

namespace Document.Value

theorem IsAmount.ne_nan {v : Value} (h : v.IsAmount) : v ≠ .real .nan := by
  rcases h with rfl | ⟨n, rfl⟩ <;> nofun

theorem isAmount_statedOr {v w : Value} (hv : v.IsAmount) (hw : w.IsAmount) :
    (v.statedOr w).IsAmount := by
  rw [statedOr]
  split
  · exact hv
  · exact hw

theorem exists_statedOr {v w : Value} (hv : v.IsAmount) (hw : ∃ n, w = .int n) :
    ∃ n, v.statedOr w = .int n := by
  rw [statedOr]
  split
  · next stated =>
    rcases hv with rfl | whole
    · cases stated
    · exact whole
  · exact hw

end Document.Value

theorem Clause.hasWholeAmounts_column (clause : Clause) (type : Value) (required : Bool) :
    (clause.column type required).HasWholeAmounts := by
  cases clause with
  | empty | unlimited => exact ⟨.inl rfl, .inl rfl, .inl rfl⟩
  | length n => exact ⟨.inr ⟨n, rfl⟩, .inl rfl, .inl rfl⟩
  | decimal p s => exact ⟨.inl rfl, .inr ⟨p, rfl⟩, .inr ⟨s, rfl⟩⟩

namespace Planner

/-- A column of a type that has what was written for an attribute. -/
structure Created (p : Planner) (f : Field) (type : String) (c : Column) : Prop where
  type_eq : c.type = .text type
  nullable_eq : c.nullable = .bool !(f.isMandatory || f.isId)
  amounts : c.HasWholeAmounts
  length_eq : p.comparesLength f type (p.desiredLength f) = true →
    ∀ limit, c.length.statedOr limit = (p.desiredLength f).statedOr limit
  decimal_eq : comparesDecimal f = true → (c.precision, c.scale) =
    if p.composer.catalog.takesNoParameters type then (.null, .null)
    else p.composer.conventions.decimalParameters f

section Created

variable {p : Planner} {f : Field} {type : String}

theorem isAmount_textLength (catalog : Catalog) {config : Config}
    (configured : config.HasWholeAmounts) (stated : f.HasWholeAmounts) :
    ((Composer.ofConfig catalog config).textLength f).IsAmount := by
  rw [Composer.textLength]
  split
  · exact .inr configured.enumLength
  · exact Document.Value.isAmount_statedOr stated.length configured.stringLength

theorem exists_decimalParameters (catalog : Catalog) {config : Config}
    (configured : config.HasWholeAmounts) (stated : f.HasWholeAmounts) :
    ∃ precision scale : Int, (Conventions.mk catalog config).decimalParameters f =
      (.int precision, .int scale) := by
  obtain ⟨precision, hprecision⟩ :=
    Document.Value.exists_statedOr stated.precision configured.decimalPrecision
  have scaled : ∃ scale : Int, (if f.scale = .null then config.decimalScale else f.scale) =
      .int scale := by
    split
    · exact configured.decimalScale
    · next present => exact stated.scale.resolve_left present
  obtain ⟨scale, hscale⟩ := scaled
  refine ⟨precision, scale, ?_⟩
  rw [Conventions.decimalParameters, hprecision]
  exact congrArg _ hscale

theorem created_of_clause {clause : Clause}
    (length : p.comparesLength f type (p.desiredLength f) = true → ∀ limit,
      (clause.column (.text type) (f.isMandatory || f.isId)).length.statedOr limit =
        (p.desiredLength f).statedOr limit)
    (decimal : comparesDecimal f = true →
      ((clause.column (.text type) (f.isMandatory || f.isId)).precision,
        (clause.column (.text type) (f.isMandatory || f.isId)).scale) =
      if p.composer.catalog.takesNoParameters type then (.null, .null)
      else p.composer.conventions.decimalParameters f) :
    p.Created f type (clause.column (.text type) (f.isMandatory || f.isId)) where
  type_eq := by cases clause <;> rfl
  nullable_eq := by cases clause <;> rfl
  amounts := clause.hasWholeAmounts_column _ _
  length_eq := length
  decimal_eq := decimal

theorem created_of_key (key : isParametric f = false) (clause : Clause) :
    p.Created f type (clause.column (.text type) (f.isMandatory || f.isId)) := by
  refine created_of_clause (fun compared => ?_) (fun compared => ?_)
  · rw [comparesLength_of_key key] at compared
    cases compared
  · rw [comparesDecimal_of_key key] at compared
    cases compared

theorem created_of_bare (bare : p.composer.catalog.takesNoParameters type = true) :
    p.Created f type (Clause.empty.column (.text type) (f.isMandatory || f.isId)) := by
  refine created_of_clause (fun compared => ?_) (fun _ => ?_)
  · rw [comparesLength, bare, Bool.not_true, Bool.and_false] at compared
    cases compared
  · rw [if_pos bare]
    rfl

theorem created_of_length (parametric : isParametric f = true)
    (text : (f.type.isText || f.isNamedEnum) = true) {clause : Clause}
    (h : (Parameters.ofLength (p.composer.textLength f)).clause? = some clause) :
    p.Created f type (clause.column (.text type) (f.isMandatory || f.isId)) := by
  have desired : p.desiredLength f = p.composer.textLength f := by
    rw [desiredLength, parametric, text]
    rfl
  refine created_of_clause (fun _ limit => ?_) (fun compared => ?_)
  · rw [desired]
    rw [Parameters.ofLength] at h
    split at h
    · next stated =>
      cases length : p.composer.textLength f with
      | int n =>
        rw [length] at h
        cases h
        rfl
      | null | bool _ | real _ | moment _ | text _ | bytes _ | list _ | map _ =>
        rw [length] at h
        cases h
    · next silent =>
      -- What counts as false is written as no limit, and read as no length.
      cases h
      rw [Document.Value.statedOr, Document.Value.statedOr, if_neg silent]
      rfl
  · rw [comparesDecimal_of_text text] at compared
    cases compared

theorem created_of_number (number : (f.type.isText || f.isNamedEnum) = false) {clause : Clause}
    (unlimited : ∀ type required, (clause.column type required).length = .null)
    (decimal : comparesDecimal f = true →
      ((clause.column (.text type) (f.isMandatory || f.isId)).precision,
        (clause.column (.text type) (f.isMandatory || f.isId)).scale) =
      if p.composer.catalog.takesNoParameters type then (.null, .null)
      else p.composer.conventions.decimalParameters f) :
    p.Created f type (clause.column (.text type) (f.isMandatory || f.isId)) := by
  have desired : p.desiredLength f = .null := by
    rw [desiredLength, number, Bool.and_false]
    rfl
  refine created_of_clause (fun _ limit => ?_) decimal
  rw [desired, unlimited]

section Configured

variable (catalog : Catalog) {config : Config}

/-- The parameters of an attribute's own can be read: they say what the attribute wants. -/
theorem exists_created_of_parameters (configured : config.HasWholeAmounts)
    (stated : f.HasWholeAmounts) (parametric : isParametric f = true)
    (parametrized : catalog.takesNoParameters type = false) :
    ∃ clause : Clause,
      ((Composer.ofConfig catalog config).parameters f).clause? = some clause ∧
      (ofConfig catalog config).Created f type
        (clause.column (.text type) (f.isMandatory || f.isId)) := by
  rw [Composer.parameters]
  split
  · next text =>
    obtain ⟨clause, hclause⟩ :=
      Parameters.exists_clause_ofLength (isAmount_textLength catalog configured stated)
    exact ⟨clause, hclause, created_of_length parametric text hclause⟩
  · next number =>
    have number := Bool.eq_false_iff.2 number
    split
    · obtain ⟨precision, scale, amounts⟩ :=
        exists_decimalParameters catalog configured stated
      have conventions : (Composer.ofConfig catalog config).conventions.decimalParameters f =
          (.int precision, .int scale) := amounts
      refine ⟨.decimal precision scale, ?_, created_of_number number (fun _ _ => rfl) ?_⟩
      · rw [conventions]
        rfl
      · intro _
        show _ = if catalog.takesNoParameters type then _ else _
        rw [parametrized]
        exact conventions.symm
    · next integral =>
      refine ⟨.empty, rfl, created_of_number number (fun _ _ => rfl) ?_⟩
      intro compared
      rw [comparesDecimal, Bool.and_assoc, Bool.and_eq_true] at compared
      exact absurd compared.1 integral

/-- What is written for an attribute can be read: it says what the attribute wants. -/
theorem exists_created (configured : config.HasWholeAmounts) (stated : f.HasWholeAmounts)
    (e : Entity) (type : String) :
    ∃ clause : Clause,
      ((Composer.ofConfig catalog config).createdSuffix e f type).parameters.clause? =
        some clause ∧
      (ofConfig catalog config).Created f type
        (clause.column (.text type) (f.isMandatory || f.isId)) := by
  rw [Composer.createdSuffix]
  split
  · next key =>
    have key := isParametric_eq_false key
    rw [Conventions.keySuffix]
    split
    · obtain ⟨n, hn⟩ := Document.Value.exists_statedOr stated.length
        (w := .int defaultKeyLength) ⟨_, rfl⟩
      rw [hn]
      exact ⟨.length n, rfl, created_of_key key _⟩
    · exact ⟨.empty, rfl, created_of_key key _⟩
  · next own =>
    have parametric : isParametric f = true := by
      rw [isParametric, Bool.eq_false_iff.2 own]
      rfl
    split
    · next bare => exact ⟨.empty, rfl, created_of_bare bare⟩
    · next parametrized =>
      exact exists_created_of_parameters catalog configured stated parametric
        (Bool.eq_false_iff.2 parametrized)

end Configured

end Created

end Planner

end SchemaDrift
