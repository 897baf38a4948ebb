import SchemaDrift.Proofs.Catalog.Synonyms

/-!
# Temporal categories of synonyms

A type takes its temporal category from its own name, from the categories that it is the value of,
or from the first of its synonyms that is the value of one. So the category of a type that is no
value itself does not depend on which member of its class is asked about
(`synonyms_share_category`).
-/

namespace SchemaDrift.Catalog

variable {c : Catalog} {name : String}

theorem categoryOfValue?_eq_none_iff :
    c.categoryOfValue? name = none ↔ name ∉ c.temporalTypes.values := by
  have none_iff : c.categoryOfValue? name = none ↔
      c.temporalTypes.entries.filter (·.2 == name) = [] := by
    rw [categoryOfValue?]
    split
    · next none => exact iff_of_true rfl none
    · next e single => exact iff_of_false (by simp) (by simp [single])
    · next some _ => exact iff_of_false (by simp) some
  rw [none_iff, List.filter_eq_nil_iff, OrderedMap.values, List.mem_map]
  constructor
  · rintro none ⟨e, he, rfl⟩
    exact none e he (beq_self_eq_true e.2)
  · intro unused e he same
    exact unused ⟨e, he, eq_of_beq same⟩

theorem categoryOfValue?_of_shared {category other : TemporalCategory} (differ : category ≠ other)
    (h : c.temporalTypes.get? category = some name) (h' : c.temporalTypes.get? other = some name) :
    c.categoryOfValue? name = some .timestamp := by
  have mem {category : TemporalCategory} (h : c.temporalTypes.get? category = some name) :
      (category, name) ∈ c.temporalTypes.entries.filter (·.2 == name) := by
    have entry := OrderedMap.mem_entries_of_get? h
    simpa using entry
  have first := mem h
  have second := mem h'
  rw [categoryOfValue?]
  split
  · next none =>
    rw [none] at first
    cases first
  · next e single =>
    rw [single, List.mem_singleton] at first second
    have same : category = other := congrArg Prod.fst (first.trans second.symm)
    exact absurd same differ
  · rfl

def IsUnnamed (name : String) : Prop := ∀ category : TemporalCategory, category.typeName ≠ name

instance (name : String) : Decidable (IsUnnamed name) :=
  decidable_of_iff (∀ category ∈ TemporalCategory.all, category.typeName ≠ name) <| by
    constructor
    · intro h category
      exact h category (by cases category <;> decide)
    · intro h category _
      exact h category

/-- Without a name of its own, a type has the category that it is the value of, or a synonym's. -/
theorem temporalCategory?_of_isUnnamed {type : String} (unnamed : IsUnnamed (Text.lower type)) :
    c.temporalCategory? type = (c.categoryOfValue? (Text.lower type)).or
      ((c.synonyms type).findSome? c.categoryOfValue?) := by
  have own : TemporalCategory.all.find? (·.typeName == Text.lower type) = none := by
    rw [List.find?_eq_none]
    intro category _ same
    exact unnamed category (eq_of_beq same)
  rw [temporalCategory?, own, Option.none_or, synonyms, synonymClass?]

/-- Only the class counts for a type that is neither named for a category nor the value of one. -/
theorem temporalCategory?_of_mem {type : String} {members : List String}
    (unnamed : IsUnnamed (Text.lower type)) (unused : Text.lower type ∉ c.temporalTypes.values)
    (hm : members ∈ c.synonymClasses) (inMembers : Text.lower type ∈ members) :
    c.temporalCategory? type = members.findSome? c.categoryOfValue? := by
  rw [temporalCategory?_of_isUnnamed unnamed, categoryOfValue?_eq_none_iff.2 unused,
    Option.none_or, synonyms_eq_of_mem hm inMembers]

/--
Members of a synonym class that are neither named for a temporal category nor the value of one have
the same category: none just if no member of the class is a value. A type without such a name that
is the value of several categories is a timestamp.
-/
theorem synonyms_share_category (c : Catalog) :
    (∀ members ∈ c.synonymClasses, ∀ type other,
      Text.lower type ∈ members → Text.lower other ∈ members →
      IsUnnamed (Text.lower type) → Text.lower type ∉ c.temporalTypes.values →
      IsUnnamed (Text.lower other) → Text.lower other ∉ c.temporalTypes.values →
        c.temporalCategory? type = c.temporalCategory? other ∧
        (c.temporalCategory? type = none ↔
          ∀ member ∈ members, member ∉ c.temporalTypes.values)) ∧
      ∀ type category other, IsUnnamed (Text.lower type) → category ≠ other →
        c.temporalTypes.get? category = some (Text.lower type) →
        c.temporalTypes.get? other = some (Text.lower type) →
          c.temporalCategory? type = some .timestamp := by
  constructor
  · intro members hm type other inType inOther unnamed unused unnamed' unused'
    have ofType := temporalCategory?_of_mem unnamed unused hm inType
    have ofOther := temporalCategory?_of_mem unnamed' unused' hm inOther
    refine ⟨ofType.trans ofOther.symm, ?_⟩
    rw [ofType, List.findSome?_eq_none_iff]
    apply forall₂_congr
    intro member _
    exact categoryOfValue?_eq_none_iff
  · intro type category other unnamed differ h h'
    rw [temporalCategory?_of_isUnnamed unnamed, categoryOfValue?_of_shared differ h h',
      Option.some_or]

/-- Two ways to hold a full timestamp in one dialect, and the one type for all in the other. -/
theorem synonyms_share_category_datetime :
    (Text.lower "DateTime2" = "datetime2" ∧ Text.lower "SMALLDATETIME" = "smalldatetime" ∧
      mssql.temporalCategory? "DateTime2" = mssql.temporalCategory? "SMALLDATETIME" ∧
      mssql.temporalCategory? "SMALLDATETIME" = some .timestamp) ∧
    access.temporalTypes.get? .date = some (Text.lower "DATETIME") ∧
      access.temporalTypes.get? .time = some (Text.lower "DATETIME") ∧
      access.temporalCategory? "DATETIME" = some .timestamp := by
  have lower : Text.lower "DateTime2" = "datetime2" := by decide +kernel
  have lower' : Text.lower "SMALLDATETIME" = "smalldatetime" := by decide +kernel
  have shared := (synonyms_share_category mssql).1 ["datetime", "datetime2", "smalldatetime"]
    (by decide) "DateTime2" "SMALLDATETIME"
  rw [lower, lower'] at shared
  have alike := (shared (by decide) (by decide) (by decide) (by decide) (by decide) (by decide)).1
  have date : access.temporalTypes.get? .date = some (Text.lower "DATETIME") := by decide +kernel
  have time : access.temporalTypes.get? .time = some (Text.lower "DATETIME") := by decide +kernel
  have several := (synonyms_share_category access).2 "DATETIME" .date .time (by decide +kernel)
    (by decide) date time
  exact ⟨⟨lower, lower', alike, by decide +kernel⟩, date, time, several⟩

end SchemaDrift.Catalog
