import SchemaDrift.Proofs.Catalog.Construction

/-!
# Overrides

To override column types and default values is to make the catalogue anew from its own parts with
two of them replaced. A catalogue that was made from a declaration is in normal form, so nothing else
changes by that and nothing can fail; and overriding twice is overriding once with both overrides
merged, the entries in the same order.
-/

namespace SchemaDrift.Catalog

open Document (Value)

variable {d : Declaration} {c : Catalog}

/-- The catalogue made anew from its own parts, some types and default values overwritten. -/
def remade (c : Catalog) (types defaultValues : LogicalTypes) : Except Fault Catalog :=
  ofDeclaration { c.restated with
    types := c.types.merge types
    defaultValues := c.defaultValues.merge defaultValues }

theorem IsNormal.override (normal : c.IsNormal) (types defaultValues : LogicalTypes) :
    (c.override types defaultValues).IsNormal := by
  obtain ⟨⟩ := normal
  constructor <;> assumption

theorem IsNormal.remade_eq (normal : c.IsNormal) (types defaultValues : LogicalTypes) :
    c.remade types defaultValues = .ok (c.override types defaultValues) :=
  (normal.override types defaultValues).ofDeclaration_restated

theorem override_override (types defaultValues types' defaultValues' : LogicalTypes) :
    (c.override types defaultValues).override types' defaultValues' =
      c.override (types.merge types') (defaultValues.merge defaultValues') := by
  have first := OrderedMap.merge_assoc c.types types types'
  have second := OrderedMap.merge_assoc c.defaultValues defaultValues defaultValues'
  simp only [override, first, second]

theorem override_empty (c : Catalog) : c.override .empty .empty = c := by
  rw [override, OrderedMap.merge_empty, OrderedMap.merge_empty]

theorem find?_merge (m n : LogicalTypes) (logicalType : Value) :
    LogicalTypes.find? (m.merge n) logicalType =
      (n.find? logicalType).or (m.find? logicalType) :=
  OrderedMap.get?_merge m n logicalType.canonical

/-- A catalogue answers as another one does, unless the overrides tell otherwise. -/
structure Overrides (after c : Catalog) (types defaultValues : LogicalTypes) : Prop where
  columnType : ∀ logicalType, logicalType.isKey = true →
    after.columnType logicalType =
      match types.find? logicalType with
      | some type => .ok type
      | none => c.columnType logicalType
  defaultValue : ∀ logicalType, logicalType.isKey = true →
    after.defaultValue logicalType =
      match defaultValues.find? logicalType with
      | some value => .ok value
      | none => c.defaultValue logicalType
  rest : { after with types := c.types, defaultValues := c.defaultValues } = c
  quoter : after.quoter = c.quoter

theorem overrides_override (c : Catalog) (types defaultValues : LogicalTypes) :
    (c.override types defaultValues).Overrides c types defaultValues where
  columnType := by
    intro logicalType key
    have found : (c.override types defaultValues).types.find? logicalType =
        (types.find? logicalType).or (c.types.find? logicalType) :=
      find?_merge c.types types logicalType
    rw [Catalog.columnType, Catalog.columnType, if_pos key, if_pos key, found]
    cases types.find? logicalType <;> rfl
  defaultValue := by
    intro logicalType key
    have found : (c.override types defaultValues).defaultValues.find? logicalType =
        (defaultValues.find? logicalType).or (c.defaultValues.find? logicalType) :=
      find?_merge c.defaultValues defaultValues logicalType
    rw [Catalog.defaultValue, Catalog.defaultValue, if_pos key, if_pos key, found]
    cases defaultValues.find? logicalType <;> rfl
  rest := rfl
  quoter := rfl

/--
Overriding a catalogue that was made from a declaration never fails and is an action of the merging
of overrides: once after another is once with both merged, and with nothing it changes nothing. The
overrides answer where they have an answer, and all else is as it was.
-/
theorem override_acts (made : ofDeclaration d = .ok c) :
    (∀ types defaultValues,
      c.remade types defaultValues = .ok (c.override types defaultValues)) ∧
    (∀ types defaultValues types' defaultValues',
      (do (← c.remade types defaultValues).remade types' defaultValues') =
        c.remade (types.merge types') (defaultValues.merge defaultValues')) ∧
    (∀ types defaultValues types' defaultValues',
      (c.override types defaultValues).override types' defaultValues' =
        c.override (types.merge types') (defaultValues.merge defaultValues')) ∧
    c.override .empty .empty = c ∧
    ∀ types defaultValues,
      (c.override types defaultValues).Overrides c types defaultValues := by
  have normal := isNormal_of_ofDeclaration made
  refine ⟨normal.remade_eq, ?_, fun _ _ _ _ => override_override .., c.override_empty,
    c.overrides_override⟩
  intro types defaultValues types' defaultValues'
  have once := normal.remade_eq types defaultValues
  have twice := (normal.override types defaultValues).remade_eq types' defaultValues'
  have merged := normal.remade_eq (types.merge types') (defaultValues.merge defaultValues')
  rw [once, merged, ← override_override]
  exact twice

/-- A dialect that is written in both cases. -/
def ledger : Declaration where
  name := "ledger"
  types := .ofEntries [("Long", "DECIMAL"), ("String", "varchar")]
  temporalTypes := .ofList [("Date", "DATETIME")]
  synonymClasses := [["VarChar", "TEXT"]]
  reservedWords := ["order"]

theorem override_acts_ledger :
    ∃ c, ofDeclaration ledger = .ok c ∧
      c.remade (.ofEntries [("Long", "bigint")]) .empty =
        .ok (c.override (.ofEntries [("Long", "bigint")]) .empty) ∧
      (c.override (.ofEntries [("Long", "bigint")]) .empty).columnType "Long" = .ok "bigint" ∧
      (c.override (.ofEntries [("Long", "bigint")]) .empty).columnType "String" =
        c.columnType "String" := by
  obtain ⟨c, made⟩ := (exists_ofDeclaration_iff (d := ledger) (by decide +kernel)).2
    (by decide +kernel)
  obtain ⟨remade, -, -, -, overrides⟩ := override_acts made
  have after := overrides (.ofEntries [("Long", "bigint")]) .empty
  refine ⟨c, made, remade _ _, ?_, ?_⟩
  · exact after.columnType "Long" rfl
  · exact after.columnType "String" rfl

end SchemaDrift.Catalog
