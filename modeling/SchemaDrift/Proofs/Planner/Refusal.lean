import SchemaDrift.Proofs.Ddl.Definition
import SchemaDrift.Proofs.Planner.Creation
import SchemaDrift.Proofs.Planner.Rebuild

/-!
# When a table cannot be created

In a model and a dialect whose names are texts, the table of an entity cannot be created for two
reasons only: the dialect has no column type for the logical type that a leaf needs, or the entity
has no key attribute. The first such leaf is reported, and a missing key only if there is none.
-/

namespace SchemaDrift

open Document (Value)

/-- The logical type of a reference to keys of a kind; the database generates no references. -/
def KeyType.referred : KeyType → String
  | longIdentity => "Long"
  | integerIdentity => "Integer"
  | key => key.name

/-- The logical type that the column of a field needs; generated keys need none. -/
def Entity.neededType? (e : Entity) (f : Field) : Option Value :=
  if f.isId then if e.keyType.isIdentity then none else some (.text e.keyType.name)
  else if f.isReference then some (.text f.targetKey.referred)
  else if f.isEnum then some f.storedEnumType
  else some f.type.simple

/-- The logical type that the column of a field needs and for which there is no column type. -/
def Catalog.missingType? (c : Catalog) (e : Entity) (f : Field) : Option Value :=
  (e.neededType? f).filter fun needed => (c.types.find? needed).isNone

/-- The fault of a leaf for which there is no column type. -/
def Catalog.refusal? (c : Catalog) (e : Entity) (leaf : Attribute.Leaf) : Option Fault :=
  (c.missingType? e leaf.1.field).map fun needed =>
    .unknownLogicalType needed c.name leaf.1.field.name e.table

theorem Entity.fault?_keyAttribute (e : Entity) : fault? e.keyAttribute =
    if ∀ a ∈ e.attributes, a.field.isId = false then some (.missingKeyAttribute e.name e.table)
    else none := by
  rw [keyAttribute]
  split
  · next a found =>
    have isId := List.find?_some found
    rw [if_neg fun none => by simp [none a (List.mem_of_find?_eq_some found)] at isId, fault?_ok]
  · next missing =>
    rw [if_pos (by simpa using missing), fault?_error]

theorem Field.IsTyped.isText_of_neededType? {e : Entity} {f : Field} (h : f.IsTyped)
    {needed : Value} (needs : e.neededType? f = some needed) : needed.IsText := by
  rw [Entity.neededType?] at needs
  split at needs
  · split at needs
    · cases needs
    · cases needs
      exact ⟨_, rfl⟩
  split at needs
  · cases needs
    exact ⟨_, rfl⟩
  split at needs
  · cases needs
    exact h.enumType.isText_statedOr "String"
  · cases needs
    exact h.type

namespace Composer

variable {catalog : Catalog} {config : Config} {e : Entity} {a : Attribute} {needed : Value}

theorem columnType_of_needed (plain : a.isEmbedded = false)
    (needs : e.neededType? a.field = some needed) :
    (ofConfig catalog config).columnType e a =
      (ofConfig catalog config).logicalColumnType e a needed := by
  rw [columnType, plain, if_neg Bool.false_ne_true]
  rw [Entity.neededType?] at needs
  cases isId : a.field.isId with
  | true =>
    rw [isId, if_pos rfl] at needs
    rw [Bool.true_or, if_pos rfl, keyColumnType, Conventions.keyColumnType, Conventions.keyType, isId]
    cases kind : e.keyType <;> rw [kind] at needs <;> cases needs <;> rfl
  | false =>
    rw [isId, if_neg Bool.false_ne_true] at needs
    rw [Bool.false_or]
    split at needs
    · next refers =>
      cases needs
      rw [if_pos refers, keyColumnType, Conventions.keyColumnType, Conventions.keyType, isId]
      cases a.field.targetKey <;> rfl
    · next refersNot =>
      rw [if_neg refersNot]
      split at needs
      · next enum =>
        cases needs
        rw [if_pos enum]
      · next plain =>
        cases needs
        rw [if_neg plain]

theorem columnType_of_generated (config : Config) (plain : a.isEmbedded = false)
    (needsNone : e.neededType? a.field = none) :
    (ofConfig catalog config).columnType e a = .ok catalog.longIdentityType ∨
      (ofConfig catalog config).columnType e a = .ok catalog.integerIdentityType := by
  rw [columnType, plain, if_neg Bool.false_ne_true]
  rw [Entity.neededType?] at needsNone
  split at needsNone
  · next isId =>
    rw [isId, Bool.true_or, if_pos rfl, keyColumnType, Conventions.keyColumnType,
      Conventions.keyType, isId, if_pos rfl]
    cases kind : e.keyType <;> rw [kind] at needsNone
    case longIdentity => exact .inl rfl
    case integerIdentity => exact .inr rfl
    all_goals cases needsNone
  · split at needsNone
    · cases needsNone
    · split at needsNone <;> cases needsNone

/-- A column has a type, which is a text, unless its logical type is missing. -/
theorem columnType_of_typed (config : Config) (dialect : catalog.IsTyped) (model : e.IsTyped)
    (typed : a.field.IsTyped) (plain : a.isEmbedded = false) :
    match catalog.missingType? e a.field with
    | none => ∃ type, (ofConfig catalog config).columnType e a = .ok (.text type)
    | some needed => (ofConfig catalog config).columnType e a =
        .error (.unknownLogicalType needed catalog.name a.field.name e.table) := by
  rw [Catalog.missingType?]
  cases needs : e.neededType? a.field with
  | none =>
    rcases columnType_of_generated config plain needs with generated | generated
    · obtain ⟨type, text⟩ := dialect.longIdentityType
      exact ⟨type, text ▸ generated⟩
    · obtain ⟨type, text⟩ := dialect.integerIdentityType
      exact ⟨type, text ▸ generated⟩
  | some needed =>
    have key := (typed.isText_of_neededType? needs).isKey
    rw [columnType_of_needed plain needs, logicalColumnType, Option.filter_some, ofConfig,
      Catalog.columnType, if_pos key]
    cases known : catalog.types.find? needed with
    | some type =>
      obtain ⟨s, rfl⟩ := dialect.types needed type known
      exact ⟨s, rfl⟩
    | none =>
      obtain ⟨table, htable⟩ := model.table
      rw [htable]
      show Except.error (Fault.unknownTypeAt needed catalog.name a.field.name (.text table)) = _
      rw [Fault.unknownTypeAt, if_neg (by simp [Value.asText?])]

theorem exists_identify (config : Config) (dialect : catalog.IsTyped) {name : Value}
    (text : name.IsText) : ∃ i, (ofConfig catalog config).identify name = .ok i := by
  obtain ⟨s, rfl⟩ := text
  exact ⟨_, dialect.identify_text s⟩

theorem fault?_leafDefinition (dialect : catalog.IsTyped) (model : e.IsTyped)
    {leaf : Attribute.Leaf} (hleaf : leaf ∈ e.leaves) :
    fault? ((ofConfig catalog config).leafDefinition e leaf) = catalog.refusal? e leaf := by
  obtain ⟨typed, c, hc⟩ := model.leaf hleaf
  have isLeaf := Entity.isLeaf_of_mem_leaves hleaf
  have own := Attribute.columnOr_of_isLeaf isLeaf hc
  have column := columnType_of_typed config dialect model typed isLeaf.1
  rw [leafDefinition, hc, ok_bind, Catalog.refusal?]
  cases missing : catalog.missingType? e leaf.1.field with
  | none =>
    rw [missing] at column
    obtain ⟨type, column⟩ := column
    rw [columnDefinition_of_columnType column own (dialect.identify_text c)]
    rfl
  | some needed =>
    rw [missing] at column
    rw [columnDefinition, own, ok_bind, identify,
      show (ofConfig catalog config).catalog = catalog from rfl, dialect.identify_text, ok_bind,
      columnSpec, column]
    rfl

theorem fault?_primaryKey (config : Config) (dialect : catalog.IsTyped) (model : e.IsTyped) :
    fault? ((ofConfig catalog config).primaryKey e) = fault? e.keyAttribute := by
  rw [primaryKey]
  cases keyed : e.keyAttribute with
  | error fault => rfl
  | ok a =>
    have mem : a ∈ e.attributes := by
      rw [Entity.keyAttribute] at keyed
      split at keyed
      · next found =>
        cases keyed
        exact List.mem_of_find?_eq_some found
      · cases keyed
    obtain ⟨c, hc⟩ := (model.attributes a mem).field.exists_columnName
    obtain ⟨i, hi⟩ := exists_identify config dialect ⟨c, rfl⟩
    rw [ok_bind, Attribute.columnName, hc, ok_bind, hi]
    rfl

theorem fault?_createTable (config : Config) (dialect : catalog.IsTyped) (model : e.IsTyped) :
    fault? ((ofConfig catalog config).createTable e) =
      (e.leaves.findSome? (catalog.refusal? e)).or (fault? e.keyAttribute) := by
  have defining : fault? (e.leaves.mapM ((ofConfig catalog config).leafDefinition e)) =
      e.leaves.findSome? (catalog.refusal? e) :=
    fault?_mapM fun leaf hleaf => fault?_leafDefinition dialect model hleaf
  obtain ⟨owner, howner⟩ := exists_identify config dialect model.table
  rw [← defining, ← fault?_primaryKey config dialect model, createTable]
  cases e.leaves.mapM ((ofConfig catalog config).leafDefinition e) with
  | error fault => rfl
  | ok columns =>
    rw [ok_bind, fault?_ok, Option.none_or]
    cases (ofConfig catalog config).primaryKey e with
    | error fault => rfl
    | ok key =>
      rw [ok_bind, howner]
      rfl

theorem exists_addForeignKey (config : Config) (dialect : catalog.IsTyped) (model : e.IsTyped)
    {leaf : Attribute.Leaf} {c : String} (hleaf : leaf ∈ e.leaves) (hc : leaf.2 = .ok (.text c))
    (refers : leaf.1.field.reference? ≠ none) :
    ∃ s, (ofConfig catalog config).addForeignKey e leaf.1 (.text c) = .ok s := by
  have typed := (model.leaf hleaf).1
  obtain ⟨target, htarget⟩ := Option.ne_none_iff_exists'.1 refers
  have target_text : target.IsText := by
    rw [Field.reference?] at htarget
    split at htarget
    · exact typed.target.isText_of_stated? htarget
    · cases htarget
  have identified {name : Value} (text : name.IsText) :=
    exists_identify config dialect text
  obtain ⟨owner, howner⟩ := identified model.table
  obtain ⟨constraint, hconstraint⟩ := identified
    ⟨"FK_" ++ e.table.display ++ "_" ++ (Value.text c).display, rfl⟩
  obtain ⟨referring, hreferring⟩ := identified ⟨c, rfl⟩
  obtain ⟨i, hi⟩ := identified target_text
  obtain ⟨k, hk⟩ := identified typed.targetColumn
  rw [addForeignKey_of_reference htarget
    (Attribute.columnOr_of_isLeaf (Entity.isLeaf_of_mem_leaves hleaf) hc), foreignKey, howner, ok_bind,
    foreignKeyName, hconstraint, ok_bind, hreferring, ok_bind, hi, ok_bind, hk]
  exact ⟨_, rfl⟩

end Composer

namespace Planner

variable {σ : Type} {catalog : Catalog} {config : Config} {e : Entity}

theorem exists_references (config : Config) (dialect : catalog.IsTyped) (model : e.IsTyped)
    {leaf : Attribute.Leaf} {c : String} (hleaf : leaf ∈ e.leaves) (hc : leaf.2 = .ok (.text c)) :
    ∃ ss, (ofConfig catalog config).references e leaf.1 (.text c) = .ok ss := by
  rw [references]
  cases refers : leaf.1.field.reference? with
  | none => exact ⟨[], rfl⟩
  | some target =>
    have some : leaf.1.field.reference? ≠ none := refers ▸ Option.some_ne_none target
    obtain ⟨s, hs⟩ := Composer.exists_addForeignKey config dialect model hleaf hc some
    refine ⟨[s], ?_⟩
    show (do return [← (Composer.ofConfig catalog config).addForeignKey e leaf.1 (.text c)]) = _
    rw [hs]
    rfl

theorem exists_returns_planCreate (dialect : catalog.IsTyped) (model : e.IsTyped)
    (audible : ∀ v, config.logger ≠ some (.mute v)) {table : Statement}
    (created : (Composer.ofConfig catalog config).createTable e = .ok table) (t : Trail σ) :
    ∃ plan t', ((ofConfig catalog config).planCreate e : Session σ Plan).Returns t plan t' := by
  have refer : ∀ leaf ∈ e.leaves, ∃ ss, (do
      (ofConfig catalog config).references e leaf.1 (← leaf.2) : Session σ _).Returns t ss t := by
    intro leaf hleaf
    obtain ⟨-, c, hc⟩ := model.leaf hleaf
    obtain ⟨ss, hss⟩ := exists_references config dialect model hleaf hc
    exact ⟨ss, Session.returns_lift_bind.2 ⟨_, hc, Session.returns_lift.2 ⟨hss, rfl⟩⟩⟩
  obtain ⟨groups, hgroups⟩ := Session.exists_returns_mapM refer
  obtain ⟨t', announced⟩ := exists_returns_announce (p := ofConfig catalog config) audible
    { table := e.table, statements := table :: groups.flatten } t
  refine ⟨{ table := e.table, statements := table :: groups.flatten }, t', ?_⟩
  refine Session.returns_lift_bind.2 ⟨table, created, ?_⟩
  exact Session.returns_bind.2 ⟨groups, t, hgroups, announced⟩

/-- The planning of a table fails with its creation, and leaves no trace then. -/
theorem raises_planCreate_iff (dialect : catalog.IsTyped) (model : e.IsTyped)
    (audible : ∀ v, config.logger ≠ some (.mute v)) {t t' : Trail σ} {fault : Fault} :
    ((ofConfig catalog config).planCreate e : Session σ Plan).Raises t fault t' ↔
      fault? ((Composer.ofConfig catalog config).createTable e) = some fault ∧ t' = t := by
  cases created : (Composer.ofConfig catalog config).createTable e with
  | ok table =>
    obtain ⟨plan, u, returned⟩ := exists_returns_planCreate dialect model audible created t
    exact iff_of_false returned.not_raises (by simp)
  | error cause =>
    have raised : ((ofConfig catalog config).planCreate e : Session σ Plan).Raises t cause t :=
      Session.raises_bind_of_raises (Session.raises_lift.2 ⟨created, rfl⟩)
    rw [fault?_error, Option.some.injEq]
    constructor
    · intro h
      exact (h.eq raised).imp id Eq.symm
    · rintro ⟨rfl, rfl⟩
      exact raised

/--
A table is refused exactly if there is no column type for what some leaf needs, or if no attribute
is a key. The fault is that of the first such leaf, and else that of the missing key. Nothing is
reported then.
-/
theorem planCreate_raises_iff (config : Config) (dialect : catalog.IsTyped) (model : e.IsTyped)
    (audible : ∀ v, config.logger ≠ some (.mute v)) (t : Trail σ) :
    ((∃ fault t', ((ofConfig catalog config).planCreate e : Session σ Plan).Raises t fault t') ↔
      (∃ leaf ∈ e.leaves, catalog.missingType? e leaf.1.field ≠ none) ∨
        ∀ a ∈ e.attributes, a.field.isId = false) ∧
    ∀ fault t', ((ofConfig catalog config).planCreate e : Session σ Plan).Raises t fault t' →
      t' = t ∧
      match e.leaves.find? fun leaf => (catalog.missingType? e leaf.1.field).isSome with
      | some leaf => ∃ needed, catalog.missingType? e leaf.1.field = some needed ∧
          fault = .unknownLogicalType needed catalog.name leaf.1.field.name e.table
      | none => fault = .missingKeyAttribute e.name e.table := by
  have refusal := Composer.fault?_createTable config dialect model
  constructor
  · have failing : (∃ fault t',
        ((ofConfig catalog config).planCreate e : Session σ Plan).Raises t fault t') ↔
          fault? ((Composer.ofConfig catalog config).createTable e) ≠ none := by
      simp only [raises_planCreate_iff dialect model audible, exists_and_left, exists_eq, and_true,
        Option.ne_none_iff_exists']
    rw [failing, refusal, Ne, Option.or_eq_none_iff, not_and_or, List.findSome?_eq_none_iff,
      Entity.fault?_keyAttribute]
    refine or_congr ?_ ?_
    · simp [Catalog.refusal?]
    · simp
  · intro fault t' raised
    obtain ⟨refused, same⟩ := (raises_planCreate_iff dialect model audible).1 raised
    refine ⟨same, ?_⟩
    have first : (fun leaf => (catalog.refusal? e leaf).isSome) = fun leaf : Attribute.Leaf =>
        (catalog.missingType? e leaf.1.field).isSome := by
      funext leaf
      rw [Catalog.refusal?, Option.isSome_map]
    rw [refused, findSome?_eq_bind_find?, first, Entity.fault?_keyAttribute] at refusal
    cases found : e.leaves.find? fun leaf => (catalog.missingType? e leaf.1.field).isSome with
    | none =>
      rw [found, Option.bind_none, Option.none_or] at refusal
      split at refusal
      · exact Option.some.inj refusal
      · cases refusal
    | some leaf =>
      have lacks := List.find?_some found
      obtain ⟨needed, missing⟩ := Option.isSome_iff_exists.1 lacks
      rw [found, Option.bind_some, Catalog.refusal?, missing, Option.map_some, Option.some_or]
        at refusal
      exact ⟨needed, missing, Option.some.inj refusal⟩

/-- An entity without a key, one of whose parts is of a class that no dialect knows. -/
def membership : Entity where
  name := "Membership"
  table := "MEMBERSHIP"
  attributes := [
    .plain { name := "title", type := ⟨"java.lang.String", "String"⟩ } [],
    .embedded { name := "term", type := ⟨"Term", "Term"⟩, columnPrefix := "TERM_" }
      (.plain { name := "start", type := ⟨"java.time.LocalDate", "LocalDate"⟩ } [])
      [.plain { name := "stop", type := ⟨"java.time.Instant", "Instant"⟩ } []]]

theorem isTyped_access : Catalog.access.IsTyped where
  types := by
    intro logicalType type known
    have texts : ∀ entry ∈ Catalog.access.types.entries, entry.2.IsText := by decide
    exact texts _ (OrderedMap.mem_entries_of_get? known)
  longIdentityType := by decide
  integerIdentityType := by decide
  quoteOpen := by decide
  quoteClose := by decide

theorem isTyped_membership : membership.IsTyped where
  table := by decide
  attributes := by
    intro a ha
    simp only [membership, List.mem_cons, List.not_mem_nil, or_false] at ha
    rcases ha with rfl | rfl
    · exact .plain (by decide)
    · refine .embedded (by decide) (.plain (by decide)) ?_
      intro a ha
      obtain rfl := List.mem_singleton.1 ha
      exact .plain (by decide)

theorem planCreate_raises_membership :
    Catalog.access.IsTyped ∧ membership.IsTyped ∧
      ((ofConfig .access default).planCreate membership : Session Inventory Plan).Raises
        { source := {} } (.unknownLogicalType "LocalDate" "access" "start" "MEMBERSHIP")
        { source := {} } := by
  have lacks : (membership.leaves.find? fun leaf =>
      (Catalog.access.missingType? membership leaf.1.field).isSome).map
        (fun leaf => (leaf.1.field.name, Catalog.access.missingType? membership leaf.1.field)) =
      some (.text "start", some (.text "LocalDate")) := by decide +kernel
  obtain ⟨raises, reports⟩ := planCreate_raises_iff default isTyped_access
    isTyped_membership nofun ({ source := {} } : Trail Inventory)
  obtain ⟨leaf, found, known⟩ := Option.map_eq_some_iff.1 lacks
  rw [Prod.mk.injEq] at known
  have refused : Catalog.access.missingType? membership leaf.1.field ≠ none :=
    known.2 ▸ Option.some_ne_none _
  obtain ⟨fault, trail, raised⟩ := raises.2 (.inl ⟨leaf, List.mem_of_find?_eq_some found, refused⟩)
  obtain ⟨rfl, report⟩ := reports fault trail raised
  rw [found] at report
  obtain ⟨needed, missing, rfl⟩ := report
  rw [known.2] at missing
  cases missing
  rw [known.1] at raised
  exact ⟨isTyped_access, isTyped_membership, raised⟩

end Planner

end SchemaDrift
