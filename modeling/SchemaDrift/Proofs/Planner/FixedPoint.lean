import Mathlib.Data.List.Nodup
import SchemaDrift.Proofs.Planner.Settling

/-!
# Entities that are as they are wanted

Where every column of an entity is found as its leaf wants it, in whatever spelling and order, and
no other column is found, there is nothing to plan: each comparison finds no change, no leaf is
missing and no column is left over (`planChanges_settled`).
-/

namespace SchemaDrift

open Document (Value)

/--
The type of a column is a text, and its length a whole number where it has one. Precision and scale
may be anything but `nan`, which is found to differ from itself.
-/
structure Column.IsTyped (c : Column) : Prop where
  type : ∃ type, c.type = .text type
  length : c.length.IsAmount
  precision : c.precision ≠ .real .nan
  scale : c.scale ≠ .real .nan

namespace Planner

variable {σ : Type} {p : Planner} {provider : Provider σ} {e : Entity} {l : Declared} {c : Column}
  {tableHasRows : Bool} {t : Trail σ}

theorem parameterChanges_self {f : Field} {type : String} (typed : c.IsTyped)
    (foreign : comparesDecimal f = true → p.comparison.isCurrency type = false)
    (nullable : c.nullable = .bool !(f.isMandatory || f.isId)) :
    p.parameterChanges f c c type type = .ok {} := by
  have length : (p.comparesLength f type c.length &&
      p.comparison.lengthDiffers c.length c.length type) = false := by
    rw [Catalog.lengthDiffers_self _ typed.length.ne_nan, Bool.and_false]
  rw [parameterChanges, length, Catalog.obligationDiffers_eq_false nullable]
  cases compared : comparesDecimal f with
  | false => rfl
  | true =>
    have foreign := foreign compared
    rw [if_pos rfl,
      Catalog.precisionDiffers_self (Catalog.currencyPrecision?_eq_none foreign) typed.precision,
      Catalog.scaleDiffers_self foreign typed.scale]
    rfl

theorem changes_self (same : p.comparison = p.composer.catalog) {f : Field} {type : String}
    (foreign : comparesDecimal f = true → p.composer.catalog.isCurrency type = false)
    (wanted : p.desiredOfType f (.text type) = .ok c) (typed : c.IsTyped) :
    p.changes f c c = .ok {} := by
  obtain ⟨htype, -, nullable⟩ := type_of_desiredOfType wanted
  rw [← same] at foreign
  simp only [changes, htype]
  rw [typeDiffers_self _ _ typed.length, ok_bind]
  exact parameterChanges_self typed foreign nullable

/-- What is reported of a leaf whose column is as it is wanted. -/
def settledDifference (p : Planner) (e : Entity) (l : Declared) : Difference where
  table := e.table
  column := l.key
  desired := (p.desiredColumn e l.1).toOption
  current := (p.desiredColumn e l.1).toOption

/-- No decimal column among the leaves is a currency, which has a precision of its own. -/
def HasNoCurrency (p : Planner) (e : Entity) : Prop :=
  ∀ l ∈ e.declared, comparesDecimal l.1.field = true → ∀ type,
    p.composer.columnType e l.1 = .ok (.text type) → p.composer.catalog.isCurrency type = false

theorem difference_settled (same : p.comparison = p.composer.catalog)
    (foreign : p.HasNoCurrency e) (hl : l ∈ e.declared)
    (wanted : p.desiredColumn e l.1 = .ok c) (typed : c.IsTyped) :
    p.difference e l.1 (some c) (.text l.2) = .ok (p.settledDifference e l) := by
  obtain ⟨type, htype⟩ := typed.type
  obtain ⟨found, hfound, desired⟩ := bind_eq_ok.1 wanted
  obtain rfl : found = .text type := (type_of_desiredOfType desired).1.symm.trans htype
  have settled : p.changes l.1.field c c = .ok {} :=
    changes_self same (fun compared => foreign l hl compared type hfound) desired typed
  rw [difference, wanted, ok_bind, Entity.columnOr_of_mem_declared hl, ok_bind]
  show (p.changes l.1.field c c >>= fun _ => _) = _
  rw [settled, settledDifference, wanted]
  rfl

/-- What is planned for a leaf whose column is as it is wanted. -/
def settledPlan (p : Planner) (e : Entity) (l : Declared) : String × Plan :=
  (l.key, { table := e.table, differences := [p.settledDifference e l] })

theorem returns_planLeaf_settled {found : Found} (same : p.comparison = p.composer.catalog)
    (foreign : p.HasNoCurrency e) (hl : l ∈ e.declared)
    (present : found.get? l.key = some (some c)) (wanted : p.desiredColumn e l.1 = .ok c)
    (typed : c.IsTyped) :
    (p.planLeaf provider e found tableHasRows (l.1, .ok (.text l.2))).Returns t
      (p.settledPlan e l) t := by
  have compared := difference_settled same foreign hl wanted typed
  have unchanged : (p.planChange provider e l.1 (some c) (.text l.2) tableHasRows).Returns t
      { table := e.table, differences := [p.settledDifference e l] } t :=
    returns_planChange_of_keep (Entity.columnOr_of_mem_declared hl) compared rfl
  refine Session.returns_lift_bind.2 ⟨.text l.2, rfl, ?_⟩
  refine Session.returns_lift_bind.2 ⟨l.2, rfl, ?_⟩
  rw [Declared.key] at present
  simp only [present]
  exact Session.returns_bind.2 ⟨_, t, unchanged, Session.returns_pure.2 ⟨rfl, rfl⟩⟩

theorem returns_orphanDrops_of_mem {seen : List String} {entry : String × Option Column}
    (declared : entry.1 ∈ seen) : (p.orphanDrops provider e seen entry).Returns t [] t := by
  rw [orphanDrops, if_pos declared]
  exact Session.returns_pure.2 ⟨rfl, rfl⟩

/--
The columns found are those that the leaves of an entity want: each leaf finds its column, in any
letter case, and nothing is found but what some leaf wants.
-/
structure AsWanted (p : Planner) (e : Entity) (columns : List (String × Column)) : Prop where
  present : ∀ l ∈ e.declared, ∃ entry ∈ columns, Text.upper entry.1 = l.key
  wanted : ∀ entry ∈ columns, ∃ l ∈ e.declared, Text.upper entry.1 = l.key ∧
    p.desiredColumn e l.1 = .ok entry.2

def asFound (columns : List (String × Column)) : List (Value × Option Column) :=
  columns.map fun entry => (.text entry.1, some entry.2)

theorem columnsByName_asFound (columns : List (String × Column)) :
    columnsByName (asFound columns) =
      .ok (.ofList (columns.map fun entry => (Text.upper entry.1, some entry.2))) := by
  have named : (asFound columns).mapM (fun entry => (do
        return (Text.upper (← Document.textOf entry.1), entry.2) :
          Except Fault (String × Option Column))) =
      .ok (columns.map fun entry => (Text.upper entry.1, some entry.2)) := by
    rw [mapM_eq_ok, asFound, List.forall₂_map_left_iff, List.forall₂_map_right_iff,
      List.forall₂_same]
    exact fun entry _ => rfl
  rw [columnsByName, named, ok_bind]
  rfl

section AsWanted

variable {columns : List (String × Column)}

theorem AsWanted.exists_get? (h : p.AsWanted e columns)
    (distinct : (e.declared.map Declared.key).Nodup) (hl : l ∈ e.declared) :
    ∃ name c, (name, c) ∈ columns ∧ p.desiredColumn e l.1 = .ok c ∧
      (OrderedMap.ofList (columns.map fun entry => (Text.upper entry.1, some entry.2))).get?
        l.key = some (some c) := by
  obtain ⟨entry, hentry, key⟩ := h.present l hl
  have written : l.key ∈ (columns.map fun entry =>
      (Text.upper entry.1, some entry.2)).map Prod.fst := by
    rw [List.map_map, ← key]
    exact List.mem_map_of_mem hentry
  obtain ⟨found, hfound, mem⟩ := OrderedMap.exists_get?_ofList written
  obtain ⟨⟨name, c⟩, hc, same⟩ := List.mem_map.1 mem
  obtain ⟨upper, rfl⟩ := Prod.mk.inj same
  obtain ⟨l', hl', key', wanted⟩ := h.wanted _ hc
  have one : l' = l :=
    List.inj_on_of_nodup_map distinct hl' hl (key'.symm.trans upper)
  rw [one] at wanted
  exact ⟨name, c, hc, wanted, hfound⟩

theorem AsWanted.mem_keys (h : p.AsWanted e columns) {entry : String × Option Column}
    (mem : entry ∈ (OrderedMap.ofList (columns.map fun entry =>
      (Text.upper entry.1, some entry.2))).entries) :
    entry.1 ∈ e.declared.map Declared.key := by
  have key := OrderedMap.mem_keys_ofList (List.mem_map_of_mem mem)
  rw [List.map_map] at key
  obtain ⟨found, hfound, same⟩ := List.mem_map.1 key
  obtain ⟨l, hl, upper, -⟩ := h.wanted found hfound
  rw [← same]
  exact List.mem_map.2 ⟨l, hl, upper.symm⟩

end AsWanted

/-- The plan of an entity that is as it is wanted. -/
def settledEntityPlan (p : Planner) (e : Entity) : Plan :=
  { table := e.table, differences := e.declared.map (p.settledDifference e) }

theorem kind_settledEntityPlan : (p.settledEntityPlan e).kind = .keep := by
  refine ChangeKind.worst_eq_keep ?_
  intro k hk
  obtain ⟨d, hd, rfl⟩ := List.mem_map.1 hk
  obtain ⟨l, -, rfl⟩ := List.mem_map.1 hd
  rfl

theorem ofParts_settledPlan {drops : List (List Statement)} (none : drops.flatten = []) :
    p.ofParts e ((e.declared.map (p.settledPlan e)).map (·.2)) drops.flatten =
      p.settledEntityPlan e := by
  have ofLeaves : ((e.declared.map (p.settledPlan e)).map (·.2)).foldl Plan.append
      { table := e.table } = p.settledEntityPlan e := by
    have single : e.declared.map (p.settledDifference e) =
        e.declared.flatMap fun l => [p.settledDifference e l] := List.map_eq_flatMap
    rw [foldl_append, settledEntityPlan, List.map_map, single]
    simp [settledPlan, List.flatMap_map]
  rw [ofParts, ofLeaves, none]
  show Plan.append _ _ = _
  cases p.config.separateDrops <;> simp [Plan.append, settledEntityPlan]

theorem returns_planChanges_settled {columns : List (String × Column)}
    (same : p.comparison = p.composer.catalog)
    (audible : ∀ v, p.config.logger ≠ some (.mute v))
    (columned : ∀ leaf ∈ e.leaves, ∃ v, leaf.2 = .ok v)
    (distinct : (e.declared.map Declared.key).Nodup) (foreign : p.HasNoCurrency e)
    (typed : ∀ entry ∈ columns, entry.2.IsTyped) (wanted : p.AsWanted e columns) :
    ∃ t', (p.planChanges provider e (asFound columns) tableHasRows).Returns t
      (p.settledEntityPlan e) t' ∧ t'.source = t.source := by
  have parts : (e.leaves.mapM (p.planLeaf provider e (.ofList (columns.map fun entry =>
      (Text.upper entry.1, some entry.2))) tableHasRows)).Returns t
        (e.declared.map (p.settledPlan e)) t := by
    rw [Entity.leaves_eq_of_forall_ok columned]
    apply Session.returns_mapM_of_forall₂
    rw [List.forall₂_map_left_iff, List.forall₂_map_right_iff, List.forall₂_same]
    intro l hl
    obtain ⟨name, c, hc, desired, present⟩ := wanted.exists_get? distinct hl
    exact returns_planLeaf_settled same foreign hl present desired (typed _ hc)
  have drops : ((OrderedMap.ofList (columns.map fun entry =>
      (Text.upper entry.1, some entry.2))).entries.mapM (p.orphanDrops provider e
        (e.declared.map Declared.key))).Returns t
          ((OrderedMap.ofList (columns.map fun entry =>
            (Text.upper entry.1, some entry.2))).entries.map fun _ => []) t := by
    apply Session.returns_mapM_of_forall₂
    rw [List.forall₂_map_right_iff, List.forall₂_same]
    intro entry mem
    exact returns_orphanDrops_of_mem (wanted.mem_keys mem)
  -- Leaves and columns leave the trail as it is: all that happens is that the summary is logged.
  obtain ⟨t', logged⟩ := Session.exists_returns_log .info (summary e _) audible t
  have returned := returns_planChanges_of_steps (columnsByName_asFound columns) parts drops logged
  rw [ofParts_settledPlan (by simp)] at returned
  exact ⟨t', returned, Session.source_of_returns_log logged⟩

/--
Where the columns found are those that the leaves want, nothing is planned: there is no statement
and no warning, one difference without a change for each leaf, and the metadata source is never
asked, whatever it is.
-/
theorem planChanges_settled {catalog : Catalog} {config : Config} {e : Entity}
    {columns : List (String × Column)}
    (audible : ∀ v, config.logger ≠ some (.mute v))
    (columned : ∀ leaf ∈ e.leaves, ∃ v, leaf.2 = .ok v)
    (distinct : (e.declared.map Declared.key).Nodup)
    (foreign : (ofConfig catalog config).HasNoCurrency e)
    (typed : ∀ entry ∈ columns, entry.2.IsTyped)
    (wanted : (ofConfig catalog config).AsWanted e columns) :
    ∃ plan : Plan, plan.isEmpty = true ∧ plan.warnings = [] ∧ plan.kind = .keep ∧
      List.Forall₂ (fun leaf d => ∃ column desired, leaf.2 = .ok (.text column) ∧
        (ofConfig catalog config).desiredColumn e leaf.1 = .ok desired ∧
        d = { table := e.table, column := Text.upper column, desired, current := desired })
        e.leaves plan.differences ∧
      ∀ {σ : Type} (provider : Provider σ) (tableHasRows : Bool) (t : Trail σ), ∃ t',
        ((ofConfig catalog config).planChanges provider e (asFound columns) tableHasRows).Returns
          t plan t' ∧ t'.source = t.source := by
  refine ⟨(ofConfig catalog config).settledEntityPlan e, rfl, rfl, kind_settledEntityPlan, ?_, ?_⟩
  · rw [Entity.leaves_eq_of_forall_ok columned, settledEntityPlan, List.forall₂_map_left_iff,
      List.forall₂_map_right_iff, List.forall₂_same]
    intro l hl
    obtain ⟨name, c, -, desired, -⟩ := wanted.exists_get? distinct hl
    refine ⟨l.2, c, rfl, desired, ?_⟩
    rw [settledDifference, desired]
    rfl
  · intro σ provider tableHasRows t
    exact returns_planChanges_settled rfl audible columned distinct foreign typed wanted

/-- A table with a key, a text, an amount, and the columns of an address. -/
def subscriber : Entity where
  name := "Subscriber"
  table := "SUBSCRIBER"
  attributes := [
    .plain { name := "id", type := ⟨"java.lang.Long", "Long"⟩, isId := true } [],
    .plain { name := "name", type := ⟨"java.lang.String", "String"⟩, isMandatory := true } [],
    .plain { name := "credit", type := ⟨"java.math.BigDecimal", "BigDecimal"⟩
             precision := .int 19, scale := .int 2 } [],
    .embedded { name := "address", type := ⟨"Address", "Address"⟩, columnPrefix := "ADDR_" }
      (.plain { name := "street", type := ⟨"java.lang.String", "String"⟩, length := .int 80 } [])
      []]
  keyType := .long

/-- Its columns as they are wanted, in another order and in other letters. -/
def subscriberColumns : List (String × Column) := [
  ("addr_street", { type := "varchar", length := .int 80 }),
  ("Credit", { type := "decimal", precision := .int 19, scale := .int 2 }),
  ("id", { type := "decimal", nullable := .bool false }),
  ("NAME", { type := "varchar", nullable := .bool false })]

theorem planChanges_settled_subscriber :
    ∃ plan trail, plan.isEmpty = true ∧ plan.kind = .keep ∧ plan.differences.length = 4 ∧
      (filePlanner.planChanges Inventory.provider subscriber (asFound subscriberColumns)
        true).Returns { source := {} } plan trail ∧ trail.source.opened = 0 := by
  have audible : ∀ v, (default : Config).logger ≠ some (.mute v) := nofun
  have columned : ∀ leaf ∈ subscriber.leaves, ∃ v, leaf.2 = .ok v := by
    intro leaf hleaf
    have named : ∀ leaf ∈ subscriber.leaves, leaf.2.isOk = true := by decide +kernel
    have ok := named leaf hleaf
    cases column : leaf.2 with
    | error fault =>
      rw [column] at ok
      cases ok
    | ok v => exact ⟨v, rfl⟩
  have foreign : filePlanner.HasNoCurrency subscriber := by
    intro l hl _ type htype
    have foreign : ∀ l ∈ subscriber.declared,
        ((filePlanner.composer.columnType subscriber l.1).toOption.bind Value.asText?).map
          filePlanner.composer.catalog.isCurrency = some false := by decide +kernel
    have asked := foreign l hl
    rw [htype] at asked
    exact Option.some.inj asked
  have typed : ∀ entry ∈ subscriberColumns, entry.2.IsTyped := by
    intro entry hentry
    simp only [subscriberColumns, List.mem_cons, List.not_mem_nil, or_false] at hentry
    rcases hentry with rfl | rfl | rfl | rfl
    · exact ⟨⟨_, rfl⟩, .inr ⟨80, rfl⟩, nofun, nofun⟩
    · exact ⟨⟨_, rfl⟩, .inl rfl, nofun, nofun⟩
    · exact ⟨⟨_, rfl⟩, .inl rfl, nofun, nofun⟩
    · exact ⟨⟨_, rfl⟩, .inl rfl, nofun, nofun⟩
  have wanted : filePlanner.AsWanted subscriber subscriberColumns :=
    ⟨by decide +kernel, by decide +kernel⟩
  obtain ⟨plan, empty, -, kind, leaves, returns⟩ :=
    planChanges_settled audible columned (by decide +kernel) foreign typed wanted
  obtain ⟨trail, returned, source⟩ := returns Inventory.provider true { source := {} }
  have four : subscriber.leaves.length = 4 := by decide +kernel
  refine ⟨plan, trail, empty, kind, leaves.length_eq.symm.trans four, returned, ?_⟩
  rw [source]

end Planner

end SchemaDrift
