import SchemaDrift.Proofs.Model.Typed
import SchemaDrift.Proofs.Planner.Accounting
import SchemaDrift.Proofs.Session.Faults

/-!
# Creating the table of an entity

A plan that creates a table declares a column for each leaf and adds a foreign key for each leaf that
refers to another table. The primary key is that of the key attribute, whose column is declared
unless the attribute is embedded.
-/

namespace SchemaDrift

open Document (Value)

namespace Entity

def referring (e : Entity) : List Declared := e.declared.filter (·.1.field.reference?.isSome)

theorem mem_leaves_of_keyAttribute {e : Entity} {keyed : Attribute} {own : Value}
    (h : e.keyAttribute = .ok keyed) (plain : keyed.isEmbedded = false)
    (hown : keyed.columnName = .ok own) : (keyed, Attribute.joined (.ok "") own) ∈ e.leaves := by
  rw [keyAttribute] at h
  split at h
  · next a first =>
    cases h
    refine Attribute.mem_expandAll.2 ⟨keyed, List.mem_of_find?_eq_some first, ?_⟩
    cases keyed with
    | plain f ps =>
      rw [Attribute.expand_plain, List.mem_singleton, show f.columnName = .ok own from hown, ok_bind]
    | embedded f first rest => cases plain
  · cases h

theorem exists_declared_of_keyAttribute {e : Entity} {keyed : Attribute} {own : Value}
    (columned : ∀ leaf ∈ e.leaves, ∃ v, leaf.2 = .ok v) (h : e.keyAttribute = .ok keyed)
    (plain : keyed.isEmbedded = false) (hown : keyed.columnName = .ok own) :
    ∃ c, own = .text c ∧ (keyed, c) ∈ e.declared := by
  have leaf := mem_leaves_of_keyAttribute h plain hown
  obtain ⟨v, hv⟩ := columned _ leaf
  obtain ⟨c, rfl⟩ := Attribute.exists_text_of_isLeaf (isLeaf_of_mem_leaves leaf) hv
  have declared := mem_declared_of_mem_leaves leaf hv
  cases own with
  | text s =>
    rw [show Attribute.joined (.ok "") (.text s) = _ from Attribute.joined_text "" s,
      String.empty_append] at hv
    cases hv
    exact ⟨c, rfl, declared⟩
  | null | bool _ | int _ | real _ | moment _ | bytes _ | list _ | map _ => cases hv

end Entity

namespace Composer

variable {b : Composer} {e : Entity}

theorem forall_ok_of_leafDefinitions {columns : List ColumnDefinition}
    (h : e.leaves.mapM (b.leafDefinition e) = .ok columns) :
    ∀ leaf ∈ e.leaves, ∃ v, leaf.2 = .ok v := by
  intro leaf hleaf
  obtain ⟨definition, -, defined⟩ := exists_of_mem_forall₂ (mapM_eq_ok.1 h) hleaf
  obtain ⟨v, hv, -⟩ := bind_eq_ok.1 defined
  exact ⟨v, hv⟩

end Composer

namespace Planner

variable {σ : Type} {p : Planner} {e : Entity} {plan : Plan} {t t' : Trail σ}

theorem column_of_leafDefinition {l : Declared} {definition : ColumnDefinition}
    (hl : l ∈ e.declared)
    (h : p.composer.leafDefinition e (l.1, .ok (.text l.2)) = .ok definition) :
    p.written l.2 = definition.column := by
  obtain ⟨named, hnamed, hcolumn⟩ := Composer.identify_of_columnDefinition h
  rw [Entity.columnOr_of_mem_declared hl] at hnamed
  cases hnamed
  exact (eq_written_of_identify hcolumn).symm

theorem columns_of_leafDefinitions {columns : List ColumnDefinition}
    (h : e.leaves.mapM (p.composer.leafDefinition e) = .ok columns) :
    columns.map (·.column) = e.declared.map fun l => p.written l.2 := by
  rw [Entity.leaves_eq_of_forall_ok (Composer.forall_ok_of_leafDefinitions h), mapM_eq_ok,
    List.forall₂_map_left_iff] at h
  have named := ((List.forall₂_and_left _ _).2 ⟨fun l hl => hl, h⟩).imp fun l definition defined =>
    column_of_leafDefinition defined.1 defined.2
  have same := List.forall₂_map_left_iff.2 (List.forall₂_map_right_iff.2 named)
  rw [List.forall₂_eq_eq_eq] at same
  exact same.symm

/-- The statement is the foreign key from a declared column to the table that its leaf states. -/
def RefersFrom (p : Planner) (e : Entity) (l : Declared) (s : Statement) : Prop :=
  ∃ owner constraint stated target targetColumn, l.1.field.reference? = some stated ∧
    p.composer.identify e.table = .ok owner ∧ p.composer.identify stated = .ok target ∧
    s = p.composer.issue (.addForeignKey owner constraint (p.written l.2) target targetColumn)

theorem refersFrom_of_references {l : Declared} {references : List Statement} (hl : l ∈ e.declared)
    (h : p.references e l.1 (.text l.2) = .ok references) :
    List.Forall₂ (p.RefersFrom e) (if l.1.field.reference?.isSome then [l] else []) references := by
  rw [Planner.references] at h
  split at h
  · next target refers =>
    obtain ⟨s, hs, h⟩ := bind_eq_ok.1 h
    obtain rfl := pure_eq_ok.1 h
    obtain ⟨named, stated, owner, constraint, referring, target, targetColumn, hnamed, hstated,
      howner, hreferring, htarget, issued⟩ := Composer.names_of_addForeignKey hs
    rw [Entity.columnOr_of_mem_declared hl] at hnamed
    cases hnamed
    rw [eq_written_of_identify hreferring] at issued
    rw [refers, Option.isSome_some, if_pos rfl]
    exact .cons ⟨owner, constraint, stated, target, targetColumn, hstated, howner, htarget, issued⟩
      .nil
  · next refersNot =>
    cases h
    rw [refersNot, Option.isSome_none, if_neg Bool.false_ne_true]
    exact .nil

theorem forall₂_referring {ls : List Declared} {references : List (List Statement)}
    (h : List.Forall₂ (fun (l : Declared) ss => List.Forall₂ (p.RefersFrom e)
      (if l.1.field.reference?.isSome then [l] else []) ss) ls references) :
    List.Forall₂ (p.RefersFrom e) (ls.filter (·.1.field.reference?.isSome)) references.flatten := by
  induction h with
  | nil => exact .nil
  | @cons l ss ls references first _ ih =>
    rw [List.flatten_cons, List.filter_cons]
    split
    · next refers =>
      rw [if_pos refers] at first
      exact List.rel_append first ih
    · next refersNot =>
      rw [if_neg refersNot] at first
      obtain rfl := List.forall₂_nil_left_iff.1 first
      exact ih

theorem returns_planCreate (h : (p.planCreate e : Session σ Plan).Returns t plan t') :
    ∃ table references, p.composer.createTable e = .ok table ∧
      List.Forall₂ (p.RefersFrom e) e.referring references ∧
      plan = { table := e.table, statements := table :: references } := by
  obtain ⟨table, created, h⟩ := Session.returns_lift_bind.1 h
  obtain ⟨references, u, hreferences, h⟩ := Session.returns_bind.1 h
  obtain ⟨rfl, -⟩ := returns_announce h
  refine ⟨table, references.flatten, created, forall₂_referring ?_, rfl⟩
  obtain ⟨owner, columns, key, defined, -⟩ := Composer.command_of_createTable created
  have columned := Composer.forall_ok_of_leafDefinitions defined
  rw [Entity.leaves_eq_of_forall_ok columned] at hreferences
  have held := Session.related_of_returns_mapM (R := fun leaf ss =>
    ∀ l : Declared, leaf = (l.1, .ok (.text l.2)) → List.Forall₂ (p.RefersFrom e)
      (if l.1.field.reference?.isSome then [l] else []) ss) ?_ hreferences
  · refine (List.forall₂_map_left_iff.1 held).imp ?_
    intro l ss known
    exact known l rfl
  · rintro leaf hleaf u ss u' asked l rfl
    obtain ⟨l', hl', same⟩ := List.mem_map.1 hleaf
    simp only [Prod.mk.injEq, Except.ok.injEq, Value.text.injEq] at same
    obtain rfl := Prod.ext same.1 same.2
    obtain ⟨_, hcolumn, asked⟩ := Session.returns_lift_bind.1 asked
    cases hcolumn
    exact refersFrom_of_references hl' (Session.returns_lift.1 asked).1

theorem exists_referring_of_addForeignKey {table : Statement} {references : List Statement}
    {owner constraint column target targetColumn : Identifier}
    (created : p.composer.createTable e = .ok table)
    (refers : List.Forall₂ (p.RefersFrom e) e.referring references)
    (mem : p.composer.issue (.addForeignKey owner constraint column target targetColumn) ∈
      table :: references) : ∃ l ∈ e.referring, p.written l.2 = column := by
  rcases List.mem_cons.1 mem with same | mem
  · obtain ⟨_, _, _, -, -, -, rfl⟩ := Composer.command_of_createTable created
    cases same
  · obtain ⟨l, hl, owner, constraint, _, _, _, -, -, -, issued⟩ :=
      exists_of_mem_forall₂ refers.flip mem
    cases issued
    exact ⟨l, hl, rfl⟩

/--
A table is created with a column for each leaf, and each leaf that refers to another table gets one
foreign key. The column of the primary key is among them unless the key attribute is embedded and
no leaf happens to have its name.
-/
theorem planCreate_declares_key_iff
    (h : (p.planCreate e : Session σ Plan).Returns t plan t') :
    ∃ owner columns key references keyed own,
      plan.statements = p.composer.issue (.createTable owner columns key) :: references ∧
      columns.map (·.column) = e.declared.map (fun l => p.written l.2) ∧
      List.Forall₂ (p.RefersFrom e) e.referring references ∧
      (∀ owner constraint column target targetColumn,
        p.composer.issue (.addForeignKey owner constraint column target targetColumn) ∈
          plan.statements → column ∈ columns.map (·.column)) ∧
      e.keyAttribute = .ok keyed ∧ keyed.columnName = .ok own ∧
      p.composer.identify own = .ok key.column ∧
      (key.column ∈ columns.map (·.column) ↔
        keyed.isEmbedded = false ∨ ∃ l ∈ e.declared, p.written l.2 = key.column) := by
  obtain ⟨table, references, created, refers, rfl⟩ := returns_planCreate h
  obtain ⟨owner, columns, key, defined, hkey, -, rfl⟩ := Composer.command_of_createTable created
  obtain ⟨keyed, own, hkeyed, hown, identified⟩ := Composer.names_of_primaryKey hkey
  have declares := columns_of_leafDefinitions defined
  have mem_iff (column : Identifier) :
      column ∈ columns.map (·.column) ↔ ∃ l ∈ e.declared, p.written l.2 = column := by
    rw [declares, List.mem_map]
  refine ⟨owner, columns, key, references, keyed, own, rfl, declares, refers, ?_, hkeyed, hown,
    identified, ?_⟩
  · intro _ _ column _ _ mem
    obtain ⟨l, hl, named⟩ := exists_referring_of_addForeignKey created refers mem
    exact (mem_iff column).2 ⟨l, List.mem_of_mem_filter hl, named⟩
  · rw [mem_iff]
    refine ⟨.inr, ?_⟩
    rintro (plain | declared)
    · have columned := Composer.forall_ok_of_leafDefinitions defined
      obtain ⟨c, rfl, declared⟩ :=
        Entity.exists_declared_of_keyAttribute columned hkeyed plain hown
      exact ⟨(keyed, c), declared, (eq_written_of_identify identified).symm⟩
    · exact declared

/-- An entity whose key is made of two parts. -/
def orderLine : Entity where
  name := "OrderLine"
  table := "ORDER_LINE"
  attributes := [
    .embedded { name := "id", type := ⟨"OrderLineId", "OrderLineId"⟩, isId := true }
      (.plain { name := "orderNumber", type := ⟨"java.lang.Long", "Long"⟩, isMandatory := true } [])
      [.plain { name := "line", type := ⟨"java.lang.Integer", "Integer"⟩, isMandatory := true } []]]

/-- The primary key of an embedded key names a column that nothing declares. -/
theorem planCreate_declares_no_key :
    ∃ plan trail owner columns key,
      (filePlanner.planCreate orderLine : Session Inventory Plan).Returns { source := {} } plan
        trail ∧
      plan.statements = [filePlanner.composer.issue (.createTable owner columns key)] ∧
      plan.statements.map (·.text) = [
        "create table ORDER_LINE (\n    ORDER_NUMBER decimal not null,\n    LINE integer not null,\n" ++
          "    primary key nonclustered (ID)\n) ^"] ∧
      key.column ∉ columns.map (·.column) := by
  obtain ⟨plan, trail, returned, known⟩ := Session.exists_returns_of_map
    (s := filePlanner.planCreate orderLine) (t := { source := ({} : Inventory) })
    (f := fun plan => (plan.statements, plan.statements.map (·.text))) (b := (
      [filePlanner.composer.issue (.createTable ⟨"ORDER_LINE"⟩ [
        ⟨⟨"ORDER_NUMBER"⟩, ⟨"decimal", { notNull := true }⟩⟩,
        ⟨⟨"LINE"⟩, ⟨"integer", { notNull := true }⟩⟩] ⟨true, ⟨"ID"⟩⟩)],
      ["create table ORDER_LINE (\n    ORDER_NUMBER decimal not null,\n    LINE integer not null,\n" ++
        "    primary key nonclustered (ID)\n) ^"])) (by decide +kernel)
  rw [Prod.mk.injEq] at known
  exact ⟨plan, trail, _, _, _, returned, known.1, known.2, by decide⟩

/-- An entity with a reference two embeddings deep. -/
def consignment : Entity where
  name := "Consignment"
  table := "CONSIGNMENT"
  attributes := [
    .embedded { name := "route", type := ⟨"Route", "Route"⟩, columnPrefix := "ROUTE_" }
      (.embedded { name := "start", type := ⟨"Stop", "Stop"⟩, columnPrefix := "FROM_" }
        (.plain { name := "depot", type := ⟨"Depot", "Depot"⟩, isReference := true
                  target := "DEPOT" } []) [])
      [.plain { name := "miles", type := ⟨"java.lang.Integer", "Integer"⟩ } []],
    .plain { name := "serial", type := ⟨"java.lang.Long", "Long"⟩, isId := true } []]

theorem planCreate_declares_key_consignment :
    ∃ plan trail owner columns key l reference,
      (filePlanner.planCreate consignment : Session Inventory Plan).Returns { source := {} } plan
        trail ∧
      plan.statements = [filePlanner.composer.issue (.createTable owner columns key), reference] ∧
      columns.map (·.column) = [⟨"ROUTE_FROM_DEPOT_ID"⟩, ⟨"ROUTE_MILES"⟩, ⟨"SERIAL"⟩] ∧
      key.column ∈ columns.map (·.column) ∧
      l.2 = "ROUTE_FROM_DEPOT_ID" ∧ filePlanner.RefersFrom consignment l reference := by
  obtain ⟨plan, trail, returned⟩ := Session.exists_returns
    (s := filePlanner.planCreate consignment) (t := { source := ({} : Inventory) })
    (by decide +kernel)
  have written : consignment.declared.map (fun l => filePlanner.written l.2) =
      [⟨"ROUTE_FROM_DEPOT_ID"⟩, ⟨"ROUTE_MILES"⟩, ⟨"SERIAL"⟩] := by decide +kernel
  have refer : consignment.referring.map (·.2) = ["ROUTE_FROM_DEPOT_ID"] := by decide +kernel
  have plain : consignment.keyAttribute.toOption.map (·.isEmbedded) = some false := by decide +kernel
  obtain ⟨l, single, named⟩ := List.map_eq_singleton_iff.1 refer
  obtain ⟨owner, columns, key, references, keyed, own, statements, declares, refers, -, hkeyed, -, -,
    key_iff⟩ := planCreate_declares_key_iff returned
  rw [single] at refers
  obtain ⟨reference, _, first, rest, rfl⟩ := List.forall₂_cons_left_iff.1 refers
  obtain rfl := List.forall₂_nil_left_iff.1 rest
  rw [hkeyed] at plain
  exact ⟨plan, trail, owner, columns, key, l, reference, returned, statements,
    declares.trans written, key_iff.2 (.inl (Option.some.inj plain)), named, first⟩

end Planner

end SchemaDrift
