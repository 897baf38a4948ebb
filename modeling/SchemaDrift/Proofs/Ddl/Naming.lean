import SchemaDrift.Proofs.Ddl.Addition
import SchemaDrift.Proofs.Ddl.Places
import SchemaDrift.Proofs.Identifier.Token
import SchemaDrift.Metadata.Inventory

/-!
# One rule for names

Every operation of a composer that writes names as identifiers writes them by the rules of the
dialect: all but the names of sequences and of three columns that are laid down (those of the table
behind a sequence, and the deletion stamp of an index), which it only puts in upper case. The main
statement `writes_names_iff` says so place by place, and when this makes no difference.
-/

namespace SchemaDrift

open Document (Value)

/-- A name, and the way in which it is written. -/
inductive Naming where
  /-- By the rules of the dialect. -/
  | ruled (name : Value)
  /-- Only put in upper case. -/
  | capital (name : String)
  deriving Repr, DecidableEq

namespace Naming

def name : Naming → String
  | ruled v => v.display
  | capital name => name

def written (q : Quoter) : Naming → Identifier
  | ruled v => q.identifier v.display
  | capital name => ⟨Text.upper name⟩

/-- Names that are all written by the rules of the dialect. -/
def ofNames (names : List Value) : List Naming := names.map ruled

end Naming

open Naming (ofNames)

namespace Composer

/-- The operations of a composer that write names as identifiers. -/
inductive Operation where
  | createTable (e : Entity)
  | dropTable (table : Value)
  | dropTableConstraints (table : Value)
  | addColumn (e : Entity) (a : Attribute) (column : Value) (tableHasRows : Bool)
  | addColumnOfType (table column : Value) (type : TypeName) (notNull : Bool)
  | fillNulls (table column : Value) (value : String)
  | dropColumn (table column : Value)
  | dropDependencies (table column : Value)
  | dropColumnFully (table column : Value)
  | alterLength (e : Entity) (a : Attribute) (type : String) (column : Value)
  | alterDecimal (e : Entity) (a : Attribute) (type : String) (column : Value)
  | alterType (e : Entity) (a : Attribute) (type : String) (column : Value)
  | alterMandatory (table column : Value) (spec : ColumnSpec) (mandatory : Bool)
  | alterToAttribute (e : Entity) (a : Attribute) (column : Value)
  | addPrimaryKey (e : Entity) (notNull : Bool)
  | addForeignKey (e : Entity) (a : Attribute) (column : Value)
  | createSequence (name : String) (start increment : Value)
  | dropSequence (name : String)
  | dropConstraint (table constraint : Value)
  | dropIndex (table index : Value)
  | createIndex (e : Entity) (index : Value) (columns : List Value) (unique : Bool)
  | columnDefinition (e : Entity) (a : Attribute) (column : Value) (notNull : Bool)
  | primaryKey (e : Entity)
  | foreignKeyName (table column : Value)

variable {σ : Type}

def part {α : Type} (f : α → Composition) (r : Except Fault α) : Session σ (List Composition) := do
  return [f (← r)]

def parts (s : Session σ (List Statement)) : Session σ (List Composition) := do
  return (← s).map .statement

/-- What a composer composes beside a metadata source. -/
def Operation.run (b : Composer) (P : Provider σ) : Operation → Session σ (List Composition)
  | createTable e => part .statement (b.createTable e)
  | dropTable table => part .statement (b.dropTable table)
  | dropTableConstraints table => parts (b.dropTableConstraints P table)
  | addColumn e a column tableHasRows => parts (b.addColumn e a column tableHasRows)
  | addColumnOfType table column type notNull =>
    part .statement (b.addColumnOfType table column type notNull)
  | fillNulls table column value => part .statement (b.fillNulls table column value)
  | dropColumn table column => part .statement (b.dropColumn table column)
  | dropDependencies table column => parts (b.dropDependencies P table column)
  | dropColumnFully table column => parts (b.dropColumnFully P table column)
  | alterLength e a type column => part .statement (b.alterLength e a type column)
  | alterDecimal e a type column => part .statement (b.alterDecimal e a type column)
  | alterType e a type column => part .statement (b.alterType e a type column)
  | alterMandatory table column spec mandatory =>
    part .statement (b.alterMandatory table column spec mandatory)
  | alterToAttribute e a column => parts (liftM (b.alterToAttribute e a column))
  | addPrimaryKey e notNull => parts (liftM (b.addPrimaryKey e notNull))
  | addForeignKey e a column => part .statement (b.addForeignKey e a column)
  | createSequence name start increment =>
    part .statement (.ok (b.createSequence name start increment))
  | dropSequence name => part .statement (.ok (b.dropSequence name))
  | dropConstraint table constraint => part .statement (b.dropConstraint table constraint)
  | dropIndex table index => part .statement (b.dropIndex table index)
  | createIndex e index columns unique => part .statement (b.createIndex e index columns unique)
  | columnDefinition e a column notNull => part .definition (b.columnDefinition e a column notNull)
  | primaryKey e => part .key (b.primaryKey e)
  | foreignKeyName table column => part .name (b.foreignKeyName table column)

/-! ### The names of an operation -/

def leafName (leaf : Attribute.Leaf) : Except Fault Value := do
  columnOr (← leaf.2) leaf.1

def keyName (e : Entity) : Except Fault Value := do
  (← e.keyAttribute).columnName

def primaryKeyName (table : Value) : Value := .text ("PK_" ++ table.display)

def referenceName (table column : Value) : Value :=
  .text ("FK_" ++ table.display ++ "_" ++ column.display)

/-- Whether an index takes the deletion stamp to its columns. -/
def stamps (b : Composer) (e : Entity) (columns : List Value) (unique : Bool) : Bool :=
  unique && e.softDelete && b.config.deleteStampInUniqueIndex &&
    deletionStamp ∉ (ofNames columns).map (·.written b.catalog.quoter)

/-- The names in the drop of what was found to depend on a column. -/
def NamesDependency (P : Provider σ) (t : Trail σ) (table column : Value) (ns : List Naming) : Prop :=
  ∃ foreignKeys defaults indexes u,
    (lookUpDependencies P table column).Returns t (foreignKeys, defaults, indexes) u ∧
      ((∃ constraint ∈ foreignKeys ++ defaults, ns = ofNames [table, constraint]) ∨
        ∃ index ∈ indexes, ns = ofNames [index.name, table])

/-- The names in one composition of an operation, in the order of the text. -/
def Operation.Names (b : Composer) (P : Provider σ) (t : Trail σ) : Operation → List Naming → Prop
  | createTable e, ns => ∃ columns key, e.leaves.mapM leafName = .ok columns ∧ keyName e = .ok key ∧
      ns = ofNames (e.table :: columns ++ [key])
  | dropTable table, ns => ns = ofNames [table]
  | dropTableConstraints table, ns => ∃ found u,
      (P.within (P.foreignKeys table .null)).Returns t found u ∧
        ∃ constraint ∈ found, ns = ofNames [table, constraint]
  | addColumn e a column _, ns => ∃ leaf ∈ addedColumns a column, ∃ name, leafName leaf = .ok name ∧
      (ns = ofNames [e.table, name] ∨ ns = ofNames [e.table, name, name])
  | fillNulls table column _, ns => ns = ofNames [table, column, column]
  | dropColumn table column, ns | addColumnOfType table column _ _, ns
  | alterMandatory table column _ _, ns => ns = ofNames [table, column]
  | dropDependencies table column, ns => NamesDependency P t table column ns
  | dropColumnFully table column, ns =>
    NamesDependency P t table column ns ∨ ns = ofNames [table, column]
  | alterLength e a _ column, ns | alterDecimal e a _ column, ns | alterType e a _ column, ns
  | alterToAttribute e a column, ns =>
    ∃ name, columnOr column a = .ok name ∧ ns = ofNames [e.table, name]
  | addPrimaryKey e _, ns => ∃ key, keyName e = .ok key ∧
      (ns = ofNames [e.table, key] ∨ ns = ofNames [e.table, primaryKeyName e.table, key])
  | addForeignKey e a column, ns => ∃ name target, columnOr column a = .ok name ∧
      a.field.reference? = some target ∧
      ns = ofNames [e.table, referenceName e.table name, name, target, a.field.targetColumn]
  | createSequence name _ _, ns => ns = [.capital name, .capital "ID", .capital "CREATE_TS"]
  | dropSequence name, ns => ns = [.capital name]
  | dropConstraint table constraint, ns => ns = ofNames [table, constraint]
  | dropIndex table index, ns => ns = ofNames [index, table]
  | createIndex e index columns unique, ns => ns = ofNames (index :: e.table :: columns) ++
      if b.stamps e columns unique then [.capital "DELETE_TS"] else []
  | columnDefinition _ a column _, ns => ∃ name, columnOr column a = .ok name ∧ ns = ofNames [name]
  | primaryKey e, ns => ∃ key, keyName e = .ok key ∧ ns = ofNames [key]
  | foreignKeyName table column, ns => ns = ofNames [referenceName table column]

/-! ### What is written in the places -/

variable {b : Composer} {P : Provider σ} {t t' : Trail σ} {s : Statement} {ss : List Statement}
  {table column : Value} {e : Entity} {a : Attribute}

/-- An identifier that is written for a name. -/
inductive Puts (b : Composer) : Naming → Identifier → Prop
  | ruled {v : Value} {i : Identifier} (h : b.identify v = .ok i) : Puts b (.ruled v) i
  | capital (name : String) : Puts b (.capital name) ⟨Text.upper name⟩

/-- The identifiers of a composition are written for these names. -/
def Writes (b : Composer) (c : Composition) (ns : List Naming) : Prop :=
  List.Forall₂ b.Puts ns c.identifiers

theorem puts_ofNames {names : List Value} {is : List Identifier}
    (h : List.Forall₂ (fun v i => b.identify v = .ok i) names is) :
    List.Forall₂ b.Puts (ofNames names) is := by
  rw [ofNames, List.forall₂_map_left_iff]
  apply h.imp
  intro v i hi
  exact .ruled hi

theorem eq_written_of_puts {n : Naming} {i : Identifier} (h : b.Puts n i) :
    i = n.written b.catalog.quoter ∧ ∀ v, n = .ruled v → ∃ name, v = .text name := by
  cases h with
  | @ruled v i hi =>
    obtain ⟨name, rfl, rfl⟩ := Quoter.exists_text_of_identify hi
    refine ⟨rfl, ?_⟩
    rintro v same
    cases same
    exact ⟨name, rfl⟩
  | capital name =>
    refine ⟨rfl, ?_⟩
    intro v same
    cases same

theorem names_of_puts {ns : List Naming} {is : List Identifier} (h : List.Forall₂ b.Puts ns is) :
    is = ns.map (·.written b.catalog.quoter) ∧ ∀ v, .ruled v ∈ ns → ∃ name, v = .text name := by
  induction h with
  | nil => exact ⟨rfl, by simp⟩
  | @cons n i ns is first _ ih =>
    obtain ⟨same, named⟩ := eq_written_of_puts first
    refine ⟨by rw [List.map_cons, ← same, ← ih.1], ?_⟩
    intro v hv
    rcases List.mem_cons.1 hv with head | tail
    · exact named v head.symm
    · exact ih.2 v tail

/-! ### Single statements -/

theorem writes_dropConstraint {constraint : Value} (h : b.dropConstraint table constraint = .ok s) :
    b.Writes (.statement s) (ofNames [table, constraint]) := by
  obtain ⟨owner, dropped, howner, hdropped, rfl⟩ := command_of_dropConstraint h
  exact .cons (.ruled howner) (.cons (.ruled hdropped) .nil)

theorem writes_dropIndex {index : Value} (h : b.dropIndex table index = .ok s) :
    b.Writes (.statement s) (ofNames [index, table]) := by
  obtain ⟨owner, dropped, howner, hdropped, rfl⟩ := command_of_dropIndex h
  exact .cons (.ruled hdropped) (.cons (.ruled howner) .nil)

theorem writes_dropColumn (h : b.dropColumn table column = .ok s) :
    b.Writes (.statement s) (ofNames [table, column]) := by
  obtain ⟨owner, dropped, howner, hdropped, rfl⟩ := issues_dropColumn h
  exact .cons (.ruled howner) (.cons (.ruled hdropped) .nil)

theorem writes_fillNulls {value : String} (h : b.fillNulls table column value = .ok s) :
    b.Writes (.statement s) (ofNames [table, column, column]) := by
  obtain ⟨owner, filled, howner, hfilled, rfl⟩ := command_of_fillNulls h
  exact .cons (.ruled howner) (.cons (.ruled hfilled) (.cons (.ruled hfilled) .nil))

theorem writes_alterMandatory {spec : ColumnSpec} {mandatory : Bool}
    (h : b.alterMandatory table column spec mandatory = .ok s) :
    b.Writes (.statement s) (ofNames [table, column]) := by
  obtain ⟨owner, altered, howner, haltered, rfl⟩ := command_of_alterMandatory h
  exact .cons (.ruled howner) (.cons (.ruled haltered) .nil)

theorem writes_restate {type : String} {parameters : Parameters}
    (h : b.restate e a column type parameters = .ok s) :
    ∃ name, columnOr column a = .ok name ∧
      b.Writes (.statement s) (ofNames [e.table, name]) := by
  obtain ⟨name, owner, altered, hname, howner, haltered, rfl⟩ := command_of_restate h
  exact ⟨name, hname, .cons (.ruled howner) (.cons (.ruled haltered) .nil)⟩

theorem writes_foreignKey {target targetColumn : Value}
    (h : b.foreignKey table column target targetColumn = .ok s) :
    b.Writes (.statement s)
      (ofNames [table, referenceName table column, column, target, targetColumn]) := by
  obtain ⟨owner, constraint, referring, referred, referredColumn, howner, hconstraint, hreferring,
    hreferred, hcolumn, rfl⟩ := command_of_foreignKey h
  exact .cons (.ruled howner) (.cons (.ruled hconstraint) (.cons (.ruled hreferring)
    (.cons (.ruled hreferred) (.cons (.ruled hcolumn) .nil))))

theorem writes_addPrimaryKey {notNull : Bool} (h : b.addPrimaryKey e notNull = .ok ss) :
    ∀ s ∈ ss, ∃ key, keyName e = .ok key ∧ (b.Writes (.statement s) (ofNames [e.table, key]) ∨
      b.Writes (.statement s) (ofNames [e.table, primaryKeyName e.table, key])) := by
  obtain ⟨keyed, own, required, owner, constraint, identifier, hkeyed, hown, hidentifier, howner,
    hconstraint, hrequired, -, rfl⟩ := names_of_addPrimaryKey h
  have key : keyName e = .ok own := by rw [keyName, hkeyed, ok_bind, hown]
  intro s hs
  refine ⟨own, key, ?_⟩
  rcases List.mem_append.1 hs with before | added
  · obtain ⟨spec, -, restated⟩ := bind_eq_ok.1 (hrequired s before)
    exact .inl (writes_alterMandatory restated)
  · obtain rfl := List.mem_singleton.1 added
    exact .inr (.cons (.ruled howner) (.cons (.ruled hconstraint) (.cons (.ruled hidentifier) .nil)))

theorem names_of_leafDefinitions {leaves : List Attribute.Leaf} {columns : List ColumnDefinition}
    (h : List.Forall₂ (fun leaf d => b.leafDefinition e leaf = .ok d) leaves columns) :
    ∃ names, leaves.mapM leafName = .ok names ∧
      List.Forall₂ (fun v i => b.identify v = .ok i) names (columns.map (·.column)) := by
  induction h with
  | nil => exact ⟨[], rfl, .nil⟩
  | @cons leaf d leaves columns first _ ih =>
    obtain ⟨names, hnames, others⟩ := ih
    obtain ⟨v, hv, defined⟩ := bind_eq_ok.1 first
    obtain ⟨name, hname, hcolumn⟩ := identify_of_columnDefinition defined
    refine ⟨name :: names, ?_, .cons hcolumn others⟩
    have own : leafName leaf = .ok name := by rw [leafName, hv, ok_bind, hname]
    rw [List.mapM_cons, own, hnames]
    rfl

theorem keyName_of_primaryKey {key : PrimaryKey} (h : b.primaryKey e = .ok key) :
    ∃ own, keyName e = .ok own ∧ b.identify own = .ok key.column := by
  obtain ⟨keyed, own, hkeyed, hown, hidentifier⟩ := names_of_primaryKey h
  refine ⟨own, ?_, hidentifier⟩
  rw [keyName, hkeyed, ok_bind, hown]

theorem writes_createTable (h : b.createTable e = .ok s) :
    ∃ columns key, e.leaves.mapM leafName = .ok columns ∧ keyName e = .ok key ∧
      b.Writes (.statement s) (ofNames (e.table :: columns ++ [key])) := by
  obtain ⟨owner, definitions, key, hdefinitions, hkey, howner, rfl⟩ := command_of_createTable h
  obtain ⟨columns, hcolumns, identified⟩ := names_of_leafDefinitions (mapM_eq_ok.1 hdefinitions)
  obtain ⟨own, hown, hidentifier⟩ := keyName_of_primaryKey hkey
  refine ⟨columns, own, hcolumns, hown, ?_⟩
  rw [Writes, issue, Composition.identifiers_createTable]
  exact puts_ofNames (.cons howner (List.rel_append identified (.cons hidentifier .nil)))

theorem writes_createIndex {index : Value} {columns : List Value} {unique : Bool}
    (h : b.createIndex e index columns unique = .ok s) :
    b.Writes (.statement s) (ofNames (index :: e.table :: columns) ++
      if b.stamps e columns unique then [.capital "DELETE_TS"] else []) := by
  obtain ⟨listed, hlisted, h⟩ := bind_eq_ok.1 h
  obtain ⟨created, hcreated, h⟩ := bind_eq_ok.1 h
  obtain ⟨owner, howner, h⟩ := bind_eq_ok.1 h
  obtain rfl := pure_eq_ok.1 h
  have identified := mapM_eq_ok.1 hlisted
  have named := puts_ofNames (.cons hcreated (.cons howner identified))
  have stamp : deletionStamp = ⟨Text.upper "DELETE_TS"⟩ := by decide +kernel
  have written := (names_of_puts (puts_ofNames identified)).1
  rw [Writes, issue, Composition.identifiers_createIndex, indexColumns, stamps, ← written]
  split
  · rw [stamp]
    exact List.rel_append named (.cons (.capital _) .nil)
  · rw [List.append_nil]
    exact named

/-! ### Several statements -/

theorem writes_additions {tableHasRows : Bool} (h : b.Additions e a column tableHasRows ss) :
    ∀ s ∈ ss, b.Writes (.statement s) (ofNames [e.table, column]) ∨
      b.Writes (.statement s) (ofNames [e.table, column, column]) := by
  have once {owner identifier : Identifier} (howner : b.identify e.table = .ok owner)
      (hidentifier : b.identify column = .ok identifier) :
      List.Forall₂ b.Puts (ofNames [e.table, column]) [owner, identifier] :=
    puts_ofNames (.cons howner (.cons hidentifier .nil))
  cases h with
  | direct _ howner named =>
    intro s hs
    rw [List.mem_singleton.1 hs]
    exact .inl (once howner named)
  | filled _ howner named =>
    have twice := puts_ofNames (.cons howner (.cons named (.cons named .nil)))
    simp only [List.forall_mem_cons]
    exact ⟨.inl (once howner named), .inr twice, .inl (once howner named), by simp⟩
  | unfilled _ howner named =>
    simp only [List.forall_mem_cons]
    exact ⟨.inl (once howner named), .inl (once howner named), by simp⟩

theorem writes_addColumn {tableHasRows : Bool}
    (h : (b.addColumn e a column tableHasRows : Session σ _).Returns t ss t') :
    ∀ s ∈ ss, ∃ leaf ∈ addedColumns a column, ∃ name, leafName leaf = .ok name ∧
      (b.Writes (.statement s) (ofNames [e.table, name]) ∨
        b.Writes (.statement s) (ofNames [e.table, name, name])) := by
  obtain ⟨groups, each, rfl⟩ := returns_addColumn_additions h
  intro s hs
  obtain ⟨group, hgroup, hs⟩ := List.mem_flatten.1 hs
  obtain ⟨leaf, hleaf, name, hname, additions⟩ := exists_of_mem_forall₂ each.flip hgroup
  have own := columnOr_of_mem_addedColumns hleaf hname
  refine ⟨leaf, hleaf, .text name, ?_, writes_additions additions s hs⟩
  rw [leafName, hname, ok_bind, own]

theorem writes_dropConstraints {constraints : List Value}
    (h : b.dropConstraints table constraints = .ok ss) :
    ∀ s ∈ ss, ∃ constraint ∈ constraints, b.Writes (.statement s) (ofNames [table, constraint]) := by
  intro s hs
  obtain ⟨constraint, hconstraint, drops⟩ := exists_of_mem_forall₂ (mapM_eq_ok.1 h).flip hs
  exact ⟨constraint, hconstraint, writes_dropConstraint drops⟩

theorem writes_unmanagedDrop {index : Index} (h : b.unmanagedDrop table index = .ok ss) :
    ∀ s ∈ ss, b.Writes (.statement s) (ofNames [index.name, table]) := by
  obtain ⟨managed, -, h⟩ := bind_eq_ok.1 h
  cases managed with
  | true =>
    obtain rfl := pure_eq_ok.1 h
    simp
  | false =>
    obtain ⟨drop, hdrop, h⟩ := bind_eq_ok.1 h
    obtain rfl := pure_eq_ok.1 h
    intro s hs
    rw [List.mem_singleton.1 hs]
    exact writes_dropIndex hdrop

theorem writes_dropDependencies (h : (b.dropDependencies P table column).Returns t ss t') :
    ∀ s ∈ ss, ∃ ns, NamesDependency P t table column ns ∧ b.Writes (.statement s) ns := by
  obtain ⟨foreignKeys, defaults, indexes, u, found, drops, -⟩ := returns_dropDependencies h
  obtain ⟨keyDrops, hkeys, drops⟩ := bind_eq_ok.1 drops
  obtain ⟨defaultDrops, hdefaults, drops⟩ := bind_eq_ok.1 drops
  obtain ⟨groups, hgroups, drops⟩ := bind_eq_ok.1 drops
  obtain rfl := pure_eq_ok.1 drops
  have constrained {constraint : Value} (among : constraint ∈ foreignKeys ++ defaults) :
      NamesDependency P t table column (ofNames [table, constraint]) :=
    ⟨foreignKeys, defaults, indexes, u, found, .inl ⟨constraint, among, rfl⟩⟩
  intro s hs
  rw [List.mem_append, List.mem_append] at hs
  rcases hs with (key | default) | index
  · obtain ⟨constraint, among, writes⟩ := writes_dropConstraints hkeys s key
    exact ⟨_, constrained (List.mem_append_left _ among), writes⟩
  · obtain ⟨constraint, among, writes⟩ := writes_dropConstraints hdefaults s default
    exact ⟨_, constrained (List.mem_append_right _ among), writes⟩
  · obtain ⟨group, hgroup, hs⟩ := List.mem_flatten.1 index
    obtain ⟨i, hi, unmanaged⟩ := exists_of_mem_forall₂ (mapM_eq_ok.1 hgroups).flip hgroup
    have named : NamesDependency P t table column (ofNames [i.name, table]) :=
      ⟨foreignKeys, defaults, indexes, u, found, .inr ⟨i, hi, rfl⟩⟩
    exact ⟨_, named, writes_unmanagedDrop unmanaged s hs⟩

theorem writes_dropTableConstraints (h : (b.dropTableConstraints P table).Returns t ss t') :
    ∃ found u, (P.within (P.foreignKeys table .null)).Returns t found u ∧
      ∀ s ∈ ss, ∃ constraint ∈ found, b.Writes (.statement s) (ofNames [table, constraint]) := by
  obtain ⟨found, u, hfound, h⟩ := Session.returns_bind.1 h
  obtain ⟨drops, hdrops, h⟩ := Session.returns_lift_bind.1 h
  obtain ⟨_, v, _, h⟩ := Session.returns_bind.1 h
  obtain ⟨rfl, -⟩ := Session.returns_pure.1 h
  exact ⟨found, u, hfound, writes_dropConstraints hdrops⟩

/-! ### Whole operations -/

variable {cs : List Composition} {Q : Composition → Prop}

theorem forall_of_returns_part {α : Type} {f : α → Composition} {r : Except Fault α}
    (h : (part f r : Session σ _).Returns t cs t') (each : ∀ x, r = .ok x → Q (f x)) :
    ∀ c ∈ cs, Q c := by
  obtain ⟨x, hx, h⟩ := Session.returns_lift_bind.1 h
  obtain ⟨rfl, -⟩ := Session.returns_pure.1 h
  intro c hc
  rw [List.mem_singleton.1 hc]
  exact each x hx

theorem forall_of_returns_parts {session : Session σ (List Statement)}
    (h : (parts session).Returns t cs t')
    (each : ∀ ss, session.Returns t ss t' → ∀ s ∈ ss, Q (.statement s)) : ∀ c ∈ cs, Q c := by
  obtain ⟨ss, u, hss, h⟩ := Session.returns_bind.1 h
  obtain ⟨rfl, rfl⟩ := Session.returns_pure.1 h
  intro c hc
  obtain ⟨s, hs, rfl⟩ := List.mem_map.1 hc
  exact each ss hss s hs

/-- Whatever an operation composes is written for the names of the operation. -/
theorem writes_of_returns {op : Operation} (h : (op.run b P).Returns t cs t') :
    ∀ c ∈ cs, ∃ ns, op.Names b P t ns ∧ b.Writes c ns := by
  -- An operation composes one part, or statements beside a session; each case names them.
  cases op with
  | createTable e =>
    refine forall_of_returns_part h fun s hs => ?_
    obtain ⟨columns, key, hcolumns, hkey, writes⟩ := writes_createTable hs
    exact ⟨_, ⟨columns, key, hcolumns, hkey, rfl⟩, writes⟩
  | dropTable table =>
    refine forall_of_returns_part h fun s hs => ?_
    obtain ⟨owner, howner, hs⟩ := bind_eq_ok.1 hs
    obtain rfl := pure_eq_ok.1 hs
    exact ⟨_, rfl, .cons (.ruled howner) .nil⟩
  | dropTableConstraints table =>
    refine forall_of_returns_parts h fun ss hss s hs => ?_
    obtain ⟨found, u, hfound, each⟩ := writes_dropTableConstraints hss
    obtain ⟨constraint, among, writes⟩ := each s hs
    exact ⟨_, ⟨found, u, hfound, constraint, among, rfl⟩, writes⟩
  | addColumn e a column tableHasRows =>
    refine forall_of_returns_parts h fun ss hss s hs => ?_
    obtain ⟨leaf, hleaf, name, hname, writes | writes⟩ := writes_addColumn hss s hs
    · exact ⟨_, ⟨leaf, hleaf, name, hname, .inl rfl⟩, writes⟩
    · exact ⟨_, ⟨leaf, hleaf, name, hname, .inr rfl⟩, writes⟩
  | addColumnOfType table column type notNull =>
    refine forall_of_returns_part h fun s hs => ?_
    obtain ⟨_, -, hs⟩ := bind_eq_ok.1 hs
    obtain ⟨owner, howner, hs⟩ := bind_eq_ok.1 hs
    obtain ⟨added, hadded, hs⟩ := bind_eq_ok.1 hs
    obtain rfl := pure_eq_ok.1 hs
    exact ⟨_, rfl, .cons (.ruled howner) (.cons (.ruled hadded) .nil)⟩
  | fillNulls table column value =>
    exact forall_of_returns_part h fun s hs => ⟨_, rfl, writes_fillNulls hs⟩
  | dropColumn table column =>
    exact forall_of_returns_part h fun s hs => ⟨_, rfl, writes_dropColumn hs⟩
  | dropDependencies table column =>
    exact forall_of_returns_parts h fun ss hss => writes_dropDependencies hss
  | dropColumnFully table column =>
    refine forall_of_returns_parts h fun ss hss s hs => ?_
    obtain ⟨dependencies, u, before, hss⟩ := Session.returns_bind.1 hss
    obtain ⟨drop, hdrop, hss⟩ := Session.returns_lift_bind.1 hss
    obtain ⟨rfl, -⟩ := Session.returns_pure.1 hss
    rcases List.mem_append.1 hs with dependency | column
    · obtain ⟨ns, named, writes⟩ := writes_dropDependencies before s dependency
      exact ⟨ns, .inl named, writes⟩
    · rw [List.mem_singleton.1 column]
      exact ⟨_, .inr rfl, writes_dropColumn hdrop⟩
  | alterLength e a type column | alterDecimal e a type column | alterType e a type column =>
    refine forall_of_returns_part h fun s hs => ?_
    obtain ⟨name, hname, writes⟩ := writes_restate hs
    exact ⟨_, ⟨name, hname, rfl⟩, writes⟩
  | alterMandatory table column spec mandatory =>
    exact forall_of_returns_part h fun s hs => ⟨_, rfl, writes_alterMandatory hs⟩
  | alterToAttribute e a column =>
    refine forall_of_returns_parts h fun ss hss s hs => ?_
    obtain ⟨altered, -⟩ := Session.returns_lift.1 hss
    rcases command_of_alterToAttribute altered with ⟨-, rfl⟩ | ⟨-, owner, definition, howner,
      defines, rfl⟩
    · cases hs
    · obtain ⟨name, hname, hcolumn⟩ := identify_of_columnDefinition defines
      rw [List.mem_singleton.1 hs]
      exact ⟨_, ⟨name, hname, rfl⟩, .cons (.ruled howner) (.cons (.ruled hcolumn) .nil)⟩
  | addPrimaryKey e notNull =>
    refine forall_of_returns_parts h fun ss hss s hs => ?_
    obtain ⟨key, hkey, writes | writes⟩ :=
      writes_addPrimaryKey (Session.returns_lift.1 hss).1 s hs
    · exact ⟨_, ⟨key, hkey, .inl rfl⟩, writes⟩
    · exact ⟨_, ⟨key, hkey, .inr rfl⟩, writes⟩
  | addForeignKey e a column =>
    refine forall_of_returns_part h fun s hs => ?_
    obtain ⟨name, target, hname, refers, hs⟩ := foreignKey_of_addForeignKey hs
    exact ⟨_, ⟨name, target, hname, refers, rfl⟩, writes_foreignKey hs⟩
  | createSequence name start increment =>
    -- The columns of the table behind a sequence are laid down in capitals already.
    refine forall_of_returns_part h fun s hs => ?_
    cases hs
    have fixed : Text.upper "ID" = "ID" ∧ Text.upper "CREATE_TS" = "CREATE_TS" := by
      decide +kernel
    refine ⟨_, rfl, .cons (.capital name) ?_⟩
    have columns := List.Forall₂.cons (Puts.capital (b := b) "ID") (.cons (.capital "CREATE_TS") .nil)
    rwa [fixed.1, fixed.2] at columns
  | dropSequence name =>
    refine forall_of_returns_part h fun s hs => ?_
    cases hs
    exact ⟨_, rfl, .cons (.capital name) .nil⟩
  | dropConstraint table constraint =>
    exact forall_of_returns_part h fun s hs => ⟨_, rfl, writes_dropConstraint hs⟩
  | dropIndex table index =>
    exact forall_of_returns_part h fun s hs => ⟨_, rfl, writes_dropIndex hs⟩
  | createIndex e index columns unique =>
    exact forall_of_returns_part h fun s hs => ⟨_, rfl, writes_createIndex hs⟩
  | columnDefinition e a column notNull =>
    refine forall_of_returns_part h fun d hd => ?_
    obtain ⟨name, hname, hcolumn⟩ := identify_of_columnDefinition hd
    exact ⟨_, ⟨name, hname, rfl⟩, .cons (.ruled hcolumn) .nil⟩
  | primaryKey e =>
    refine forall_of_returns_part h fun k hk => ?_
    obtain ⟨own, hown, hidentifier⟩ := keyName_of_primaryKey hk
    exact ⟨_, ⟨own, hown, rfl⟩, .cons (.ruled hidentifier) .nil⟩
  | foreignKeyName table column =>
    exact forall_of_returns_part h fun i hi => ⟨_, rfl, .cons (.ruled hi) .nil⟩

/-! ### One rule -/

/-- What is written for names is what the rules make of them, where capitals are. -/
theorem written_eq_identifier_iff {q : Quoter} {ns : List Naming} :
    ns.map (·.written q) = ns.map (fun n => q.identifier n.name) ↔
      ∀ name, .capital name ∈ ns → q.normalize name = Text.upper name := by
  rw [List.map_inj_left]
  constructor
  · intro alike name hname
    have same : (⟨Text.upper name⟩ : Identifier) = q.identifier name := alike _ hname
    exact (congrArg Identifier.text same).symm
  · intro capitals n hn
    cases n with
    | ruled v => rfl
    | capital name =>
      have same := capitals name hn
      show (⟨Text.upper name⟩ : Identifier) = ⟨q.normalize name⟩
      rw [same]

/--
What an operation composes is text with identifiers in their places, which are written for the
names of the operation in their order. They are those that the rules of the dialect make of the
names exactly if the rules do no more than put the name of a sequence, or of a column that is laid
down, in upper case: with marks for quotes, if it needs no quotes.
-/
theorem writes_names_iff {op : Operation} (h : (op.run b P).Returns t cs t') :
    ∀ c ∈ cs, c.text = Piece.joined c.pieces ∧ ∃ ns, op.Names b P t ns ∧
      (∀ v, .ruled v ∈ ns → ∃ name, v = .text name) ∧
      c.identifiers = ns.map (·.written b.catalog.quoter) ∧
      (c.identifiers = ns.map (fun n => b.catalog.quoter.identifier n.name) ↔
        ∀ name, .capital name ∈ ns → b.catalog.quoter.normalize name = Text.upper name) ∧
      ∀ o k, b.catalog.QuotesWith o k →
        (∀ name, .capital name ∈ ns → b.catalog.quoter.isQuoted name = false) →
        (c.identifiers = ns.map (fun n => b.catalog.quoter.identifier n.name) ↔
          ∀ name, .capital name ∈ ns → b.catalog.quoter.needsQuoting (Text.upper name) = false) := by
  intro c hc
  obtain ⟨ns, named, writes⟩ := writes_of_returns h c hc
  obtain ⟨written, texts⟩ := names_of_puts writes
  have alike : c.identifiers = ns.map (fun n => b.catalog.quoter.identifier n.name) ↔
      ∀ name, .capital name ∈ ns → b.catalog.quoter.normalize name = Text.upper name := by
    rw [written]
    exact written_eq_identifier_iff
  refine ⟨c.text_eq_joined, ns, named, texts, written, alike, ?_⟩
  intro o k quotes unquoted
  rw [alike]
  have plain (name : String) (hname : .capital name ∈ ns) :
      b.catalog.quoter.normalize name = Text.upper name ↔
        b.catalog.quoter.needsQuoting (Text.upper name) = false :=
    quotes.isMarked.isPunctuated.normalize_eq_upper_iff (unquoted name hname)
  exact forall₂_congr plain

/-- An entity whose rows are marked as deleted. -/
def visitor : Entity where
  name := "Visitor"
  table := "VISITOR"
  softDelete := true

/-- A dialect that reserves the name of the deletion stamp. -/
def stampReserved : Catalog := { Catalog.access with reservedWords := ["DELETE_TS"] }

/-- A reserved name is in no quotes where it names a sequence, nor is the deletion stamp. -/
theorem createSequence_order_unquoted :
    Catalog.access.quoter.normalize "order" = "[ORDER]" ∧
      ((ofConfig .access default).createSequence "order" (.int 1) (.int 1)).text =
        "create table ORDER (ID bigint identity(1,1), CREATE_TS datetime) ;" ∧
      (Composition.statement
        ((ofConfig .access default).createSequence "order" (.int 1) (.int 1))).identifiers =
          [⟨"ORDER"⟩, ⟨"ID"⟩, ⟨"CREATE_TS"⟩] ∧
      stampReserved.quoter.normalize "DELETE_TS" = "[DELETE_TS]" ∧
      ((ofConfig stampReserved default).createIndex visitor "BADGE" ["number"] true).map (·.text) =
        .ok "create unique index BADGE on VISITOR (NUMBER, DELETE_TS) ^" := by
  refine ⟨by decide +kernel, by decide +kernel, by decide +kernel, by decide +kernel, ?_⟩
  rfl

theorem createIndex_names :
    ∃ cs t' c ns, ((Operation.createIndex visitor "BADGE" ["order", "first name"] true).run
        (ofConfig .access default) Inventory.provider).Returns { source := {} } cs t' ∧ c ∈ cs ∧
      c.text = "create unique index BADGE on VISITOR ([ORDER], [FIRST NAME], DELETE_TS) ^" ∧
      ns = ofNames ["BADGE", "VISITOR", "order", "first name"] ++ [.capital "DELETE_TS"] ∧
      c.identifiers = ns.map (fun n => Catalog.access.quoter.identifier n.name) := by
  obtain ⟨cs, t', returned, texts⟩ := Session.exists_returns_of_map
    (s := (Operation.createIndex visitor "BADGE" ["order", "first name"] true).run
      (ofConfig .access default) Inventory.provider) (t := { source := {} })
    (f := fun cs => cs.map (·.text))
    (b := ["create unique index BADGE on VISITOR ([ORDER], [FIRST NAME], DELETE_TS) ^"])
    (by decide +kernel)
  obtain ⟨c, rfl, text⟩ := List.map_eq_singleton_iff.1 texts
  have hc : c ∈ [c] := List.mem_singleton_self c
  obtain ⟨-, ns, named, -, -, -, alike⟩ := writes_names_iff returned c hc
  have stamped : (ofConfig .access default).stamps visitor ["order", "first name"] true = true := by
    decide +kernel
  have quotes : (ofConfig .access default).catalog.QuotesWith '[' ']' :=
    ⟨rfl, rfl, by decide, by decide⟩
  have whole : ns = ofNames ["BADGE", "VISITOR", "order", "first name"] ++ [.capital "DELETE_TS"] := by
    have named : ns = _ ++ if (ofConfig .access default).stamps visitor ["order", "first name"] true
      then [Naming.capital "DELETE_TS"] else [] := named
    rwa [if_pos stamped] at named
  have stamp {name : String} (hname : .capital name ∈ ns) : name = "DELETE_TS" := by
    rw [whole] at hname
    simpa [ofNames] using hname
  refine ⟨[c], t', c, ns, returned, hc, text, whole, ?_⟩
  refine (alike '[' ']' quotes ?_).2 ?_
  · intro name hname
    rw [stamp hname]
    decide +kernel
  · intro name hname
    rw [stamp hname]
    decide +kernel

end Composer

end SchemaDrift
