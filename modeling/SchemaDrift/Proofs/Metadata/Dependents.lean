import SchemaDrift.Proofs.Metadata.Recorded
import SchemaDrift.Proofs.Model.Typed
import SchemaDrift.Proofs.Planner.Alike

/-!
# What goes with a column

Foreign keys, default constraints and indexes are recorded one after another, each in a list of its
own. The drop of a column takes with it what was recorded of the column, in the order of recording
inside each list, except the indexes that are left to whoever manages them
(`dropColumnFully_drops_recorded`).
-/

namespace SchemaDrift

open Document (Value)

/-- A call that records what hangs on a table or on one of its columns. -/
inductive Recording where
  | foreignKey (table name : String) (column : Option String)
  | defaultConstraint (table column name : String)
  | index (table column name : String) (unique : Bool)
  deriving Repr, DecidableEq

namespace Recording

/-- Whether the recording is one of a column of a table, in whatever case they were written. -/
def isUnder (table column : String) : Recording → Bool
  | foreignKey t _ c =>
    Text.upper t == Text.upper table && c.map Text.upper == some (Text.upper column)
  | defaultConstraint t c _ | index t c _ _ =>
    Text.upper t == Text.upper table && Text.upper c == Text.upper column

def foreignKey? : Recording → Option String
  | foreignKey _ name _ => some name
  | _ => none

def defaultConstraint? : Recording → Option String
  | defaultConstraint _ _ name => some name
  | _ => none

/-- The name of a recorded index, and whether it is unique. -/
def index? : Recording → Option (String × Bool)
  | index _ _ name unique => some (name, unique)
  | _ => none

def recordedKey? : Recording → Option ForeignKeyEntry
  | foreignKey table name column =>
    some ⟨Text.upper table, .text name, (column.map Text.upper).elim .null .text⟩
  | _ => none

def recordedDefault? : Recording → Option DefaultEntry
  | defaultConstraint table column name => some ⟨Text.upper table, Text.upper column, .text name⟩
  | _ => none

def recordedIndex? : Recording → Option IndexEntry
  | index table column name unique =>
    some ⟨Text.upper table, Text.upper column, ⟨.text name, .bool unique⟩⟩
  | _ => none

end Recording

namespace Inventory

variable {i : Inventory} {history : List Recording} {table column : String}

def record (i : Inventory) : Recording → Except Fault Inventory
  | .foreignKey table name column =>
    i.addForeignKey (.text table) (.text name) (column.elim .null .text)
  | .defaultConstraint table column name => i.addDefault (.text table) (.text column) (.text name)
  | .index table column name unique =>
    i.addIndex (.text table) (.text column) ⟨.text name, .bool unique⟩

/-- The records are those of a history, and no lookup is made to fail. -/
structure Records (i : Inventory) (history : List Recording) : Prop where
  foreignKeyEntries : i.foreignKeyEntries = history.filterMap Recording.recordedKey?
  defaultEntries : i.defaultEntries = history.filterMap Recording.recordedDefault?
  indexEntries : i.indexEntries = history.filterMap Recording.recordedIndex?
  answers : ∀ lookup table column, i.fails lookup table column = false

theorem recordedColumn_elim (column : Option String) :
    recordedColumn (column.elim .null .text) = .ok ((column.map Text.upper).elim .null .text) := by
  cases column with
  | none => rfl
  | some c =>
    show recordedColumn (.text c) = .ok (.text (Text.upper c))
    rw [recordedColumn]
    split
    · rfl
    · next blank =>
      have empty : c = "" := by simpa [Value.isTruthy] using blank
      rw [empty]
      rfl

theorem record_eq (i : Inventory) (r : Recording) :
    i.record r = .ok { i with
      foreignKeyEntries := i.foreignKeyEntries ++ r.recordedKey?.toList
      defaultEntries := i.defaultEntries ++ r.recordedDefault?.toList
      indexEntries := i.indexEntries ++ r.recordedIndex?.toList } := by
  cases r <;>
    simp only [Recording.recordedKey?, Recording.recordedDefault?, Recording.recordedIndex?,
      Option.toList_none, Option.toList_some, List.append_nil]
  case foreignKey table name column =>
    rw [record, addForeignKey, recordedColumn_elim]
    rfl
  all_goals rfl

theorem Records.snoc (h : i.Records history) (r : Recording) :
    ∃ j, i.record r = .ok j ∧ j.Records (history ++ [r]) := by
  have added {α : Type} (f : Recording → Option α) :
      (history ++ [r]).filterMap f = history.filterMap f ++ (f r).toList := by
    rw [List.filterMap_append]
    cases recorded : f r <;> simp [recorded]
  refine ⟨_, record_eq i r, ?_, ?_, ?_, h.answers⟩
  · rw [added, h.foreignKeyEntries]
  · rw [added, h.defaultEntries]
  · rw [added, h.indexEntries]

theorem Records.run (h : i.Records history) (later : List Recording) :
    ∃ j, later.foldlM record i = .ok j ∧ j.Records (history ++ later) := by
  induction later generalizing i history with
  | nil => exact ⟨i, rfl, by rwa [List.append_nil]⟩
  | cons r later ih =>
    obtain ⟨j, first, held⟩ := h.snoc r
    obtain ⟨k, rest, held⟩ := ih held
    refine ⟨k, ?_, by simpa using held⟩
    rw [List.foldlM_cons, first]
    exact rest

theorem keysOfColumn_text (entries : List ForeignKeyEntry) (column : String) :
    keysOfColumn entries (.text column) =
      .ok (entries.filter (·.column == .text (Text.upper column))) := by
  rw [keysOfColumn]
  cases entries with
  | nil => rfl
  | cons entry entries => rfl

theorem map_filter_recorded {α β γ : Type} {added? : Recording → Option α} {p : α → Bool}
    {f : α → γ} {under : Recording → Bool} {name? : Recording → Option β} {g : β → γ}
    (named : ∀ r, (added? r).map f = (name? r).map g)
    (kept : ∀ r entry, added? r = some entry → p entry = under r) (history : List Recording) :
    ((history.filterMap added?).filter p).map f =
      ((history.filter under).filterMap name?).map g := by
  rw [List.filter_filterMap, List.map_filterMap, List.filterMap_filter, List.map_filterMap]
  apply List.filterMap_congr
  intro r _
  cases found : added? r with
  | none =>
    have unnamed : (name? r).map g = none := by rw [← named, found, Option.map_none]
    cases under r
    · rfl
    · exact unnamed.symm
  | some entry =>
    have same : (name? r).map g = some (f entry) := by rw [← named, found, Option.map_some]
    rw [Option.filter_some, kept r entry found]
    cases under r
    · rfl
    · exact same.symm

theorem Records.foreignKeys_eq (h : i.Records history) (table column : String) :
    i.foreignKeys (.text table) (.text column) =
      .ok (((history.filter (·.isUnder table column)).filterMap
        Recording.foreignKey?).map .text) := by
  have read : i.foreignKeys (.text table) (.text column) =
      .ok ((i.foreignKeyEntries.filter fun e =>
        e.column == .text (Text.upper column) && e.table == Text.upper table).map (·.name)) := by
    show (keysOfColumn (i.foreignKeyEntries.filter (·.table == Text.upper table)) _ >>= _) = _
    rw [keysOfColumn_text, ok_bind, List.filter_filter]
    rfl
  rw [read, h.foreignKeyEntries]
  refine congrArg Except.ok (map_filter_recorded ?_ ?_ history)
  · intro r
    cases r <;> rfl
  · intro r entry recorded
    cases r with
    | foreignKey t name c =>
      cases recorded
      rw [Bool.eq_iff_iff]
      cases c <;> simp [Recording.isUnder, and_comm]
    | defaultConstraint | index => cases recorded

theorem Records.defaults_eq (h : i.Records history) (table column : String) :
    i.defaults (.text table) (.text column) =
      .ok (((history.filter (·.isUnder table column)).filterMap
        Recording.defaultConstraint?).map .text) := by
  show Except.ok _ = _
  rw [h.defaultEntries]
  refine congrArg Except.ok (map_filter_recorded ?_ ?_ history)
  · intro r
    cases r <;> rfl
  · intro r entry recorded
    cases r with
    | defaultConstraint =>
      cases recorded
      rfl
    | foreignKey | index => cases recorded

theorem Records.indexes_eq (h : i.Records history) (table column : String) :
    i.indexes (.text table) (.text column) =
      .ok (((history.filter (·.isUnder table column)).filterMap Recording.index?).map
        fun index => ⟨.text index.1, .bool index.2⟩) := by
  show Except.ok _ = _
  rw [h.indexEntries]
  refine congrArg Except.ok (map_filter_recorded ?_ ?_ history)
  · intro r
    cases r <;> rfl
  · intro r entry recorded
    cases r with
    | index =>
      cases recorded
      rfl
    | foreignKey | defaultConstraint => cases recorded

theorem returns_answer {α : Type} {lookup : Lookup} {table column : Value}
    {read : Inventory → Except Fault α} {t : Trail Inventory} {found : α}
    (answers : t.source.fails lookup table column = false) (reads : read t.source = .ok found) :
    (answer lookup table column read).Returns t found t := by
  show (ExceptT.run (answer lookup table column read)).run t = _
  rw [run_answer, answers, if_neg Bool.false_ne_true, reads]

/-- Inside one scope, what a column has is looked up as it was recorded. -/
theorem exists_returns_lookUpDependencies {t : Trail Inventory} (same : SameRecords i t.source)
    {table column : Value} (answers : ∀ lookup, t.source.fails lookup table column = false)
    {foreignKeys defaults : List Value} {indexes : List Index}
    (hforeignKeys : i.foreignKeys table column = .ok foreignKeys)
    (hdefaults : i.defaults table column = .ok defaults)
    (hindexes : i.indexes table column = .ok indexes) :
    ∃ t', (Composer.lookUpDependencies provider table column).Returns t
      (foreignKeys, defaults, indexes) t' := by
  have counted : SameRecords i t.source.openScope := same
  rw [← foreignKeys_of_sameRecords counted] at hforeignKeys
  rw [← defaults_of_sameRecords counted] at hdefaults
  rw [← indexes_of_sameRecords counted] at hindexes
  let inner : Trail Inventory := { t with source := t.source.openScope }
  have inside : (do
      let foreignKeys ← provider.foreignKeys table column
      let defaults ← provider.defaults table column
      let indexes ← provider.indexes table column
      return (foreignKeys, defaults, indexes) : Session Inventory _).Returns inner
        (foreignKeys, defaults, indexes) inner := by
    refine Session.returns_bind.2 ⟨foreignKeys, _, returns_answer (answers _) hforeignKeys, ?_⟩
    refine Session.returns_bind.2 ⟨defaults, _, returns_answer (answers _) hdefaults, ?_⟩
    refine Session.returns_bind.2 ⟨indexes, _, returns_answer (answers _) hindexes, ?_⟩
    exact Session.returns_pure.2 ⟨rfl, rfl⟩
  have opened : (Session.modifySource openScope).Returns t () inner :=
    Session.returns_modifySource openScope t
  exact ⟨_, Session.returns_bind.2 ⟨(), inner, opened, inside.ensuring _⟩⟩

end Inventory

namespace Composer

variable {b : Composer} {σ : Type} {table : Value} {foreignKeys defaults : List Value}
  {indexes : List Index} {ss : List Statement}

theorem exists_returns_reportDrops (audible : ∀ v, b.config.logger ≠ some (.mute v))
    (drops : b.dependencyDrops table foreignKeys defaults indexes = .ok ss) (column : Value)
    (t : Trail σ) :
    ∃ t', (b.reportDrops table column (foreignKeys, defaults, indexes)).Returns t ss t' := by
  obtain ⟨u, counted⟩ := Session.exists_returns_log .debug (table.display ++ "." ++
    column.display ++ s!" 有 {ss.length} 個依賴需先刪除") audible t
  obtain ⟨v, listed⟩ := exists_returns_logStatements audible ss u
  by_cases some : ss.length ≠ 0
  · refine ⟨v, Session.returns_lift_bind.2 ⟨ss, drops, ?_⟩⟩
    simp only [if_pos some]
    refine Session.returns_bind.2 ⟨(), u, counted, ?_⟩
    exact Session.returns_bind.2 ⟨(), v, listed, Session.returns_pure.2 ⟨rfl, rfl⟩⟩
  · refine ⟨t, Session.returns_lift_bind.2 ⟨ss, drops, ?_⟩⟩
    simp only [if_neg some]
    exact Session.returns_pure.2 ⟨rfl, rfl⟩

/-- Whether the index of a name is unique and begins with the prefix that is set, in any case. -/
def manages (b : Composer) (name : String) (unique : Bool) : Bool :=
  match b.config.managedIndexPrefixSetting with
  | .text pre => unique && pre != "" && (Text.upper pre).toList.isPrefixOf (Text.upper name).toList
  | _ => false

theorem isManaged_text (textual : b.config.managedIndexPrefixSetting.IsTextOrNull) (name : String)
    (unique : Bool) : b.isManaged ⟨.text name, .bool unique⟩ = .ok (b.manages name unique) := by
  rw [isManaged, manages, Config.managedIndexPrefix?]
  rcases textual with unset | ⟨pre, set⟩
  · rw [unset]
    cases unique <;> rfl
  · rw [set]
    by_cases empty : pre = ""
    · subst empty
      cases unique <;> rfl
    · have stated : (Value.text pre).stated? = some (.text pre) := by
        rw [Value.stated?, if_pos (by simpa [Value.isTruthy] using empty)]
      rw [stated]
      have nonempty : (pre != "") = true := by simpa using empty
      cases unique with
      | false => rfl
      | true =>
        simp only [Bool.true_and, nonempty]
        rfl

/-- The drop of a constraint under the names that the dialect writes. -/
def constraintDrop (b : Composer) (table name : String) : Statement :=
  b.issue (.dropConstraint (b.catalog.quoter.identifier table) (b.catalog.quoter.identifier name))

def indexDrop (b : Composer) (table name : String) : Statement :=
  b.issue (.dropIndex (b.catalog.quoter.identifier name) (b.catalog.quoter.identifier table))

def columnDrop (b : Composer) (table column : String) : Statement :=
  b.issue (.dropColumn (b.catalog.quoter.identifier table) (b.catalog.quoter.identifier column))

/-- The drops of foreign keys, default constraints and the indexes that nobody else manages. -/
def dropsOf (b : Composer) (table : String) (foreignKeys defaults : List String)
    (indexes : List (String × Bool)) : List Statement :=
  foreignKeys.map (b.constraintDrop table) ++ defaults.map (b.constraintDrop table) ++
    (indexes.filter fun index => !b.manages index.1 index.2).map fun index =>
      b.indexDrop table index.1

/-- What a history of recordings says is dropped with a column, and then the column. -/
def recordedDrops (b : Composer) (history : List Recording) (table column : String) :
    List Statement :=
  let under := history.filter (·.isUnder table column)
  b.dropsOf table (under.filterMap Recording.foreignKey?)
    (under.filterMap Recording.defaultConstraint?) (under.filterMap Recording.index?) ++
    [b.columnDrop table column]

section Marked

variable (quoteOpen : b.catalog.quoteOpen.IsText) (quoteClose : b.catalog.quoteClose.IsText)

include quoteOpen quoteClose

theorem identify_marked (name : String) :
    b.identify (.text name) = .ok (b.catalog.quoter.identifier name) :=
  Catalog.identify_of_marks quoteOpen quoteClose name

theorem dropConstraints_text (table : String) (names : List String) :
    b.dropConstraints (.text table) (names.map .text) =
      .ok (names.map (b.constraintDrop table)) := by
  rw [dropConstraints]
  refine mapM_eq_ok.2 (List.forall₂_map_left_iff.2 (List.forall₂_map_right_iff.2 ?_))
  refine List.forall₂_same.2 fun name _ => ?_
  rw [dropConstraint, identify_marked quoteOpen quoteClose, identify_marked quoteOpen quoteClose]
  rfl

theorem dropColumn_text (table column : String) :
    b.dropColumn (.text table) (.text column) = .ok (b.columnDrop table column) := by
  rw [dropColumn, identify_marked quoteOpen quoteClose, identify_marked quoteOpen quoteClose]
  rfl

theorem unmanagedDrop_text (textual : b.config.managedIndexPrefixSetting.IsTextOrNull)
    (table name : String) (unique : Bool) :
    b.unmanagedDrop (.text table) ⟨.text name, .bool unique⟩ =
      .ok (if b.manages name unique then [] else [b.indexDrop table name]) := by
  rw [unmanagedDrop, isManaged_text textual, ok_bind]
  split
  · rfl
  · rw [dropIndex, identify_marked quoteOpen quoteClose, identify_marked quoteOpen quoteClose]
    rfl

theorem unmanagedDrops_text (textual : b.config.managedIndexPrefixSetting.IsTextOrNull)
    (table : String) (indexes : List (String × Bool)) :
    ∃ groups, (indexes.map fun index => (⟨.text index.1, .bool index.2⟩ : Index)).mapM
        (b.unmanagedDrop (.text table)) = .ok groups ∧
      groups.flatten = (indexes.filter fun index => !b.manages index.1 index.2).map
        fun index => b.indexDrop table index.1 := by
  induction indexes with
  | nil => exact ⟨[], rfl, rfl⟩
  | cons index indexes ih =>
    obtain ⟨groups, others, flat⟩ := ih
    obtain ⟨name, unique⟩ := index
    have first := unmanagedDrop_text quoteOpen quoteClose textual table name unique
    cases managed : b.manages name unique with
    | true =>
      refine ⟨[] :: groups, ?_, ?_⟩
      · rw [List.map_cons, List.mapM_cons, first, managed, others]
        rfl
      · rw [List.flatten_cons, flat, List.filter_cons_of_neg (by simp [managed]), List.nil_append]
    | false =>
      refine ⟨[b.indexDrop table name] :: groups, ?_, ?_⟩
      · rw [List.map_cons, List.mapM_cons, first, managed, others]
        rfl
      · rw [List.flatten_cons, flat, List.filter_cons_of_pos (by simp [managed]), List.map_cons,
          List.singleton_append]

theorem dependencyDrops_text (textual : b.config.managedIndexPrefixSetting.IsTextOrNull)
    (table : String) (foreignKeys defaults : List String) (indexes : List (String × Bool)) :
    b.dependencyDrops (.text table) (foreignKeys.map .text) (defaults.map .text)
      (indexes.map fun index => ⟨.text index.1, .bool index.2⟩) =
        .ok (b.dropsOf table foreignKeys defaults indexes) := by
  obtain ⟨groups, grouped, flat⟩ :=
    unmanagedDrops_text quoteOpen quoteClose textual table indexes
  rw [dependencyDrops, dropConstraints_text quoteOpen quoteClose, ok_bind,
    dropConstraints_text quoteOpen quoteClose, ok_bind, grouped, ok_bind, flat]
  rfl

end Marked

/--
The drop of a column drops what was recorded of it, in whatever order and case, each kind in the
order of its recording, and then the column: its foreign keys, not those recorded for the table
alone, its default constraints, and its indexes without those that the prefix leaves to others.
-/
theorem dropColumnFully_drops_recorded (quoteOpen : b.catalog.quoteOpen.IsText)
    (quoteClose : b.catalog.quoteClose.IsText)
    (textual : b.config.managedIndexPrefixSetting.IsTextOrNull)
    (audible : ∀ v, b.config.logger ≠ some (.mute v)) (history : List Recording)
    (table column : String) :
    ∃ i, history.foldlM Inventory.record {} = .ok i ∧
      (∀ lookup table column, i.fails lookup table column = false) ∧
      ∀ t : Trail Inventory, i.SameRecords t.source →
        (∀ lookup, t.source.fails lookup (.text table) (.text column) = false) → ∃ t',
          (b.dropColumnFully Inventory.provider (.text table) (.text column)).Returns t
            (b.recordedDrops history table column) t' := by
  have nothing : ({} : Inventory).Records [] := ⟨rfl, rfl, rfl, fun _ _ _ => rfl⟩
  obtain ⟨i, recorded, records⟩ := nothing.run history
  rw [List.nil_append] at records
  refine ⟨i, recorded, records.answers, fun t same answers => ?_⟩
  obtain ⟨u, found⟩ := Inventory.exists_returns_lookUpDependencies same answers
    (records.foreignKeys_eq table column) (records.defaults_eq table column)
    (records.indexes_eq table column)
  have drops := dependencyDrops_text quoteOpen quoteClose textual table
    ((history.filter (·.isUnder table column)).filterMap Recording.foreignKey?)
    ((history.filter (·.isUnder table column)).filterMap Recording.defaultConstraint?)
    ((history.filter (·.isUnder table column)).filterMap Recording.index?)
  obtain ⟨t', reported⟩ := exists_returns_reportDrops audible drops (.text column) u
  have depends := Session.returns_bind.2 ⟨_, u, found, reported⟩
  rw [← dropDependencies_eq] at depends
  refine ⟨t', Session.returns_bind.2 ⟨_, t', depends, ?_⟩⟩
  refine Session.returns_lift_bind.2 ⟨b.columnDrop table column, ?_, ?_⟩
  · exact dropColumn_text quoteOpen quoteClose table column
  · exact Session.returns_pure.2 ⟨rfl, rfl⟩

/-- The dialect of the local database, where unique indexes that begin with `IDX_` are managed. -/
def bookkeeping : Composer := ofConfig .access default

/-- What was recorded of orders, in several cases. -/
def orderRecordings : List Recording :=
  [.index "Orders" "Customer_Id" "IDX_ORDERS_CUSTOMER" true,
    .foreignKey "ORDERS" "FK_ORDERS_CUSTOMER" (some "customer_id"),
    .foreignKey "orders" "FK_ORDERS" none,
    .index "orders" "customer_id" "IX_ORDERS_CUSTOMER" true,
    .defaultConstraint "orders" "CUSTOMER_ID" "DF_ORDERS_CUSTOMER",
    .index "ORDERS" "STATUS" "IX_ORDERS_STATUS" false]

theorem dropColumnFully_drops_recorded_customer :
    ∃ i, orderRecordings.foldlM Inventory.record {} = .ok i ∧
      (∃ t', (bookkeeping.dropColumnFully Inventory.provider (.text "orders")
        (.text "Customer_ID")).Returns { source := i }
          (bookkeeping.recordedDrops orderRecordings "orders" "Customer_ID") t') ∧
      (bookkeeping.recordedDrops orderRecordings "orders" "Customer_ID").map (·.text) =
        ["alter table ORDERS drop constraint FK_ORDERS_CUSTOMER ^",
          "alter table ORDERS drop constraint DF_ORDERS_CUSTOMER ^",
          "drop index IX_ORDERS_CUSTOMER on ORDERS ^",
          "alter table ORDERS drop column CUSTOMER_ID ^"] := by
  have audible : ∀ v, bookkeeping.config.logger ≠ some (.mute v) := by
    intro v muted
    cases muted
  obtain ⟨i, recorded, answers, drops⟩ := dropColumnFully_drops_recorded (b := bookkeeping)
    (by decide) (by decide) (by decide) audible orderRecordings "orders" "Customer_ID"
  exact ⟨i, recorded, drops { source := i } ⟨rfl, rfl, rfl⟩ (answers · _ _), by decide +kernel⟩

end Composer

end SchemaDrift
