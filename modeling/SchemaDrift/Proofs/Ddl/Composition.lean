import SchemaDrift.Proofs.Ddl.Effect
import SchemaDrift.Proofs.Session.Returns

/-!
# What the composer composes

Every composition is about the one table it is asked for. Each lemma below says of one wish which
effects the statements have that fulfil it, in order; nothing later opens a composition again.
-/

namespace SchemaDrift

open Document (Value)

/-- The effects on what hangs on a column. -/
def Effect.isDependency : Effect → Bool
  | .dropsConstraint _ | .dropsIndex _ => true
  | .dropsColumn _ | .addsColumn _ => false

namespace Composer

variable {b : Composer} {table column : Value}

/-- The statements are about a table, and their effects are these. -/
structure Issues (b : Composer) (table : Value) (ss : List Statement) (es : List Effect) :
    Prop where
  issued : ∀ s ∈ ss, ∃ owner c, b.identify table = .ok owner ∧ c.table? = some owner ∧ s = b.issue c
  effects : Statement.effects ss = es

namespace Issues

theorem nil : b.Issues table [] [] := ⟨by simp, rfl⟩

theorem one {owner : Identifier} {c : Command} (h : b.identify table = .ok owner)
    (about : c.table? = some owner) : b.Issues table [b.issue c] c.effect?.toList where
  issued := by
    intro s hs
    exact ⟨owner, c, h, about, List.mem_singleton.1 hs⟩
  effects := by
    show List.filterMap Statement.effect? [b.issue c] = _
    cases h : c.effect? <;> simp [Statement.effect?, Statement.command?, issue, h]

theorem append {ss us : List Statement} {es fs : List Effect} (h : b.Issues table ss es)
    (h' : b.Issues table us fs) : b.Issues table (ss ++ us) (es ++ fs) where
  issued := by
    intro s hs
    rcases List.mem_append.1 hs with hs | hs
    · exact h.issued s hs
    · exact h'.issued s hs
  effects := by rw [Statement.effects_append, h.effects, h'.effects]

theorem countP_dropColumn {ss : List Statement} {es : List Effect} {owner column : Identifier}
    (h : b.Issues table ss es) (howner : b.identify table = .ok owner) :
    ss.countP (·.text == (b.issue (.dropColumn owner column)).text) =
      (Statement.droppedColumns ss).count column := by
  rw [Statement.droppedColumns, Statement.effects, List.count, List.countP_filterMap,
    List.countP_filterMap]
  apply List.countP_congr
  intro s hs
  obtain ⟨owner', c, howner', about, rfl⟩ := h.issued s hs
  rw [howner] at howner'
  cases howner'
  rw [beq_iff_eq, issue, issue, Statement.text_eq_dropColumn_iff about]
  show c.effect? = _ ↔ (c.effect?.map _).getD false = true
  cases c.effect? with
  | none => simp
  | some effect =>
    rw [Option.some.injEq, ← Effect.droppedColumn?_eq_some_iff, Option.map_some, Option.getD_some]
    cases effect.droppedColumn? <;> simp

/-- As often as the text of a column's addition occurs, a column so defined is added. -/
theorem countP_addColumn {ss : List Statement} {es : List Effect} {owner : Identifier}
    {definition : ColumnDefinition} (h : b.Issues table ss es)
    (howner : b.identify table = .ok owner)
    (head : definition.column.text.toList.head? ≠ some 'c') :
    ss.countP (·.text == (b.issue (.addColumn owner definition)).text) =
      (Statement.addedColumns ss).countP (·.render == definition.render) := by
  rw [Statement.addedColumns, Statement.effects, List.countP_filterMap, List.countP_filterMap]
  apply List.countP_congr
  intro s hs
  obtain ⟨owner', c, howner', about, rfl⟩ := h.issued s hs
  rw [howner] at howner'
  cases howner'
  rw [beq_iff_eq, issue, issue, Statement.text_eq_addColumn_iff about head]
  show (∃ added, c.effect? = some (.addsColumn added) ∧ added.render = definition.render) ↔
    (c.effect?.map _).getD false = true
  cases c.effect? with
  | none => simp
  | some effect =>
    simp only [Option.some.injEq, ← Effect.addedColumn?_eq_some_iff, Option.map_some,
      Option.getD_some]
    cases effect.addedColumn? <;> simp

end Issues

/-! ### Dropping -/

theorem issues_dropColumn {s : Statement} (h : b.dropColumn table column = .ok s) :
    ∃ owner dropped, b.identify table = .ok owner ∧ b.identify column = .ok dropped ∧
      s = b.issue (.dropColumn owner dropped) := by
  obtain ⟨owner, howner, h⟩ := bind_eq_ok.1 h
  obtain ⟨dropped, hdropped, h⟩ := bind_eq_ok.1 h
  exact ⟨owner, dropped, howner, hdropped, (pure_eq_ok.1 h).symm⟩

theorem command_of_dropConstraint {constraint : Value} {s : Statement}
    (h : b.dropConstraint table constraint = .ok s) :
    ∃ owner dropped, b.identify table = .ok owner ∧ b.identify constraint = .ok dropped ∧
      s = b.issue (.dropConstraint owner dropped) := by
  obtain ⟨owner, howner, h⟩ := bind_eq_ok.1 h
  obtain ⟨dropped, hdropped, h⟩ := bind_eq_ok.1 h
  exact ⟨owner, dropped, howner, hdropped, (pure_eq_ok.1 h).symm⟩

theorem issues_dropConstraint {constraint : Value} {s : Statement}
    (h : b.dropConstraint table constraint = .ok s) :
    ∃ dropped, b.identify constraint = .ok dropped ∧
      b.Issues table [s] [.dropsConstraint dropped] := by
  obtain ⟨owner, dropped, howner, hdropped, rfl⟩ := command_of_dropConstraint h
  exact ⟨dropped, hdropped, .one howner rfl⟩

theorem issues_dropConstraints {constraints : List Value} {ss : List Statement}
    (h : b.dropConstraints table constraints = .ok ss) :
    ∃ dropped, constraints.mapM b.identify = .ok dropped ∧
      b.Issues table ss (dropped.map .dropsConstraint) := by
  rw [dropConstraints] at h
  induction constraints generalizing ss with
  | nil =>
    obtain rfl := pure_eq_ok.1 h
    exact ⟨[], rfl, .nil⟩
  | cons constraint constraints ih =>
    rw [List.mapM_cons] at h
    obtain ⟨s, first, h⟩ := bind_eq_ok.1 h
    obtain ⟨rest, others, h⟩ := bind_eq_ok.1 h
    obtain rfl := pure_eq_ok.1 h
    obtain ⟨i, hi, issues⟩ := issues_dropConstraint first
    obtain ⟨is, his, others⟩ := ih others
    refine ⟨i :: is, ?_, issues.append others⟩
    rw [List.mapM_cons, hi, his]
    rfl

theorem command_of_dropIndex {index : Value} {s : Statement} (h : b.dropIndex table index = .ok s) :
    ∃ owner dropped, b.identify table = .ok owner ∧ b.identify index = .ok dropped ∧
      s = b.issue (.dropIndex dropped owner) := by
  obtain ⟨dropped, hdropped, h⟩ := bind_eq_ok.1 h
  obtain ⟨owner, howner, h⟩ := bind_eq_ok.1 h
  exact ⟨owner, dropped, howner, hdropped, (pure_eq_ok.1 h).symm⟩

theorem issues_dropIndex {index : Value} {s : Statement} (h : b.dropIndex table index = .ok s) :
    ∃ dropped, b.identify index = .ok dropped ∧ b.Issues table [s] [.dropsIndex dropped] := by
  obtain ⟨owner, dropped, howner, hdropped, rfl⟩ := command_of_dropIndex h
  exact ⟨dropped, hdropped, .one howner rfl⟩

/-- Whether an index is known to be left to nobody else. -/
def isOwn (b : Composer) (index : Index) : Bool :=
  match b.isManaged index with
  | .ok managed => !managed
  | .error _ => false

theorem issues_unmanagedDrop {index : Index} {ss : List Statement}
    (h : b.unmanagedDrop table index = .ok ss) :
    if b.isOwn index then
      ∃ dropped, b.identify index.name = .ok dropped ∧ b.Issues table ss [.dropsIndex dropped]
    else b.Issues table ss [] := by
  obtain ⟨managed, hmanaged, h⟩ := bind_eq_ok.1 h
  rw [isOwn, hmanaged]
  cases managed with
  | true =>
    obtain rfl := pure_eq_ok.1 h
    exact .nil
  | false =>
    obtain ⟨s, hs, h⟩ := bind_eq_ok.1 h
    obtain rfl := pure_eq_ok.1 h
    exact issues_dropIndex hs

theorem issues_unmanagedDrops {indexes : List Index} {groups : List (List Statement)}
    (h : indexes.mapM (b.unmanagedDrop table) = .ok groups) :
    ∃ dropped, (indexes.filter b.isOwn).mapM (fun i => b.identify i.name) = .ok dropped ∧
      b.Issues table groups.flatten (dropped.map .dropsIndex) := by
  induction indexes generalizing groups with
  | nil =>
    obtain rfl := pure_eq_ok.1 h
    exact ⟨[], rfl, .nil⟩
  | cons index indexes ih =>
    rw [List.mapM_cons] at h
    obtain ⟨ss, first, h⟩ := bind_eq_ok.1 h
    obtain ⟨rest, others, h⟩ := bind_eq_ok.1 h
    obtain rfl := pure_eq_ok.1 h
    obtain ⟨is, his, others⟩ := ih others
    have group := issues_unmanagedDrop first
    by_cases own : b.isOwn index = true
    · rw [if_pos own] at group
      obtain ⟨i, hi, group⟩ := group
      refine ⟨i :: is, ?_, group.append others⟩
      rw [List.filter_cons_of_pos own, List.mapM_cons, hi, his]
      rfl
    · rw [if_neg own] at group
      rw [List.filter_cons_of_neg own]
      exact ⟨is, his, group.append others⟩

/-- What depends on a column goes: its constraints, then the indexes that nobody else manages. -/
theorem issues_dependencyDrops {foreignKeys defaults : List Value} {indexes : List Index}
    {ss : List Statement} (h : b.dependencyDrops table foreignKeys defaults indexes = .ok ss) :
    ∃ constraints own, (foreignKeys ++ defaults).mapM b.identify = .ok constraints ∧
      (indexes.filter b.isOwn).mapM (fun i => b.identify i.name) = .ok own ∧
      b.Issues table ss (constraints.map .dropsConstraint ++ own.map .dropsIndex) := by
  obtain ⟨keyDrops, hkeys, h⟩ := bind_eq_ok.1 h
  obtain ⟨defaultDrops, hdefaults, h⟩ := bind_eq_ok.1 h
  obtain ⟨groups, hgroups, h⟩ := bind_eq_ok.1 h
  obtain rfl := pure_eq_ok.1 h
  obtain ⟨keys, namedKeys, keys_issue⟩ := issues_dropConstraints hkeys
  obtain ⟨constraints, namedConstraints, constraints_issue⟩ := issues_dropConstraints hdefaults
  obtain ⟨own, namedIndexes, own_issue⟩ := issues_unmanagedDrops hgroups
  refine ⟨keys ++ constraints, own, ?_, namedIndexes, ?_⟩
  · rw [List.mapM_append, namedKeys, namedConstraints]
    rfl
  · rw [List.map_append]
    exact (keys_issue.append constraints_issue).append own_issue

/-! ### Creating -/

section

variable {e : Entity}

theorem command_of_createTable {s : Statement} (h : b.createTable e = .ok s) :
    ∃ owner columns key, e.leaves.mapM (b.leafDefinition e) = .ok columns ∧
      b.primaryKey e = .ok key ∧ b.identify e.table = .ok owner ∧
      s = b.issue (.createTable owner columns key) := by
  obtain ⟨columns, hcolumns, h⟩ := bind_eq_ok.1 h
  obtain ⟨key, hkey, h⟩ := bind_eq_ok.1 h
  obtain ⟨owner, howner, h⟩ := bind_eq_ok.1 h
  exact ⟨owner, columns, key, hcolumns, hkey, howner, (pure_eq_ok.1 h).symm⟩

theorem names_of_primaryKey {key : PrimaryKey} (h : b.primaryKey e = .ok key) :
    ∃ keyed own, e.keyAttribute = .ok keyed ∧ keyed.columnName = .ok own ∧
      b.identify own = .ok key.column := by
  obtain ⟨keyed, hkeyed, h⟩ := bind_eq_ok.1 h
  obtain ⟨own, hown, h⟩ := bind_eq_ok.1 h
  obtain ⟨column, hcolumn, h⟩ := bind_eq_ok.1 h
  obtain rfl := pure_eq_ok.1 h
  exact ⟨keyed, own, hkeyed, hown, hcolumn⟩

end

/-! ### Adding and altering -/

theorem command_of_fillNulls {value : String} {s : Statement}
    (h : b.fillNulls table column value = .ok s) :
    ∃ owner filled, b.identify table = .ok owner ∧ b.identify column = .ok filled ∧
      s = b.issue (.fillNulls owner filled value) := by
  obtain ⟨filled, hfilled, h⟩ := bind_eq_ok.1 h
  obtain ⟨owner, howner, h⟩ := bind_eq_ok.1 h
  exact ⟨owner, filled, howner, hfilled, (pure_eq_ok.1 h).symm⟩

theorem issues_fillNulls {value : String} {s : Statement}
    (h : b.fillNulls table column value = .ok s) : b.Issues table [s] [] := by
  obtain ⟨owner, filled, howner, -, rfl⟩ := command_of_fillNulls h
  exact .one howner rfl

theorem command_of_alterMandatory {spec : ColumnSpec} {mandatory : Bool} {s : Statement}
    (h : b.alterMandatory table column spec mandatory = .ok s) :
    ∃ owner altered, b.identify table = .ok owner ∧ b.identify column = .ok altered ∧
      s = b.issue (.alterColumn owner ⟨altered, spec.withNotNull mandatory⟩) := by
  obtain ⟨owner, howner, h⟩ := bind_eq_ok.1 h
  obtain ⟨altered, haltered, h⟩ := bind_eq_ok.1 h
  exact ⟨owner, altered, howner, haltered, (pure_eq_ok.1 h).symm⟩

theorem issues_alterMandatory {spec : ColumnSpec} {mandatory : Bool} {s : Statement}
    (h : b.alterMandatory table column spec mandatory = .ok s) : b.Issues table [s] [] := by
  obtain ⟨owner, altered, howner, -, rfl⟩ := command_of_alterMandatory h
  exact .one howner rfl

variable {e : Entity} {a : Attribute}

theorem columnOr_columnOr {named : Value} (h : columnOr column a = .ok named) :
    columnOr named a = .ok named := by
  rw [columnOr] at h ⊢
  cases truth : named.isTruthy with
  | true => rw [Value.stated?, if_pos truth]
  | false =>
    rw [Value.stated?, if_neg (Bool.eq_false_iff.1 truth)]
    cases own : column.stated? with
    | none =>
      rw [own] at h
      exact h
    | some stated =>
      rw [own] at h
      cases h
      rw [Value.stated?] at own
      split at own
      · next positive =>
        cases own
        rw [truth] at positive
        cases positive
      · cases own

theorem issues_fillings {f : Field} {ss : List Statement}
    (h : b.fillings e f column = .ok ss) : b.Issues e.table ss [] := by
  obtain ⟨filling, -, h⟩ := bind_eq_ok.1 h
  cases filling with
  | none =>
    obtain rfl := pure_eq_ok.1 h
    exact .nil
  | some value =>
    obtain ⟨s, hs, h⟩ := bind_eq_ok.1 h
    obtain rfl := pure_eq_ok.1 h
    exact issues_fillNulls hs

theorem identify_of_columnDefinition {notNull : Bool} {definition : ColumnDefinition}
    (h : b.columnDefinition e a column notNull = .ok definition) :
    ∃ named, columnOr column a = .ok named ∧ b.identify named = .ok definition.column := by
  obtain ⟨named, hnamed, h⟩ := bind_eq_ok.1 h
  obtain ⟨identifier, hidentifier, h⟩ := bind_eq_ok.1 h
  obtain ⟨spec, -, h⟩ := bind_eq_ok.1 h
  obtain rfl := pure_eq_ok.1 h
  exact ⟨named, hnamed, hidentifier⟩

theorem issues_leafAdditions {tableHasRows : Bool} {ss : List Statement}
    (h : b.leafAdditions e a column tableHasRows = .ok ss) :
    ∃ owner definition rest, b.identify e.table = .ok owner ∧
      b.columnDefinition e a column (!needsTransition a.field tableHasRows) = .ok definition ∧
      ss = b.issue (.addColumn owner definition) :: rest ∧
      b.Issues e.table ss [.addsColumn definition] := by
  obtain ⟨owner, howner, h⟩ := bind_eq_ok.1 h
  have adds (definition : ColumnDefinition) :
      b.Issues e.table [b.issue (.addColumn owner definition)] [.addsColumn definition] :=
    .one howner rfl
  split at h
  · next needs =>
    rw [needs]
    obtain ⟨definition, hdefinition, h⟩ := bind_eq_ok.1 h
    obtain ⟨fillings, hfillings, h⟩ := bind_eq_ok.1 h
    obtain ⟨restated, hrestated, h⟩ := bind_eq_ok.1 h
    obtain rfl := pure_eq_ok.1 h
    refine ⟨owner, definition, fillings ++ [restated], howner, hdefinition, rfl, ?_⟩
    have later := (issues_fillings hfillings).append (issues_alterMandatory hrestated)
    exact (adds definition).append later
  · next direct =>
    rw [Bool.eq_false_iff.2 direct]
    obtain ⟨definition, hdefinition, h⟩ := bind_eq_ok.1 h
    obtain rfl := pure_eq_ok.1 h
    exact ⟨owner, definition, [], howner, hdefinition, rfl, adds definition⟩

theorem isEmbedded_of_columnType {type : Value} (h : b.columnType e a = .ok type) :
    a.isEmbedded = false := by
  rw [columnType] at h
  cases embedded : a.isEmbedded with
  | false => rfl
  | true =>
    rw [embedded] at h
    cases h

theorem exists_columnSpec {type : String} (h : b.columnType e a = .ok (.text type))
    (notNull : Bool) : ∃ spec, b.columnSpec e a notNull = .ok spec := by
  have suffixed : ∃ suffix, b.columnSuffix e a notNull = .ok suffix := by
    rw [columnSuffix]
    split
    · exact ⟨_, rfl⟩
    · rw [h]
      exact ⟨_, rfl⟩
  obtain ⟨suffix, hsuffix⟩ := suffixed
  rw [columnSpec, h, hsuffix]
  exact ⟨_, rfl⟩

theorem isKey_of_columnType {v type : Value} {c : Catalog} (h : c.columnType v = .ok type) :
    v.isKey = true := by
  rw [Catalog.columnType] at h
  split at h
  · assumption
  · cases h

theorem isKey_of_logicalColumnType {v type : Value} (h : b.logicalColumnType e a v = .ok type) :
    v.isKey = true := by
  rw [logicalColumnType] at h
  cases hc : b.catalog.columnType v with
  | error fault =>
    rw [hc] at h
    cases h
  | ok found => exact isKey_of_columnType hc

theorem exists_filling {type : Value} (h : b.columnType e a = .ok type) :
    ∃ filling, b.conventions.filling? a.field = .ok filling := by
  have asked : ∃ v, b.conventions.transitionalDefault a.field = .ok v := by
    rw [columnType] at h
    rw [Conventions.transitionalDefault]
    split at h
    · cases h
    split at h
    · next key =>
      rw [if_pos (by simpa [or_comm] using key)]
      exact ⟨_, rfl⟩
    next plain =>
    rw [if_neg (by simpa [and_comm] using plain)]
    split at h <;> rw [Catalog.defaultValue, Catalog.defaultValue]
    · next enum =>
      rw [if_pos enum, if_pos (isKey_of_logicalColumnType h)]
      exact ⟨_, rfl⟩
    · next notEnum =>
      rw [if_neg notEnum, if_pos (isKey_of_logicalColumnType h)]
      exact ⟨_, rfl⟩
  obtain ⟨v, hv⟩ := asked
  rw [Conventions.filling?, hv]
  cases v <;> exact ⟨_, rfl⟩

theorem exists_lacksFilling {type : Value} {tableHasRows : Bool}
    (typed : b.columnType e a = .ok type) :
    ∃ lacks, b.lacksFilling a.field tableHasRows = .ok lacks := by
  obtain ⟨filling, hfilling⟩ := exists_filling typed
  rw [lacksFilling]
  split
  · rw [hfilling]
    exact ⟨_, rfl⟩
  · exact ⟨_, rfl⟩

theorem exists_leafAdditions {type : String} {owner identifier : Identifier}
    (howner : b.identify e.table = .ok owner) (own : columnOr column a = .ok column)
    (hcolumn : b.identify column = .ok identifier) (h : b.columnType e a = .ok (.text type))
    (tableHasRows : Bool) : ∃ ss, b.leafAdditions e a column tableHasRows = .ok ss := by
  have defined (notNull : Bool) : ∃ d, b.columnDefinition e a column notNull = .ok d := by
    obtain ⟨spec, hspec⟩ := exists_columnSpec h notNull
    refine ⟨⟨identifier, spec⟩, ?_⟩
    rw [columnDefinition, own, hspec]
    exact bind_eq_ok.2 ⟨column, rfl, bind_eq_ok.2 ⟨identifier, hcolumn, rfl⟩⟩
  have filled : ∃ ss, b.fillings e a.field column = .ok ss := by
    obtain ⟨filling, hfilling⟩ := exists_filling h
    rw [fillings, hfilling]
    cases filling with
    | none => exact ⟨_, rfl⟩
    | some value =>
      have fill : b.fillNulls e.table column value =
          .ok (b.issue (.fillNulls owner identifier value)) := by
        rw [fillNulls, hcolumn, howner]
        rfl
      show ∃ ss, (do return [← b.fillNulls e.table column value]) = .ok ss
      rw [fill]
      exact ⟨_, rfl⟩
  obtain ⟨fillings, hfillings⟩ := filled
  rw [leafAdditions, howner, ok_bind]
  by_cases needs : needsTransition a.field tableHasRows = true
  · obtain ⟨definition, hdefinition⟩ := defined false
    have restated : b.alterMandatory e.table column definition.spec true =
        .ok (b.issue (.alterColumn owner ⟨identifier, definition.spec.withNotNull true⟩)) := by
      rw [alterMandatory, howner, hcolumn]
      rfl
    rw [if_pos needs, hdefinition, ok_bind, hfillings, ok_bind, restated]
    exact ⟨_, rfl⟩
  · obtain ⟨definition, hdefinition⟩ := defined true
    rw [if_neg needs, hdefinition]
    exact ⟨_, rfl⟩

theorem addForeignKey_of_reference {target : Value} (refers : a.field.reference? = some target)
    (own : columnOr column a = .ok column) :
    b.addForeignKey e a column = b.foreignKey e.table column target a.field.targetColumn := by
  rw [addForeignKey, refers]
  show (do b.foreignKey e.table (← columnOr column a) target a.field.targetColumn) = _
  rw [own, ok_bind]

theorem command_of_foreignKey {target targetColumn : Value} {s : Statement}
    (h : b.foreignKey table column target targetColumn = .ok s) :
    ∃ owner constraint referring referred referredColumn, b.identify table = .ok owner ∧
      b.foreignKeyName table column = .ok constraint ∧ b.identify column = .ok referring ∧
      b.identify target = .ok referred ∧ b.identify targetColumn = .ok referredColumn ∧
      s = b.issue (.addForeignKey owner constraint referring referred referredColumn) := by
  obtain ⟨owner, howner, h⟩ := bind_eq_ok.1 h
  obtain ⟨constraint, hconstraint, h⟩ := bind_eq_ok.1 h
  obtain ⟨referring, hreferring, h⟩ := bind_eq_ok.1 h
  obtain ⟨referred, hreferred, h⟩ := bind_eq_ok.1 h
  obtain ⟨referredColumn, hcolumn, h⟩ := bind_eq_ok.1 h
  exact ⟨owner, constraint, referring, referred, referredColumn, howner, hconstraint, hreferring,
    hreferred, hcolumn, (pure_eq_ok.1 h).symm⟩

theorem foreignKey_of_addForeignKey {s : Statement} (h : b.addForeignKey e a column = .ok s) :
    ∃ named stated, columnOr column a = .ok named ∧ a.field.reference? = some stated ∧
      b.foreignKey e.table named stated a.field.targetColumn = .ok s := by
  rw [addForeignKey] at h
  split at h
  · cases h
  · next stated refers =>
    obtain ⟨named, hnamed, h⟩ := bind_eq_ok.1 h
    exact ⟨named, stated, hnamed, refers, h⟩

theorem names_of_addForeignKey {s : Statement} (h : b.addForeignKey e a column = .ok s) :
    ∃ named stated owner constraint referring target targetColumn,
      columnOr column a = .ok named ∧ a.field.reference? = some stated ∧
      b.identify e.table = .ok owner ∧ b.identify named = .ok referring ∧
      b.identify stated = .ok target ∧
      s = b.issue (.addForeignKey owner constraint referring target targetColumn) := by
  obtain ⟨named, stated, hnamed, refers, h⟩ := foreignKey_of_addForeignKey h
  obtain ⟨owner, constraint, referring, target, targetColumn, howner, -, hreferring, htarget, -,
    issued⟩ := command_of_foreignKey h
  exact ⟨named, stated, owner, constraint, referring, target, targetColumn, hnamed, refers, howner,
    hreferring, htarget, issued⟩

theorem command_of_addForeignKey {s : Statement} (h : b.addForeignKey e a column = .ok s) :
    ∃ owner constraint referring target targetColumn, b.identify e.table = .ok owner ∧
      s = b.issue (.addForeignKey owner constraint referring target targetColumn) := by
  obtain ⟨_, _, owner, constraint, referring, target, targetColumn, -, -, howner, -, -, issued⟩ :=
    names_of_addForeignKey h
  exact ⟨owner, constraint, referring, target, targetColumn, howner, issued⟩

theorem issues_addForeignKey {s : Statement} (h : b.addForeignKey e a column = .ok s) :
    b.Issues e.table [s] [] := by
  obtain ⟨owner, _, _, _, _, howner, rfl⟩ := command_of_addForeignKey h
  exact .one howner rfl

/--
The primary key is declared over the column that the key attribute of the entity states; where this
is asked for, a statement in front makes the column required.
-/
theorem names_of_addPrimaryKey {notNull : Bool} {ss : List Statement}
    (h : b.addPrimaryKey e notNull = .ok ss) :
    ∃ keyed own required owner constraint identifier, e.keyAttribute = .ok keyed ∧
      keyed.columnName = .ok own ∧ b.identify own = .ok identifier ∧
      b.identify e.table = .ok owner ∧
      b.identify (.text ("PK_" ++ e.table.display)) = .ok constraint ∧
      (∀ s ∈ required, b.requireKey e keyed own = .ok s) ∧ (notNull = false → required = []) ∧
      ss = required ++ [b.issue (.addPrimaryKey owner constraint ⟨e.keyType == .uuid, identifier⟩)] := by
  obtain ⟨keyed, hkeyed, h⟩ := bind_eq_ok.1 h
  obtain ⟨own, hown, h⟩ := bind_eq_ok.1 h
  by_cases asked : (notNull && !e.keyType.isIdentity) = true
  · rw [if_pos asked] at h
    obtain ⟨s, hs, h⟩ := bind_eq_ok.1 h
    obtain ⟨required, hrequired, h⟩ := bind_eq_ok.1 h
    obtain rfl := pure_eq_ok.1 hrequired
    obtain ⟨owner, howner, h⟩ := bind_eq_ok.1 h
    obtain ⟨constraint, hconstraint, h⟩ := bind_eq_ok.1 h
    obtain ⟨identifier, hidentifier, h⟩ := bind_eq_ok.1 h
    refine ⟨keyed, own, [s], owner, constraint, identifier, hkeyed, hown, hidentifier, howner,
      hconstraint, ?_, ?_, (pure_eq_ok.1 h).symm⟩
    · intro s' hs'
      rw [List.mem_singleton.1 hs', hs]
    · rintro rfl
      cases asked
  · rw [if_neg asked] at h
    obtain ⟨required, hrequired, h⟩ := bind_eq_ok.1 h
    obtain rfl := pure_eq_ok.1 hrequired
    obtain ⟨owner, howner, h⟩ := bind_eq_ok.1 h
    obtain ⟨constraint, hconstraint, h⟩ := bind_eq_ok.1 h
    obtain ⟨identifier, hidentifier, h⟩ := bind_eq_ok.1 h
    exact ⟨keyed, own, [], owner, constraint, identifier, hkeyed, hown, hidentifier, howner,
      hconstraint, by simp, fun _ => rfl, (pure_eq_ok.1 h).symm⟩

theorem exists_key_of_addPrimaryKey {ss : List Statement} (h : b.addPrimaryKey e false = .ok ss) :
    ∃ keyed own owner constraint identifier, e.keyAttribute = .ok keyed ∧
      keyed.columnName = .ok own ∧ b.identify own = .ok identifier ∧
      b.identify e.table = .ok owner ∧
      b.identify (.text ("PK_" ++ e.table.display)) = .ok constraint ∧
      ss = [b.issue (.addPrimaryKey owner constraint ⟨e.keyType == .uuid, identifier⟩)] := by
  obtain ⟨keyed, own, required, owner, constraint, identifier, hkeyed, hown, hidentifier, howner,
    hconstraint, -, unasked, whole⟩ := names_of_addPrimaryKey h
  rw [unasked rfl] at whole
  exact ⟨keyed, own, owner, constraint, identifier, hkeyed, hown, hidentifier, howner, hconstraint,
    whole⟩

theorem command_of_addPrimaryKey {ss : List Statement} (h : b.addPrimaryKey e false = .ok ss) :
    ∃ owner constraint key, b.identify e.table = .ok owner ∧
      ss = [b.issue (.addPrimaryKey owner constraint key)] := by
  obtain ⟨_, _, owner, constraint, identifier, -, -, -, howner, -, whole⟩ :=
    exists_key_of_addPrimaryKey h
  exact ⟨owner, constraint, _, howner, whole⟩

theorem issues_addPrimaryKey {ss : List Statement} (h : b.addPrimaryKey e false = .ok ss) :
    b.Issues e.table ss [] := by
  obtain ⟨owner, _, _, howner, rfl⟩ := command_of_addPrimaryKey h
  exact .one howner rfl

theorem command_of_restate {type : String} {parameters : Parameters} {s : Statement}
    (h : b.restate e a column type parameters = .ok s) :
    ∃ named owner altered, columnOr column a = .ok named ∧ b.identify e.table = .ok owner ∧
      b.identify named = .ok altered ∧
      s = b.issue (.alterColumn owner ⟨altered, ⟨type, { parameters }⟩⟩) := by
  obtain ⟨named, hnamed, h⟩ := bind_eq_ok.1 h
  obtain ⟨altered, haltered, h⟩ := bind_eq_ok.1 h
  obtain ⟨owner, howner, h⟩ := bind_eq_ok.1 h
  exact ⟨named, owner, altered, hnamed, howner, haltered, (pure_eq_ok.1 h).symm⟩

theorem issues_restate {type : String} {parameters : Parameters} {s : Statement}
    (h : b.restate e a column type parameters = .ok s) : b.Issues e.table [s] [] := by
  obtain ⟨named, owner, altered, -, howner, -, rfl⟩ := command_of_restate h
  exact .one howner rfl

theorem command_of_alterToAttribute {ss : List Statement}
    (h : b.alterToAttribute e a column = .ok ss) :
    (a.field.isId = true ∧ ss = []) ∨
      a.field.isId = false ∧ ∃ owner definition, b.identify e.table = .ok owner ∧
        b.columnDefinition e a column true = .ok definition ∧
        ss = [b.issue (.alterColumn owner definition)] := by
  rw [alterToAttribute] at h
  split at h
  · next isId =>
    cases h
    exact .inl ⟨isId, rfl⟩
  · next isNoId =>
    obtain ⟨definition, defines, h⟩ := bind_eq_ok.1 h
    obtain ⟨owner, howner, h⟩ := bind_eq_ok.1 h
    refine .inr ⟨Bool.eq_false_iff.2 isNoId, owner, definition, howner, defines, ?_⟩
    exact (pure_eq_ok.1 h).symm

theorem issues_alterToAttribute {ss : List Statement}
    (h : b.alterToAttribute e a column = .ok ss) : b.Issues e.table ss [] := by
  rcases command_of_alterToAttribute h with ⟨-, rfl⟩ | ⟨-, owner, definition, howner, -, rfl⟩
  · exact .nil
  · exact .one howner rfl

/-! ### Sessions -/

variable {σ : Type} {t t' : Trail σ} {ss : List Statement}

theorem returns_addLeaf {tableHasRows : Bool}
    (h : (b.addLeaf e a column tableHasRows : Session σ _).Returns t ss t') :
    ∃ named, columnOr column a = .ok named ∧ b.leafAdditions e a named tableHasRows = .ok ss ∧
      t'.source = t.source := by
  obtain ⟨named, hnamed, h⟩ := Session.returns_lift_bind.1 h
  obtain ⟨additions, hadditions, h⟩ := Session.returns_lift_bind.1 h
  obtain ⟨lacks, -, h⟩ := Session.returns_lift_bind.1 h
  simp only at h
  split at h
  · obtain ⟨_, u, logged, h⟩ := Session.returns_bind.1 h
    obtain ⟨rfl, rfl⟩ := Session.returns_pure.1 h
    exact ⟨named, hnamed, hadditions, Session.source_of_returns_log logged⟩
  · obtain ⟨rfl, rfl⟩ := Session.returns_pure.1 h
    exact ⟨named, hnamed, hadditions, rfl⟩

theorem returns_addColumn {tableHasRows : Bool} (leaf : a.isEmbedded = false)
    (own : columnOr column a = .ok column)
    (h : (b.addColumn e a column tableHasRows : Session σ _).Returns t ss t') :
    b.leafAdditions e a column tableHasRows = .ok ss ∧ t'.source = t.source := by
  obtain ⟨groups, u, hgroups, h⟩ := Session.returns_bind.1 h
  obtain ⟨rfl, rfl⟩ := Session.returns_pure.1 h
  have single : addedColumns a column = [(a, .ok column)] := by rw [addedColumns, leaf, own]; rfl
  rw [single, List.mapM_cons] at hgroups
  obtain ⟨additions, v, first, hgroups⟩ := Session.returns_bind.1 hgroups
  obtain ⟨rest, w, others, hgroups⟩ := Session.returns_bind.1 hgroups
  obtain ⟨rfl, rfl⟩ := Session.returns_pure.1 others
  obtain ⟨rfl, rfl⟩ := Session.returns_pure.1 hgroups
  obtain ⟨stated, hstated, first⟩ := Session.returns_lift_bind.1 first
  cases hstated
  obtain ⟨named, hnamed, hadditions, source⟩ := returns_addLeaf first
  rw [own] at hnamed
  cases hnamed
  simpa using ⟨hadditions, source⟩

theorem source_of_returns_logStatements {config : Config} {logged : List Statement} {r : Unit}
    (h : (logStatements config logged : Session σ Unit).Returns t r t') :
    t'.source = t.source := by
  rw [logStatements] at h
  split at h
  · refine Session.invariant_of_returns_forM (I := fun u => u.source = t.source) rfl ?_ h
    intro s _ u _ u' same hs
    exact (Session.source_of_returns_log hs).trans same
  · rw [(Session.returns_pure.1 h).2]

theorem exists_returns_logStatements {config : Config}
    (audible : ∀ v, config.logger ≠ some (.mute v)) (logged : List Statement) (t : Trail σ) :
    ∃ t', (logStatements config logged : Session σ Unit).Returns t () t' := by
  rw [logStatements]
  split
  · exact Session.exists_returns_forM
      (fun s _ u => Session.exists_returns_log .debug s.logLine audible u) t
  · exact ⟨t, Session.returns_pure.2 ⟨rfl, rfl⟩⟩

/-- The lookups of what depends on a column, inside one scope. -/
def lookUpDependencies (provider : Provider σ) (table column : Value) :
    Session σ (List Value × List Value × List Index) :=
  provider.within do
    let foreignKeys ← provider.foreignKeys table column
    let defaults ← provider.defaults table column
    let indexes ← provider.indexes table column
    return (foreignKeys, defaults, indexes)

theorem returns_dropDependencies {provider : Provider σ}
    (h : (b.dropDependencies provider table column).Returns t ss t') :
    ∃ foreignKeys defaults indexes u,
      (lookUpDependencies provider table column).Returns t (foreignKeys, defaults, indexes) u ∧
      b.dependencyDrops table foreignKeys defaults indexes = .ok ss ∧ t'.source = u.source := by
  obtain ⟨⟨foreignKeys, defaults, indexes⟩, u, found, h⟩ := Session.returns_bind.1 h
  obtain ⟨drops, hdrops, h⟩ := Session.returns_lift_bind.1 h
  refine ⟨foreignKeys, defaults, indexes, u, found, ?_⟩
  simp only at h
  split at h
  · obtain ⟨_, v, counted, h⟩ := Session.returns_bind.1 h
    obtain ⟨_, w, listed, h⟩ := Session.returns_bind.1 h
    obtain ⟨rfl, rfl⟩ := Session.returns_pure.1 h
    refine ⟨hdrops, ?_⟩
    exact (source_of_returns_logStatements listed).trans (Session.source_of_returns_log counted)
  · obtain ⟨rfl, rfl⟩ := Session.returns_pure.1 h
    exact ⟨hdrops, rfl⟩

end Composer

end SchemaDrift
