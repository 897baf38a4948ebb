import SchemaDrift.Proofs.Planner.Destruction

/-!
# Columns made anew

A column that is made anew is dropped as one that is no longer wanted, and added as a new one; only
the primary key takes another way, since it has to be given up before its column goes.
`planChange_drops_and_adds` compares the statements of the two ways. Which keys the plan adds is
said by `addedKeys_rebuilt`, and by `planChange_restores_keys_iff` when these are the keys of the
column.
-/

namespace SchemaDrift

open Document (Value)

theorem Document.Value.isTruthy_text {c : String} (stated : c ≠ "") :
    (Value.text c).isTruthy = true := by
  simp [Value.isTruthy, stated]

namespace Composer

variable {σ : Type} {b : Composer} {e : Entity} {a : Attribute} {column : Value}
  {tableHasRows : Bool}

theorem portable_addLeaf : (b.addLeaf e a column tableHasRows : Session σ _).Portable := by
  refine Session.Portable.bind (Session.portable_lift _) fun named => ?_
  refine Session.Portable.bind (Session.portable_lift _) fun additions => ?_
  refine Session.Portable.bind (Session.portable_lift _) fun lacks => ?_
  cases lacks with
  | true =>
    exact Session.Portable.bind (Session.portable_log _ _ _) fun _ =>
      Session.portable_pure additions
  | false => exact Session.portable_pure additions

theorem portable_addColumn : (b.addColumn e a column tableHasRows : Session σ _).Portable := by
  refine Session.Portable.bind (Session.portable_mapM (fun leaf => ?_) _) fun groups =>
    Session.portable_pure groups.flatten
  exact Session.Portable.bind (Session.portable_lift leaf.2) fun _ => portable_addLeaf

end Composer

namespace Planner

variable {σ : Type} {p : Planner} {provider : Provider σ} {e : Entity} {a : Attribute}
  {current : Option Column} {column : Value} {tableHasRows : Bool} {t t' : Trail σ} {plan : Plan}
  {d : Difference}

theorem audible_of_returns_announce {announced : Plan}
    (h : (p.announce plan : Session σ Plan).Returns t announced t') :
    ∀ v, p.config.logger ≠ some (.mute v) := by
  obtain ⟨_, _, reported, -⟩ := Session.returns_bind.1 h
  exact Session.audible_of_returns_log reported

theorem exists_returns_announce (audible : ∀ v, p.config.logger ≠ some (.mute v)) (plan : Plan)
    (t : Trail σ) : ∃ t', (p.announce plan : Session σ Plan).Returns t plan t' := by
  obtain ⟨u, reported⟩ :=
    Session.exists_returns_log .info ("Migration plan created:\n" ++ plan.report) audible t
  obtain ⟨v, listed⟩ :=
    Composer.exists_returns_logStatements audible (plan.statements ++ plan.separateDrops) u
  have warns : ∃ w, (plan.warnings.forM fun warning =>
      Session.log p.config.logger .warning warning.display : Session σ Unit).Returns v () w :=
    Session.exists_returns_forM
      (fun warning _ x => Session.exists_returns_log .warning warning.display audible x) v
  obtain ⟨w, warned⟩ := warns
  refine ⟨w, Session.returns_bind.2 ⟨(), u, reported, ?_⟩⟩
  refine Session.returns_bind.2 ⟨(), v, listed, ?_⟩
  exact Session.returns_bind.2 ⟨(), w, warned, Session.returns_pure.2 ⟨rfl, rfl⟩⟩

theorem returns_steps_of_rebuild {named : Value} (hnamed : Composer.columnOr column a = .ok named)
    (compared : p.difference e a current column = .ok d) (rebuild : d.kind = .rebuild)
    (h : (p.planChange provider e a current column tableHasRows).Returns t plan t') :
    ∃ dependencies keyDrops drop additions restored u w,
      (p.composer.dropDependencies provider e.table named).Returns t dependencies u ∧
      p.primaryKeyDrops e a = .ok keyDrops ∧ p.composer.dropColumn e.table named = .ok drop ∧
      (p.composer.addColumn e a named tableHasRows).Returns u additions w ∧
      p.keyStatements e a named = .ok restored ∧
      plan.statements = dependencies ++ keyDrops ++ [drop] ++ additions ++ restored ∧
      ∀ v, p.config.logger ≠ some (.mute v) := by
  obtain ⟨_, hnamed', h⟩ := Session.returns_lift_bind.1 h
  rw [hnamed] at hnamed'
  cases hnamed'
  obtain ⟨_, compared', h⟩ := Session.returns_lift_bind.1 h
  rw [difference_columnOr hnamed, compared] at compared'
  cases compared'
  simp only [rebuild] at h
  obtain ⟨statements, x, rebuilds, h⟩ := Session.returns_bind.1 h
  obtain ⟨dependencies, u, depends, rebuilds⟩ := Session.returns_bind.1 rebuilds
  obtain ⟨keyDrops, unlocks, rebuilds⟩ := Session.returns_lift_bind.1 rebuilds
  obtain ⟨drop, drops, rebuilds⟩ := Session.returns_lift_bind.1 rebuilds
  obtain ⟨additions, w, adds, rebuilds⟩ := Session.returns_bind.1 rebuilds
  obtain ⟨restored, restores, rebuilds⟩ := Session.returns_lift_bind.1 rebuilds
  obtain ⟨rfl, rfl⟩ := Session.returns_pure.1 rebuilds
  have audible := audible_of_returns_announce h
  obtain ⟨rfl, -⟩ := returns_announce h
  exact ⟨dependencies, keyDrops, drop, additions, restored, u, _, depends, unlocks, drops, adds,
    restores, rfl, audible⟩

theorem exists_returns_planDropColumn {table : Value} {dependencies : List Statement}
    {drop : Statement} (audible : ∀ v, p.config.logger ≠ some (.mute v))
    (depends : (p.composer.dropDependencies provider table column).Returns t dependencies t')
    (drops : p.composer.dropColumn table column = .ok drop) :
    ∃ u, (p.planDropColumn provider table column).Returns t
      { table, statements := dependencies ++ [drop] } u := by
  obtain ⟨u, announced⟩ :=
    exists_returns_announce audible { table, statements := dependencies ++ [drop] } t'
  refine ⟨u, Session.returns_bind.2 ⟨dependencies ++ [drop], t', ?_, announced⟩⟩
  refine Session.returns_bind.2 ⟨dependencies, t', depends, ?_⟩
  exact Session.returns_lift_bind.2 ⟨drop, drops, Session.returns_pure.2 ⟨rfl, rfl⟩⟩

/-- Whatever the state of the source, the column of a plain attribute is added in one way. -/
theorem exists_returns_planAdd {type : Value} {c own : String}
    {additions references : List Statement} (audible : ∀ v, p.config.logger ≠ some (.mute v)) (stated : c ≠ "")
    (typed : p.composer.columnType e a = .ok type) (hown : a.columnName = .ok (.text own))
    (adds : (p.composer.addColumn e a (.text c) tableHasRows).Returns t additions t')
    (refers : p.references e a (.text c) = .ok references) :
    ∃ added : Plan, added.statements = additions ++ references ∧
      ∀ u : Trail σ, ∃ u', (p.planAdd e a (.text c) tableHasRows).Returns u added u' := by
  have answered : ∃ lacks, p.composer.lacksFilling a.field tableHasRows = .ok lacks :=
    Composer.exists_lacksFilling typed
  obtain ⟨lacks, hlacks⟩ := answered
  have parted : ∃ warnings,
      p.additionParts e tableHasRows a (.text c) = .ok (warnings, references) := by
    rw [additionParts, hlacks, ok_bind, refers]
    exact ⟨_, rfl⟩
  obtain ⟨warnings, parted⟩ := parted
  obtain ⟨f, ps, rfl⟩ : ∃ f ps, a = .plain f ps := by
    cases a with
    | plain f ps => exact ⟨f, ps, rfl⟩
    | embedded f first rest => cases typed
  have single : (Attribute.plain f ps).expand (.ok "") =
      [(.plain f ps, .ok (.text ("" ++ own)))] := by
    rw [Attribute.expand_plain]
    show [(_, (Attribute.plain f ps).columnName >>= fun column => _)] = _
    rw [hown]
    rfl
  have target : newColumn (.plain f ps) (.text c) (.text ("" ++ own)) = .text c := by
    exact if_pos (Value.isTruthy_text stated)
  refine ⟨{ table := e.table, statements := additions ++ references, warnings }, rfl, fun u => ?_⟩
  obtain ⟨v, adds⟩ := Composer.portable_addColumn adds u
  obtain ⟨u', announced⟩ := exists_returns_announce audible
    { table := e.table, statements := additions ++ references, warnings } v
  refine ⟨u', Session.returns_bind.2 ⟨additions, v, adds, ?_⟩⟩
  refine Session.returns_bind.2 ⟨[(warnings, references)], v, ?_, ?_⟩
  · rw [single]
    refine Session.returns_mapM_of_forall₂ (.cons ?_ .nil)
    refine Session.returns_lift_bind.2 ⟨_, rfl, ?_⟩
    rw [target]
    exact Session.returns_lift.2 ⟨parted, rfl⟩
  · simpa using announced

/--
A column that is made anew goes as one that is dropped and comes as one that is added. The column of
a key gives up the primary key before it goes, and a primary key of the same name is declared after
it has come.
-/
theorem planChange_drops_and_adds {c own : String} (stated : c ≠ "")
    (hown : a.columnName = .ok (.text own))
    (compared : p.difference e a current (.text c) = .ok d) (changed : d.changes.type = true)
    (h : (p.planChange provider e a current (.text c) tableHasRows).Returns t plan t') :
    (a.field.isId = false → ∃ dropped added u,
      (p.planDropColumn provider e.table (.text c)).Returns t dropped u ∧
      (∀ v : Trail σ, ∃ v', (p.planAdd e a (.text c) tableHasRows).Returns v added v') ∧
      plan.statements = dropped.statements ++ added.statements) ∧
    (a.field.isId = true → ∃ dependencies drop additions owner constraint key u,
      (p.composer.dropDependencies provider e.table (.text c)).Returns t dependencies u ∧
      p.composer.dropConstraint e.table (.text ("PK_" ++ e.table.display)) =
        .ok (p.composer.issue (.dropConstraint owner constraint)) ∧
      p.composer.dropColumn e.table (.text c) = .ok drop ∧
      (∀ v : Trail σ, ∃ v',
        (p.composer.addColumn e a (.text c) tableHasRows).Returns v additions v') ∧
      plan.statements = dependencies ++
        [p.composer.issue (.dropConstraint owner constraint), drop] ++ additions ++
        [p.composer.issue (.addPrimaryKey owner constraint key)]) := by
  have rebuild : d.kind = .rebuild := (Changes.kind_eq_rebuild_iff _).2 changed
  have hnamed : Composer.columnOr (.text c) a = .ok (.text c) := by
    rw [Composer.columnOr, Value.stated?, if_pos (Value.isTruthy_text stated)]
  obtain ⟨dependencies, keyDrops, drop, additions, restored, u, w, depends, unlocks, drops, adds,
    restores, statements, audible⟩ := returns_steps_of_rebuild hnamed compared rebuild h
  obtain ⟨type, typed⟩ := columnType_of_difference compared
  rw [primaryKeyDrops] at unlocks
  rw [keyStatements] at restores
  constructor
  · intro isNoId
    rw [isNoId, if_neg Bool.false_ne_true] at unlocks restores
    cases unlocks
    obtain ⟨x, dropped⟩ := exists_returns_planDropColumn audible depends drops
    obtain ⟨added, whole, added_returns⟩ :=
      exists_returns_planAdd audible stated typed hown adds restores
    refine ⟨_, added, x, dropped, added_returns, ?_⟩
    rw [statements, whole]
    simp
  · intro isId
    rw [isId, if_pos rfl] at unlocks restores
    obtain ⟨keyDrop, hkeyDrop, unlocks⟩ := bind_eq_ok.1 unlocks
    obtain rfl := pure_eq_ok.1 unlocks
    obtain ⟨owner, constraint, howner, hconstraint, rfl⟩ :=
      Composer.command_of_dropConstraint hkeyDrop
    obtain ⟨keyed, own', owner', constraint', identifier, -, -, -, howner', hconstraint', rfl⟩ :=
      Composer.exists_key_of_addPrimaryKey restores
    rw [howner] at howner'
    rw [hconstraint] at hconstraint'
    cases howner'
    cases hconstraint'
    refine ⟨dependencies, drop, additions, owner, constraint, ⟨e.keyType == .uuid, identifier⟩, u,
      depends, hkeyDrop, drops, Composer.portable_addColumn adds, ?_⟩
    rw [statements]
    simp

def buyer : Attribute :=
  .plain { name := "customer", type := ⟨"Customer", "Customer"⟩, isMandatory := true
           isReference := true, target := "CUSTOMER" } []

def salesOrder : Entity where
  name := "SalesOrder"
  table := "SALES_ORDER"
  attributes := [buyer]

def salesOrderRecords : Inventory where
  foreignKeyEntries := [⟨"SALES_ORDER", "FK_SALES_ORDER_CUSTOMER_ID", "CUSTOMER_ID"⟩]
  indexEntries := [⟨"SALES_ORDER", "CUSTOMER_ID", { name := "IX_CUSTOMER" }⟩]

theorem planChange_drops_and_adds_buyer :
    ∃ plan trail dropped added u v,
      (filePlanner.planChange Inventory.provider salesOrder buyer (some { type := "varchar" })
        "CUSTOMER_ID" true).Returns { source := salesOrderRecords } plan trail ∧
      (filePlanner.planDropColumn Inventory.provider salesOrder.table "CUSTOMER_ID").Returns
        { source := salesOrderRecords } dropped u ∧
      (filePlanner.planAdd salesOrder buyer "CUSTOMER_ID" true).Returns
        { source := salesOrderRecords } added v ∧
      plan.statements = dropped.statements ++ added.statements ∧
      plan.statements.map (·.text) = [
        "alter table SALES_ORDER drop constraint FK_SALES_ORDER_CUSTOMER_ID ^",
        "drop index IX_CUSTOMER on SALES_ORDER ^",
        "alter table SALES_ORDER drop column CUSTOMER_ID ^",
        "alter table SALES_ORDER add CUSTOMER_ID uniqueidentifier ^",
        "alter table SALES_ORDER alter column CUSTOMER_ID uniqueidentifier not null ^",
        "alter table SALES_ORDER add constraint FK_SALES_ORDER_CUSTOMER_ID foreign key (" ++
          "CUSTOMER_ID) references CUSTOMER(ID) ^"] := by
  obtain ⟨plan, trail, returned, texts⟩ := Session.exists_returns_of_map
    (s := filePlanner.planChange Inventory.provider salesOrder buyer
      (some { type := "varchar" }) "CUSTOMER_ID" true) (t := { source := salesOrderRecords })
    (f := fun plan => plan.statements.map (·.text)) (b := [
      "alter table SALES_ORDER drop constraint FK_SALES_ORDER_CUSTOMER_ID ^",
      "drop index IX_CUSTOMER on SALES_ORDER ^",
      "alter table SALES_ORDER drop column CUSTOMER_ID ^",
      "alter table SALES_ORDER add CUSTOMER_ID uniqueidentifier ^",
      "alter table SALES_ORDER alter column CUSTOMER_ID uniqueidentifier not null ^",
      "alter table SALES_ORDER add constraint FK_SALES_ORDER_CUSTOMER_ID foreign key (" ++
        "CUSTOMER_ID) references CUSTOMER(ID) ^"]) (by decide +kernel)
  have compared : filePlanner.difference salesOrder buyer (some { type := "varchar" })
      "CUSTOMER_ID" = .ok {
        table := "SALES_ORDER", column := "CUSTOMER_ID"
        desired := some { type := "uniqueidentifier", nullable := .bool false }
        current := some { type := "varchar" }, marks := .ofChanges { type := true } } := by
    decide +kernel
  have own : buyer.columnName = .ok "CUSTOMER_ID" := by decide +kernel
  obtain ⟨plain, -⟩ := planChange_drops_and_adds (by decide) own compared rfl returned
  obtain ⟨dropped, added, u, drops, adds, parts⟩ := plain rfl
  obtain ⟨v, adds⟩ := adds { source := salesOrderRecords }
  exact ⟨plan, trail, dropped, added, u, v, returned, drops, adds, parts, texts⟩

def addedKeys (plan : Plan) : List Statement :=
  plan.statements.filter fun s => s.aspect? = some .key

theorem mem_addedKeys {s : Statement} :
    s ∈ addedKeys plan ↔ s ∈ plan.statements ∧ s.aspect? = some .key := by
  rw [addedKeys, List.mem_filter, decide_eq_true_iff]

theorem filter_key_of_category_drop {ss : List Statement} (h : ∀ s ∈ ss, s.category = .drop) :
    (ss.filter fun s => s.aspect? = some .key) = [] := by
  rw [List.filter_eq_nil_iff]
  intro s hs about
  cases Statement.aspect?_of_category_drop (h s hs) (of_decide_eq_true about)

/-- A column that is made anew is declared as a key once more, and nothing else is. -/
theorem addedKeys_rebuilt
    (h : (p.planChange provider e a current column tableHasRows).Returns t plan t')
    (rebuild : plan.kind = .rebuild) :
    ∃ named identifier, Composer.columnOr column a = .ok named ∧
      p.composer.identify named = .ok identifier ∧
      p.keyStatements e a named = .ok (addedKeys plan) := by
  obtain ⟨named, hnamed, change⟩ := changePlan_of_returns h
  have own := Composer.columnOr_columnOr hnamed
  cases change with
  | kept compared kind whole =>
    subst whole
    rw [Plan.kind_of_differences rfl, kind] at rebuild
    cases rebuild
  | altered compared kind typed alters =>
    obtain ⟨-, differences, -⟩ := alterations_eq_ok alters
    rw [Plan.kind_of_differences differences, kind] at rebuild
    cases rebuild
  | @rebuilt d dependencies keyDrops additions restored drop u compared kind depends unlocks drops
      adds restores whole =>
    subst whole
    obtain ⟨owner, dropped, -, hdropped, -⟩ := Composer.issues_dropColumn drops
    have dropping := category_rebuildDrops depends unlocks drops
    have adding : (additions.filter fun s => s.aspect? = some .key) = [] := by
      rw [List.filter_eq_nil_iff]
      intro s hs
      rw [(Composer.additions_of_leafAdditions own adds).aspect?_eq s hs]
      decide
    have keying : (restored.filter fun s => s.aspect? = some .key) = restored := by
      rw [List.filter_eq_self]
      intro s hs
      exact decide_eq_true (aspect?_of_keyStatements restores s hs)
    refine ⟨named, dropped, hnamed, hdropped, ?_⟩
    rw [addedKeys, List.filter_append, List.filter_append, filter_key_of_category_drop dropping,
      adding, keying]
    exact restores

/-- A plan declares the keys that a column is created with: it refers, or identifies, again. -/
structure RestoresKeys (p : Planner) (e : Entity) (a : Attribute) (column : Value) (plan : Plan) :
    Prop where
  reference : a.field.reference? ≠ none →
    ∃ s ∈ plan.statements, p.composer.addForeignKey e a column = .ok s
  identity : a.field.isId = true → ∃ owner constraint key,
    p.composer.issue (.addPrimaryKey owner constraint key) ∈ plan.statements ∧
      p.composer.identify column = .ok key.column

/-- The key attribute of an entity lives in a column of this name. -/
def HasKeyColumn (p : Planner) (e : Entity) (column : Value) : Prop :=
  ∃ keyed own, e.keyAttribute = .ok keyed ∧ keyed.columnName = .ok own ∧
    p.composer.identify own = p.composer.identify column

/-- A column that is no key refers again, and has no primary key to lose. -/
theorem restoresKeys_of_isId_false {named : Value} (isNoId : a.field.isId = false)
    (keys : p.keyStatements e a named = .ok (addedKeys plan)) : p.RestoresKeys e a named plan := by
  rw [keyStatements, isNoId, if_neg Bool.false_ne_true, references] at keys
  refine ⟨fun refers => ?_, fun isId => ?_⟩
  · split at keys
    · obtain ⟨s, hs, keys⟩ := bind_eq_ok.1 keys
      refine ⟨s, (mem_addedKeys.1 ?_).1, hs⟩
      rw [← pure_eq_ok.1 keys]
      exact List.mem_singleton_self s
    · next refersNot => exact absurd refersNot refers
  · rw [isNoId] at isId
    cases isId

/-- A key gets its primary key again, over the column that the key attribute states, and no more. -/
theorem restoresKeys_iff_of_isId {named : Value} (isId : a.field.isId = true)
    (keys : p.keyStatements e a named = .ok (addedKeys plan)) :
    p.RestoresKeys e a named plan ↔ a.field.reference? = none ∧ p.HasKeyColumn e named := by
  rw [keyStatements, isId, if_pos rfl] at keys
  obtain ⟨keyed, own, owner, constraint, identified, hkeyed, hown, hidentified, -, -, whole⟩ :=
    Composer.exists_key_of_addPrimaryKey keys
  have mem_iff (s : Statement) : s ∈ plan.statements ∧ s.aspect? = some .key ↔
      s = p.composer.issue (.addPrimaryKey owner constraint ⟨e.keyType == .uuid, identified⟩) := by
    rw [← mem_addedKeys, whole, List.mem_singleton]
  constructor
  · intro restores
    constructor
    · by_contra refers
      obtain ⟨s, hs, hreference⟩ := restores.reference refers
      obtain ⟨owner', _, _, _, _, -, rfl⟩ := Composer.command_of_addForeignKey hreference
      cases (mem_iff _).1 ⟨hs, rfl⟩
    · obtain ⟨owner', constraint', key, hs, hkey⟩ := restores.identity isId
      cases (mem_iff _).1 ⟨hs, rfl⟩
      exact ⟨keyed, own, hkeyed, hown, hidentified.trans hkey.symm⟩
  · rintro ⟨refersNot, keyed', own', hkeyed', hown', same⟩
    rw [hkeyed] at hkeyed'
    cases hkeyed'
    rw [hown] at hown'
    cases hown'
    refine ⟨fun refers => absurd refersNot refers, fun _ => ?_⟩
    exact ⟨owner, constraint, ⟨e.keyType == .uuid, identified⟩, ((mem_iff _).2 rfl).1,
      same.symm.trans hidentified⟩

/--
What is declared is the primary key alone for a key, over the column that the key attribute states,
and the foreign key for any other reference.
-/
theorem planChange_restores_keys_iff
    (h : (p.planChange provider e a current column tableHasRows).Returns t plan t')
    (rebuild : plan.kind = .rebuild) :
    ∃ named, Composer.columnOr column a = .ok named ∧
      (p.RestoresKeys e a named plan ↔
        (a.field.isId = true → a.field.reference? = none ∧ p.HasKeyColumn e named)) := by
  obtain ⟨named, -, hnamed, -, keys⟩ := addedKeys_rebuilt h rebuild
  refine ⟨named, hnamed, ?_⟩
  cases isId : a.field.isId with
  | true =>
    rw [restoresKeys_iff_of_isId isId keys, forall_prop_of_true rfl]
  | false => exact iff_of_true (restoresKeys_of_isId_false isId keys) nofun

/-- A key that refers to another table as well. -/
def profileOwner : Attribute :=
  .plain { name := "customer", type := ⟨"Customer", "Customer"⟩, isId := true
           isReference := true, target := "CUSTOMER" } []

def customerProfile : Entity where
  name := "CustomerProfile"
  table := "CUSTOMER_PROFILE"
  attributes := [profileOwner]

/-- The foreign key of a shared key is lost, and so is a primary key over any other column. -/
theorem planChange_restores_keys_lost :
    [Value.null, "CLIENT_ID"].map (fun column =>
      ((filePlanner.planChange Inventory.provider customerProfile profileOwner
        (some { type := "varchar", nullable := .bool false }) column true).start {}).1.toOption.map
          fun plan => (plan.kind, (addedKeys plan).map (·.text))) = [
      some (.rebuild, ["alter table CUSTOMER_PROFILE add constraint PK_CUSTOMER_PROFILE " ++
        "primary key nonclustered (CUSTOMER_ID) ^"]),
      some (.rebuild, ["alter table CUSTOMER_PROFILE add constraint PK_CUSTOMER_PROFILE " ++
        "primary key nonclustered (CUSTOMER_ID) ^"])] ∧
    ((filePlanner.planCreate customerProfile).start ({} : Inventory)).1.toOption.map
      (fun plan => (addedKeys plan).map (·.text)) =
      some ["alter table CUSTOMER_PROFILE add constraint FK_CUSTOMER_PROFILE_CUSTOMER_ID " ++
        "foreign key (CUSTOMER_ID) references CUSTOMER(ID) ^"] := by
  decide +kernel

theorem planChange_restores_keys_buyer :
    ∃ plan trail,
      (filePlanner.planChange Inventory.provider salesOrder buyer (some { type := "varchar" })
        .null true).Returns { source := salesOrderRecords } plan trail ∧
      filePlanner.RestoresKeys salesOrder buyer "CUSTOMER_ID" plan := by
  obtain ⟨plan, trail, returned, rebuild⟩ := Session.exists_returns_of_map
    (s := filePlanner.planChange Inventory.provider salesOrder buyer
      (some { type := "varchar" }) .null true) (t := { source := salesOrderRecords })
    (f := Plan.kind) (b := .rebuild) (by decide +kernel)
  obtain ⟨named, hnamed, restores⟩ := planChange_restores_keys_iff returned rebuild
  have own : Composer.columnOr .null buyer = .ok "CUSTOMER_ID" := by decide +kernel
  rw [own] at hnamed
  cases hnamed
  exact ⟨plan, trail, returned, restores.2 nofun⟩

end Planner

end SchemaDrift
