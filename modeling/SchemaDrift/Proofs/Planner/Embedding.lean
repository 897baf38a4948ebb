import SchemaDrift.Proofs.Model.Expansion
import SchemaDrift.Proofs.Planner.Rebuild
import SchemaDrift.Proofs.Planner.Staging

/-!
# New embedded attributes

The plan of a new embedded attribute is put together from the plans of its leaves, each of them
added under the column that the expansion gives it: first all that adds columns, then all foreign
keys (`planAdd_embedded_iff`). Since nothing is looked up on the way, the trails do not matter.
-/

namespace SchemaDrift

open Document (Value)

def Statement.isForeignKey (s : Statement) : Bool :=
  match s.command? with
  | some (.addForeignKey ..) => true
  | _ => false

namespace Plan

/-- The statements of a plan that are about what a column is like and what it holds. -/
def additions (plan : Plan) : List Statement :=
  plan.statements.filter fun s => s.aspect? = some .column

def foreignKeys (plan : Plan) : List Statement := plan.statements.filter (·.isForeignKey)

/-- Plans for columns of a table, put together: what adds the columns, then the foreign keys. -/
def together (table : Value) (plans : List Plan) : Plan where
  table := table
  statements := plans.flatMap additions ++ plans.flatMap foreignKeys
  warnings := plans.flatMap (·.warnings)

end Plan

namespace Planner

variable {σ : Type} {p : Planner} {e : Entity} {a : Attribute} {column : Value}
  {tableHasRows : Bool} {t u : Trail σ} {plan : Plan}

theorem gives_announce {announced : Plan} :
    (p.announce plan : Session σ Plan).Gives t announced ↔
      (∀ v, p.config.logger ≠ some (.mute v)) ∧ announced = plan := by
  constructor
  · rintro ⟨t', h⟩
    exact ⟨audible_of_returns_announce h, (returns_announce h).1⟩
  · rintro ⟨audible, rfl⟩
    exact exists_returns_announce audible announced t

theorem portable_announce : (p.announce plan : Session σ Plan).Portable := by
  intro t t' announced h u
  exact gives_announce.2 (gives_announce.1 ⟨t', h⟩)

theorem portable_additionParts {leaf : Attribute.Leaf} :
    (do p.additionParts e tableHasRows leaf.1 (newColumn a column (← leaf.2)) :
      Session σ _).Portable := by
  exact Session.Portable.bind (Session.portable_lift leaf.2) fun own => Session.portable_lift _

theorem portable_planAdd : (p.planAdd e a column tableHasRows : Session σ Plan).Portable := by
  refine Session.Portable.bind Composer.portable_addColumn fun additions => ?_
  refine Session.Portable.bind ?_ fun parts => portable_announce
  exact Session.portable_mapM (fun leaf => portable_additionParts) _

/-- What one column of a new attribute is added by, what it warns of and what it refers to. -/
abbrev ColumnParts := List Statement × List Value × List Statement

def planOf (table : Value) (qs : List ColumnParts) : Plan where
  table := table
  statements := qs.flatMap (·.1) ++ qs.flatMap (·.2.2)
  warnings := qs.flatMap (·.2.1)

/-- Under its column the leaf is added by the statements. -/
def AddedBy (p : Planner) (e : Entity) (tableHasRows : Bool) (t : Trail σ) (leaf : Attribute.Leaf)
    (group : List Statement) : Prop :=
  ∃ own, leaf.2 = .ok own ∧ (p.composer.addLeaf e leaf.1 own tableHasRows).Gives t group

/-- Under its column, or the one that takes its place, the leaf asks for warnings and keys. -/
def AsksFor (p : Planner) (e : Entity) (tableHasRows : Bool) (place : Value → Value)
    (leaf : Attribute.Leaf) (part : List Value × List Statement) : Prop :=
  ∃ own, leaf.2 = .ok own ∧ p.additionParts e tableHasRows leaf.1 (place own) = .ok part

def HasParts (p : Planner) (e : Entity) (tableHasRows : Bool) (t : Trail σ)
    (leaf : Attribute.Leaf) (q : ColumnParts) : Prop :=
  p.AddedBy e tableHasRows t leaf q.1 ∧ p.AsksFor e tableHasRows id leaf q.2

theorem gives_addColumn {ss : List Statement} :
    (p.composer.addColumn e a column tableHasRows : Session σ _).Gives t ss ↔
      ∃ groups, List.Forall₂ (p.AddedBy e tableHasRows t) (Composer.addedColumns a column) groups ∧
        groups.flatten = ss := by
  have portable (leaf : Attribute.Leaf) :
      (do p.composer.addLeaf e leaf.1 (← leaf.2) tableHasRows : Session σ _).Portable :=
    Session.Portable.bind (Session.portable_lift leaf.2) fun _ => Composer.portable_addLeaf
  rw [Composer.addColumn, Session.gives_bind fun groups => Session.portable_pure groups.flatten]
  simp only [Session.gives_mapM portable, Session.gives_pure,
    Session.gives_bind fun _ => Composer.portable_addLeaf, Session.gives_lift]
  rfl

theorem gives_planAdd :
    (p.planAdd e a column tableHasRows : Session σ Plan).Gives t plan ↔
      (∀ v, p.config.logger ≠ some (.mute v)) ∧ ∃ groups parts,
        List.Forall₂ (p.AddedBy e tableHasRows t) (Composer.addedColumns a column) groups ∧
        List.Forall₂ (p.AsksFor e tableHasRows (newColumn a column)) (a.expand (.ok "")) parts ∧
        plan = {
          table := e.table, statements := groups.flatten ++ parts.flatMap (·.2)
          warnings := parts.flatMap (·.1) } := by
  have announces (additions : List Statement) (parts : List (List Value × List Statement)) :
      (p.announce {
        table := e.table, statements := additions ++ parts.flatMap (·.2)
        warnings := parts.flatMap (·.1) } : Session σ Plan).Portable := portable_announce
  rw [planAdd, Session.gives_bind fun additions => Session.Portable.bind
    (Session.portable_mapM (fun leaf => portable_additionParts) _) (announces additions)]
  simp only [Session.gives_bind (announces _), gives_announce, gives_addColumn,
    Session.gives_mapM fun leaf => portable_additionParts,
    Session.gives_bind fun _ => Session.portable_lift _, Session.gives_lift]
  constructor
  · rintro ⟨_, ⟨groups, hgroups, rfl⟩, parts, hparts, audible, whole⟩
    exact ⟨audible, groups, parts, hgroups, hparts, whole⟩
  · rintro ⟨audible, groups, parts, hgroups, hparts, whole⟩
    exact ⟨_, ⟨groups, hgroups, rfl⟩, parts, hparts, audible, whole⟩

theorem planOf_eq (table : Value) (qs : List ColumnParts) :
    planOf table qs = {
      table, statements := (qs.map (·.1)).flatten ++ (qs.map (·.2)).flatMap (·.2)
      warnings := (qs.map (·.2)).flatMap (·.1) } := by
  simp only [planOf, List.flatMap_map, ← List.flatMap_def]

theorem gives_planAdd_embedded {f : Field} {first : Attribute} {rest : List Attribute} :
    (p.planAdd e (.embedded f first rest) column tableHasRows : Session σ Plan).Gives t plan ↔
      (∀ v, p.config.logger ≠ some (.mute v)) ∧ ∃ qs,
        List.Forall₂ (p.HasParts e tableHasRows t)
          ((Attribute.embedded f first rest).expand (.ok "")) qs ∧ plan = planOf e.table qs := by
  have added : Composer.addedColumns (.embedded f first rest) column =
      (Attribute.embedded f first rest).expand (.ok "") := rfl
  have kept : newColumn (.embedded f first rest) column = id := rfl
  rw [gives_planAdd, added, kept]
  refine and_congr_right fun _ => ?_
  constructor
  · rintro ⟨groups, parts, hgroups, hparts, rfl⟩
    obtain ⟨qs, hqs, rfl, rfl⟩ := forall₂_and_iff.1 ⟨hgroups, hparts⟩
    exact ⟨qs, hqs, (planOf_eq e.table qs).symm⟩
  · rintro ⟨qs, hqs, rfl⟩
    obtain ⟨hgroups, hparts⟩ := forall₂_and_iff.2 ⟨qs, hqs, rfl, rfl⟩
    exact ⟨_, _, hgroups, hparts, planOf_eq e.table qs⟩

theorem newColumn_of_isLeaf {leaf : Attribute.Leaf} (h : Attribute.IsLeaf leaf) {c : Value}
    (hc : leaf.2 = .ok c) :
    Composer.addedColumns leaf.1 c = [(leaf.1, .ok c)] ∧
      ∃ own, leaf.1.expand (.ok "") = [(leaf.1, .ok own)] ∧ newColumn leaf.1 c own = c := by
  obtain ⟨text, rfl⟩ := Attribute.exists_text_of_isLeaf h hc
  have named := Attribute.columnOr_of_isLeaf h hc
  obtain ⟨⟨f, ps⟩ | _, column⟩ := leaf
  · obtain ⟨-, pre, textual, whole⟩ := h
    obtain rfl : column = .ok (.text text) := hc
    obtain ⟨own, hown, hjoined⟩ := bind_eq_ok.1 whole.symm
    obtain ⟨front, hfront, hjoined⟩ := bind_eq_ok.1 hjoined
    obtain ⟨pre, rfl⟩ := textual front hfront
    cases own with
    | text name =>
      refine ⟨congrArg (fun r => [(_, r)]) named, .text name, ?_, ?_⟩
      · rw [Attribute.expand_plain, show f.columnName = _ from hown]
        show [(_, Except.ok (Value.text ("" ++ name)))] = _
        rw [String.empty_append]
      · exact Except.ok.inj ((columnOr_eq_newColumn hown).symm.trans named)
    | null | bool _ | int _ | real _ | moment _ | bytes _ | list _ | map _ => cases hjoined
  · cases h.1

theorem gives_planAdd_leaf {leaf : Attribute.Leaf} (h : Attribute.IsLeaf leaf) {c : Value}
    (hc : leaf.2 = .ok c) :
    (p.planAdd e leaf.1 c tableHasRows : Session σ Plan).Gives t plan ↔
      (∀ v, p.config.logger ≠ some (.mute v)) ∧
        ∃ q, p.HasParts e tableHasRows t leaf q ∧ plan = planOf e.table [q] := by
  obtain ⟨added, own, expanded, same⟩ := newColumn_of_isLeaf h hc
  rw [gives_planAdd, added, expanded]
  refine and_congr_right fun _ => ?_
  constructor
  · rintro ⟨groups, parts, hgroups, hparts, rfl⟩
    cases hgroups with
    | @cons _ group _ _ hgroup none =>
      cases none
      cases hparts with
      | @cons _ part _ _ hpart none =>
        cases none
        obtain ⟨_, known, adds⟩ := hgroup
        obtain ⟨_, known', parted⟩ := hpart
        cases known
        cases known'
        rw [same] at parted
        exact ⟨(group, part), ⟨⟨c, hc, adds⟩, ⟨c, hc, parted⟩⟩,
          (planOf_eq e.table [(group, part)]).symm⟩
  · rintro ⟨⟨group, part⟩, ⟨⟨c', hc', adds⟩, ⟨c'', hc'', parted⟩⟩, rfl⟩
    obtain rfl := Except.ok.inj (hc'.symm.trans hc)
    obtain rfl := Except.ok.inj (hc''.symm.trans hc)
    have parted : p.additionParts e tableHasRows leaf.1 (newColumn leaf.1 c'' own) = .ok part := by
      rw [same]
      exact parted
    exact ⟨[group], [part], .cons ⟨c'', rfl, adds⟩ .nil, .cons ⟨own, rfl, parted⟩ .nil,
      planOf_eq e.table [_]⟩

theorem isForeignKey_of_references {references : List Statement}
    (h : p.references e a column = .ok references) : ∀ s ∈ references, s.isForeignKey = true := by
  intro s hs
  have key := addForeignKey_of_mem_references h hs
  obtain ⟨owner, _, _, _, _, -, rfl⟩ := Composer.command_of_addForeignKey key
  rfl

theorem isForeignKey_eq_false {s : Statement} (h : s.aspect? = some .column) :
    s.isForeignKey = false := by
  rw [Statement.aspect?] at h
  rw [Statement.isForeignKey]
  split
  · next command =>
    rw [command] at h
    cases h
  · rfl

/-- The parts of a leaf are told apart by what their statements are about. -/
theorem HasParts.apart {leaf : Attribute.Leaf} {q : ColumnParts} (isLeaf : Attribute.IsLeaf leaf)
    (h : p.HasParts e tableHasRows t leaf q) :
    (∀ s ∈ q.1, s.aspect? = some .column) ∧ ∀ s ∈ q.2.2, s.isForeignKey = true := by
  obtain ⟨⟨own, hown, t', adds⟩, ⟨own', -, parted⟩⟩ := h
  constructor
  · obtain ⟨c, rfl⟩ := Attribute.exists_text_of_isLeaf isLeaf hown
    have stated := Attribute.columnOr_of_isLeaf isLeaf hown
    obtain ⟨named, hnamed, additions, -⟩ := Composer.returns_addLeaf adds
    rw [stated] at hnamed
    cases hnamed
    exact (Composer.additions_of_leafAdditions stated additions).aspect?_eq
  · obtain ⟨lacks, -, parted⟩ := bind_eq_ok.1 parted
    obtain ⟨references, refers, parted⟩ := bind_eq_ok.1 parted
    have same : references = q.2.2 := congrArg Prod.snd (pure_eq_ok.1 parted)
    rw [← same]
    exact isForeignKey_of_references refers

theorem statements_planOf (table : Value) (q : ColumnParts) :
    (planOf table [q]).statements = q.1 ++ q.2.2 := by
  simp only [planOf, List.flatMap_singleton]

theorem planOf_apart {q : ColumnParts} (additions : ∀ s ∈ q.1, s.aspect? = some .column)
    (keys : ∀ s ∈ q.2.2, s.isForeignKey = true) (table : Value) :
    (planOf table [q]).additions = q.1 ∧ (planOf table [q]).foreignKeys = q.2.2 := by
  have column : q.1.filter (fun s => s.aspect? = some .column) = q.1 := by
    rw [List.filter_eq_self]
    intro s hs
    exact decide_eq_true (additions s hs)
  have noColumn : q.2.2.filter (fun s => s.aspect? = some .column) = [] := by
    rw [List.filter_eq_nil_iff]
    intro s hs about
    have key := keys s hs
    rw [isForeignKey_eq_false (of_decide_eq_true about)] at key
    cases key
  have noKey : q.1.filter (·.isForeignKey) = [] := by
    rw [List.filter_eq_nil_iff]
    intro s hs
    simp [isForeignKey_eq_false (additions s hs)]
  have key : q.2.2.filter (·.isForeignKey) = q.2.2 := List.filter_eq_self.2 keys
  constructor
  · rw [Plan.additions, statements_planOf, List.filter_append, column, noColumn, List.append_nil]
  · rw [Plan.foreignKeys, statements_planOf, List.filter_append, noKey, key, List.nil_append]

/-- Under the column that it was expanded to, a leaf is added by the plan. -/
def AddsLeaf (p : Planner) (e : Entity) (tableHasRows : Bool) (t : Trail σ)
    (leaf : Attribute.Leaf) (plan : Plan) : Prop :=
  ∃ column t', leaf.2 = .ok column ∧
    (p.planAdd e leaf.1 column tableHasRows : Session σ Plan).Returns t plan t'

theorem addsLeaf_iff {leaf : Attribute.Leaf} (h : Attribute.IsLeaf leaf) :
    p.AddsLeaf e tableHasRows t leaf plan ↔
      (∀ v, p.config.logger ≠ some (.mute v)) ∧
        ∃ q, p.HasParts e tableHasRows t leaf q ∧ plan = planOf e.table [q] := by
  constructor
  · rintro ⟨c, t', hc, added⟩
    exact (gives_planAdd_leaf h hc).1 ⟨t', added⟩
  · rintro ⟨audible, q, parts, rfl⟩
    obtain ⟨c, hc, -⟩ := parts.1
    obtain ⟨t', added⟩ := (gives_planAdd_leaf h hc).2 ⟨audible, q, parts, rfl⟩
    exact ⟨c, t', hc, added⟩

theorem forall₂_addsLeaf_iff {plans : List Plan} :
    List.Forall₂ (p.AddsLeaf e tableHasRows t) (a.expand (.ok "")) plans ↔
      (∀ v, p.config.logger ≠ some (.mute v)) ∧
        ∃ qs, List.Forall₂ (p.HasParts e tableHasRows t) (a.expand (.ok "")) qs ∧
          plans = qs.map fun q => planOf e.table [q] := by
  rw [forall₂_congr_left fun leaf hleaf plan => addsLeaf_iff (Attribute.isLeaf_of_mem_columns hleaf),
    ← forall₂_image_iff]
  constructor
  · intro h
    refine ⟨?_, h.imp fun leaf plan each => each.2⟩
    cases leaves : a.expand (.ok "") with
    | nil => exact absurd leaves (a.expand_ne_nil _)
    | cons leaf leaves' =>
      rw [leaves] at h
      cases h with
      | cons first _ => exact first.1
  · rintro ⟨audible, h⟩
    exact h.imp fun leaf plan each => ⟨audible, each⟩

theorem together_eq {leaves : List Attribute.Leaf} {qs : List ColumnParts}
    (isLeaf : ∀ leaf ∈ leaves, Attribute.IsLeaf leaf)
    (h : List.Forall₂ (p.HasParts e tableHasRows t) leaves qs) (table : Value) :
    Plan.together table (qs.map fun q => planOf table [q]) = planOf table qs ∧
      (planOf table qs).statements.Perm
        ((qs.map fun q => planOf table [q]).flatMap (·.statements)) := by
  have known : ∀ q ∈ qs,
      (planOf table [q]).additions = q.1 ∧ (planOf table [q]).foreignKeys = q.2.2 := by
    intro q hq
    obtain ⟨leaf, hleaf, parts⟩ := exists_of_mem_forall₂ h.flip hq
    obtain ⟨additions, keys⟩ := HasParts.apart (isLeaf leaf hleaf) parts
    exact planOf_apart additions keys table
  have additions : qs.flatMap (fun q => (planOf table [q]).additions) = qs.flatMap (·.1) :=
    List.flatMap_congr fun q hq => (known q hq).1
  have keys : qs.flatMap (fun q => (planOf table [q]).foreignKeys) = qs.flatMap (·.2.2) :=
    List.flatMap_congr fun q hq => (known q hq).2
  have warnings (q : ColumnParts) : (planOf table [q]).warnings = q.2.1 :=
    List.flatMap_singleton ..
  constructor
  · simp only [Plan.together, List.flatMap_map, additions, keys, warnings]
    rfl
  · simp only [List.flatMap_map, statements_planOf]
    exact List.flatMap_append_perm qs (·.1) (·.2.2)

theorem gives_planAdd_embedded_iff {f : Field} {first : Attribute} {rest : List Attribute} :
    (p.planAdd e (.embedded f first rest) column tableHasRows : Session σ Plan).Gives t plan ↔
      ∃ plans, List.Forall₂ (p.AddsLeaf e tableHasRows u)
          ((Attribute.embedded f first rest).expand (.ok "")) plans ∧
        plan = .together e.table plans ∧ plan.statements.Perm (plans.flatMap (·.statements)) := by
  rw [portable_planAdd.gives_iff (u := u), gives_planAdd_embedded]
  simp only [forall₂_addsLeaf_iff]
  have isLeaf : ∀ leaf ∈ (Attribute.embedded f first rest).expand (.ok ""),
      Attribute.IsLeaf leaf := fun leaf => Attribute.isLeaf_of_mem_columns
  constructor
  · rintro ⟨audible, qs, hqs, rfl⟩
    obtain ⟨whole, reordered⟩ := together_eq isLeaf hqs e.table
    exact ⟨_, ⟨audible, qs, hqs, rfl⟩, whole.symm, reordered⟩
  · rintro ⟨_, ⟨audible, qs, hqs, rfl⟩, rfl, -⟩
    exact ⟨audible, qs, hqs, (together_eq isLeaf hqs e.table).1⟩

/--
A column stated for an embedded attribute changes nothing. The attribute can be added if and only if
each leaf can, and its plan is put together from those of the leaves.
-/
theorem planAdd_embedded_iff (p : Planner) (e : Entity) (f : Field) (first : Attribute)
    (rest : List Attribute) (tableHasRows : Bool) (t u : Trail σ) :
    (∀ column column', (p.planAdd e (.embedded f first rest) column tableHasRows : Session σ Plan) =
      p.planAdd e (.embedded f first rest) column' tableHasRows) ∧
    ∀ column,
      ((∃ plan t', (p.planAdd e (.embedded f first rest) column tableHasRows).Returns t plan t') ↔
        ∀ leaf ∈ (Attribute.embedded f first rest).expand (.ok ""),
          ∃ plan, p.AddsLeaf e tableHasRows u leaf plan) ∧
      ∀ plan, (∃ t', (p.planAdd e (.embedded f first rest) column tableHasRows).Returns t plan t') ↔
        ∃ plans, List.Forall₂ (p.AddsLeaf e tableHasRows u)
            ((Attribute.embedded f first rest).expand (.ok "")) plans ∧
          plan = .together e.table plans ∧
          plan.statements.Perm (plans.flatMap (·.statements)) := by
  refine ⟨fun column column' => rfl, fun column => ⟨?_, fun plan => gives_planAdd_embedded_iff⟩⟩
  constructor
  · rintro ⟨plan, returned⟩ leaf hleaf
    obtain ⟨plans, adds, -, -⟩ := (gives_planAdd_embedded_iff (u := u)).1 returned
    obtain ⟨part, -, added⟩ := exists_of_mem_forall₂ adds hleaf
    exact ⟨part, added⟩
  · intro each
    obtain ⟨plans, adds⟩ := exists_forall₂ each
    obtain ⟨-, qs, hqs, rfl⟩ := forall₂_addsLeaf_iff.1 adds
    have whole := together_eq (fun leaf => Attribute.isLeaf_of_mem_columns) hqs e.table
    refine ⟨_, gives_planAdd_embedded_iff.2 ⟨_, adds, rfl, ?_⟩⟩
    rw [whole.1]
    exact whole.2

/-- A delivery, which is required to tell whom it goes to. -/
def delivery : Attribute :=
  .embedded { name := "delivery", type := ⟨"Delivery", "Delivery"⟩, columnPrefix := "TO_" } buyer
    [.plain { name := "note", type := ⟨"java.lang.String", "String"⟩, length := .int 40 } []]

/-- What can be read of a plan: its statements, its foreign keys and its warnings. -/
def readings (plan : Plan) : List String × List String × List String :=
  (plan.statements.map (·.text), plan.foreignKeys.map (·.text), plan.warnings.map (·.display))

/-- The foreign key of the buyer comes behind the note, and once. -/
def deliveryReadings : List String × List String × List String :=
  (["alter table SALES_ORDER add TO_CUSTOMER_ID uniqueidentifier ^",
      "alter table SALES_ORDER alter column TO_CUSTOMER_ID uniqueidentifier not null ^",
      "alter table SALES_ORDER add TO_NOTE varchar(40) ^",
      "alter table SALES_ORDER add constraint FK_SALES_ORDER_TO_CUSTOMER_ID foreign key (" ++
        "TO_CUSTOMER_ID) references CUSTOMER(ID) ^"],
    ["alter table SALES_ORDER add constraint FK_SALES_ORDER_TO_CUSTOMER_ID foreign key (" ++
        "TO_CUSTOMER_ID) references CUSTOMER(ID) ^"],
    ["'SALES_ORDER.TO_CUSTOMER_ID' has no transitional default, existing rows must be " ++
        "filled before it becomes not null"])

theorem planAdd_embedded_iff_delivery :
    (filePlanner.planAdd salesOrder delivery "ELSEWHERE" true : Session Inventory Plan) =
        filePlanner.planAdd salesOrder delivery .null true ∧
      ∃ plan t' plans, (filePlanner.planAdd salesOrder delivery "ELSEWHERE" true).Returns
          { source := ({} : Inventory) } plan t' ∧
        List.Forall₂ (filePlanner.AddsLeaf salesOrder true { source := ({} : Inventory) })
          (delivery.expand (.ok "")) plans ∧
        plan = .together salesOrder.table plans ∧
        plan.statements.Perm (plans.flatMap (·.statements)) ∧ readings plan = deliveryReadings := by
  obtain ⟨anywhere, embedded⟩ := planAdd_embedded_iff filePlanner salesOrder delivery.field buyer
    [.plain { name := "note", type := ⟨"java.lang.String", "String"⟩, length := .int 40 } []] true
    { source := ({} : Inventory) } { source := ({} : Inventory) }
  obtain ⟨plan, t', returned, texts⟩ := Session.exists_returns_of_map
    (s := filePlanner.planAdd salesOrder delivery "ELSEWHERE" true)
    (t := { source := ({} : Inventory) }) (f := readings) (b := deliveryReadings) (by decide +kernel)
  obtain ⟨plans, adds, whole, reordered⟩ := ((embedded "ELSEWHERE").2 plan).1 ⟨t', returned⟩
  exact ⟨anywhere _ _, plan, t', plans, returned, adds, whole, reordered, texts⟩

end Planner

end SchemaDrift
