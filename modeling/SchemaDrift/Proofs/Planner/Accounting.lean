import Mathlib.Data.List.Nodup
import SchemaDrift.Catalog.Builtin
import SchemaDrift.Metadata.Inventory
import SchemaDrift.Proofs.Identifier.Token
import SchemaDrift.Proofs.Planner.Effects

/-!
# Accounting for a whole entity

How often the plan of an entity drops a column, how often it adds one, and which differences it
reports. Names count as the same if they agree in upper case; with names that are not written in
quotes, and with single marks for quotes, that is when their statements have the same text.
-/

namespace SchemaDrift

open Document (Value)

/-- How often a statement occurs in a plan: those that are kept apart count, and texts decide. -/
def Plan.occurrences (plan : Plan) (s : Statement) : Nat :=
  (plan.statements ++ plan.separateDrops).countP (·.text == s.text)

/-! ### Dependencies of any kind -/

/-- The effects are on what hangs on columns. -/
def OnDependencies (_ : Value) (es : List Effect) : Prop := ∀ x ∈ es, x.isDependency = true

theorem onDependencies_constraints (column : Value) (constraints : List Identifier) :
    OnDependencies column (constraints.map .dropsConstraint) := by
  intro x hx
  obtain ⟨constraint, -, rfl⟩ := List.mem_map.1 hx
  rfl

theorem onDependencies_drops (column : Value) (constraints indexes : List Identifier) :
    OnDependencies column (constraints.map .dropsConstraint ++ indexes.map .dropsIndex) := by
  intro x hx
  rcases List.mem_append.1 hx with hx | hx
  · exact onDependencies_constraints column constraints x hx
  · obtain ⟨index, -, rfl⟩ := List.mem_map.1 hx
    rfl

theorem Effect.droppedColumn?_of_isDependency {x : Effect} (h : x.isDependency = true) :
    x.droppedColumn? = none := by
  cases x <;> first | rfl | cases h

theorem Effect.addedColumn?_of_isDependency {x : Effect} (h : x.isDependency = true) :
    x.addedColumn? = none := by
  cases x <;> first | rfl | cases h

theorem filterMap_of_onDependencies {α : Type} {f : Effect → Option α} {column : Value}
    {es : List Effect} (silent : ∀ {x}, Effect.isDependency x = true → f x = none)
    (h : OnDependencies column es) : es.filterMap f = [] := by
  rw [List.filterMap_eq_nil_iff]
  intro x hx
  exact silent (h x hx)

theorem droppedColumn?_of_onDependencies {column : Value} {es : List Effect}
    (h : OnDependencies column es) : es.filterMap Effect.droppedColumn? = [] :=
  filterMap_of_onDependencies Effect.droppedColumn?_of_isDependency h

theorem addedColumn?_of_onDependencies {column : Value} {es : List Effect}
    (h : OnDependencies column es) : es.filterMap Effect.addedColumn? = [] :=
  filterMap_of_onDependencies Effect.addedColumn?_of_isDependency h

namespace Planner

variable {σ : Type} {p : Planner} {provider : Provider σ} {e : Entity} {found : Found}
  {tableHasRows : Bool} {plan : Plan} {columns : List (Value × Option Column)} {t t' : Trail σ}

theorem looksUp_onDependencies :
    p.composer.LooksUp provider e.table (fun _ => True) (p.Issuing e OnDependencies) := by
  intro column t t' ss _ h
  obtain ⟨_, _, _, _, -, h, -⟩ := Composer.returns_dropDependencies h
  obtain ⟨constraints, indexes, -, -, issues⟩ := Composer.issues_dependencyDrops h
  exact ⟨⟨_, onDependencies_drops column constraints indexes, issues⟩, trivial⟩

/-! ### Columns dropped and added -/

def written (p : Planner) (name : String) : Identifier := p.composer.catalog.quoter.identifier name

theorem eq_written_of_identify {name : String} {i : Identifier}
    (h : p.composer.identify (.text name) = .ok i) : i = p.written name := by
  obtain ⟨name', same, rfl⟩ := Quoter.exists_text_of_identify h
  cases same
  rfl

/-- Whether a declared column was found and is made anew. -/
def rebuilds (p : Planner) (e : Entity) (found : Found) (l : Declared) : Bool :=
  match found.get? l.key with
  | none => false
  | some current =>
    match p.difference e l.1 current (.text l.2) with
    | .ok d => d.kind == .rebuild
    | .error _ => false

/-- Whether a declared column is added: it was not found, or is made anew. -/
def brings (p : Planner) (e : Entity) (found : Found) (l : Declared) : Bool :=
  (found.get? l.key).isNone || p.rebuilds e found l

theorem droppedColumns_of_leafEffects {l : Declared} {es : List Effect}
    (h : p.LeafEffects OnDependencies e found tableHasRows l es) :
    es.filterMap Effect.droppedColumn? =
      if p.rebuilds e found l then [p.written l.2] else [] := by
  cases h with
  | added missing => simp [rebuilds, missing, Effect.droppedColumn?]
  | altered present compared mild => simp [rebuilds, present, compared, mild]
  | @rebuilt _ _ _ constraints _ _ present compared severe depends _ drops =>
    have locked := onDependencies_constraints (.text l.2) constraints
    rw [List.filterMap_append, List.filterMap_append, droppedColumn?_of_onDependencies depends,
      droppedColumn?_of_onDependencies locked, eq_written_of_identify drops]
    simp [rebuilds, present, compared, severe, Effect.droppedColumn?]

theorem addedColumns_of_leafEffects {l : Declared} {es : List Effect}
    (h : p.LeafEffects OnDependencies e found tableHasRows l es) :
    if p.brings e found l then ∃ definition, p.additionOf e tableHasRows l = .ok definition ∧
      es.filterMap Effect.addedColumn? = [definition]
    else es.filterMap Effect.addedColumn? = [] := by
  cases h with
  | @added definition missing adds =>
    have brought : p.brings e found l = true := by simp [brings, missing]
    rw [if_pos brought]
    exact ⟨definition, adds, rfl⟩
  | altered present compared mild =>
    have kept : p.brings e found l = false := by simp [brings, rebuilds, present, compared, mild]
    rw [kept]
    rfl
  | @rebuilt _ _ _ constraints _ definition present compared severe depends _ _ adds =>
    have brought : p.brings e found l = true := by
      simp [brings, rebuilds, present, compared, severe]
    have locked := onDependencies_constraints (.text l.2) constraints
    rw [if_pos brought, List.filterMap_append, List.filterMap_append,
      addedColumn?_of_onDependencies depends, addedColumn?_of_onDependencies locked]
    exact ⟨definition, adds, rfl⟩

theorem droppedColumns_leaves {ls : List Declared} {effects : List (List Effect)}
    (h : List.Forall₂ (p.LeafEffects OnDependencies e found tableHasRows) ls effects) :
    effects.flatten.filterMap Effect.droppedColumn? =
      (ls.filter (p.rebuilds e found)).map fun l => p.written l.2 := by
  induction h with
  | nil => rfl
  | @cons l es ls effects first _ ih =>
    rw [List.flatten_cons, List.filterMap_append, ih, droppedColumns_of_leafEffects first,
      List.filter_cons]
    split <;> simp

theorem droppedColumns_orphans {orphans : List String} {effects : List (List Effect)}
    (h : List.Forall₂ (p.OrphanEffects OnDependencies) orphans effects) :
    effects.flatten.filterMap Effect.droppedColumn? = orphans.map p.written := by
  induction h with
  | nil => rfl
  | cons first _ ih =>
    obtain ⟨dependencies, dropped, depends, drops, rfl⟩ := first
    rw [List.flatten_cons, List.filterMap_append, List.filterMap_append, ih,
      droppedColumn?_of_onDependencies depends, eq_written_of_identify drops]
    rfl

theorem addedColumns_leaves {ls : List Declared} {effects : List (List Effect)}
    (h : List.Forall₂ (p.LeafEffects OnDependencies e found tableHasRows) ls effects) :
    List.Forall₂ (fun l definition => p.additionOf e tableHasRows l = .ok definition)
      (ls.filter (p.brings e found)) (effects.flatten.filterMap Effect.addedColumn?) := by
  induction h with
  | nil => exact .nil
  | @cons l es ls effects first _ ih =>
    have now := addedColumns_of_leafEffects first
    rw [List.flatten_cons, List.filterMap_append, List.filter_cons]
    split
    · next brought =>
      rw [if_pos brought] at now
      obtain ⟨definition, adds, single⟩ := now
      rw [single]
      exact .cons adds ih
    · next kept =>
      rw [if_neg kept] at now
      rw [now]
      exact ih

theorem addedColumns_orphans {orphans : List String} {effects : List (List Effect)}
    (h : List.Forall₂ (p.OrphanEffects OnDependencies) orphans effects) :
    effects.flatten.filterMap Effect.addedColumn? = [] := by
  induction h with
  | nil => rfl
  | cons first _ ih =>
    obtain ⟨dependencies, dropped, depends, -, rfl⟩ := first
    rw [List.flatten_cons, List.filterMap_append, List.filterMap_append, ih,
      addedColumn?_of_onDependencies depends]
    rfl

/-! ### Names that are not quoted -/

theorem column_of_additionOf {l : Declared} {definition : ColumnDefinition} (hl : l ∈ e.declared)
    (h : p.additionOf e tableHasRows l = .ok definition) : definition.column = p.written l.2 := by
  obtain ⟨named, hnamed, hcolumn⟩ := Composer.identify_of_columnDefinition h
  rw [Entity.columnOr_of_mem_declared hl] at hnamed
  cases hnamed
  exact eq_written_of_identify hcolumn

section Unquoted

variable {o k : Char} (quotes : p.composer.catalog.QuotesWith o k)

include quotes

theorem identify_text (name : String) : p.composer.identify (.text name) = .ok (p.written name) :=
  Quoter.identify_text quotes.isMarked.opens quotes.isMarked.closes name

theorem written_eq_iff {n m : String} (hn : p.composer.catalog.quoter.isQuoted n = false)
    (hm : p.composer.catalog.quoter.isQuoted m = false) :
    p.written n = p.written m ↔ Text.upper n = Text.upper m := by
  rw [written, written, Quoter.identifier, Quoter.identifier, Identifier.mk.injEq]
  exact Quoter.normalize_eq_iff quotes.isMarked hn hm

theorem count_written {X : String} {names : List String}
    (hX : p.composer.catalog.quoter.isQuoted X = false)
    (hnames : ∀ n ∈ names, p.composer.catalog.quoter.isQuoted n = false) :
    (names.map p.written).count (p.written X) = (names.map Text.upper).count (Text.upper X) := by
  rw [List.count, List.count, List.countP_map, List.countP_map]
  apply List.countP_congr
  intro n hn
  simpa using written_eq_iff quotes (hnames n hn) hX

/-- Definitions of columns that are not quoted are written alike only for one column. -/
theorem key_eq_of_render_eq {l l' : Declared} {definition definition' : ColumnDefinition}
    (hl : p.composer.catalog.quoter.isQuoted l.2 = false)
    (hl' : p.composer.catalog.quoter.isQuoted l'.2 = false)
    (column : definition.column = p.written l.2) (column' : definition'.column = p.written l'.2)
    (h : definition.render = definition'.render) : l.key = l'.key := by
  have lists := congrArg String.toList h
  simp only [ColumnDefinition.render, String.toList_append, column, column', List.append_assoc]
    at lists
  have tokens := append_inj_of_isToken quotes.mark_opening quotes.mark_closing
    (Quoter.isToken_normalize quotes.isMarked hl) (Quoter.isToken_normalize quotes.isMarked hl')
    lists
  have same : p.written l.2 = p.written l'.2 :=
    congrArg Identifier.mk (String.toList_inj.1 tokens.1)
  exact (written_eq_iff quotes hl hl').1 same

end Unquoted

/-! ### Accounts -/

theorem mem_columnsByName (h : columnsByName columns = .ok found) {key : String}
    (hkey : key ∈ found.keys) :
    ∃ name current, (.text name, current) ∈ columns ∧ key = Text.upper name := by
  rw [columnsByName, bind_eq_ok] at h
  obtain ⟨entries, hentries, collected⟩ := h
  obtain rfl := pure_eq_ok.1 collected
  have mem := OrderedMap.mem_keys_ofList hkey
  rw [mapM_eq_ok] at hentries
  clear collected hkey
  induction hentries with
  | nil => cases mem
  | @cons c entry cs entries first _ ih =>
    rw [List.map_cons, List.mem_cons] at mem
    rcases mem with rfl | mem
    · obtain ⟨name, hname, first⟩ := bind_eq_ok.1 first
      obtain rfl := pure_eq_ok.1 first
      obtain ⟨v, current⟩ := c
      cases v <;> cases hname
      exact ⟨_, current, List.mem_cons_self .., rfl⟩
    · obtain ⟨name, current, hc, hname⟩ := ih mem
      exact ⟨name, current, List.mem_cons_of_mem _ hc, hname⟩

/-- The declared columns that were found, each with what was found. -/
def matched (found : Found) : List Declared → List (Declared × Option Column)
  | [] => []
  | l :: ls =>
    match found.get? l.key with
    | some current => (l, current) :: matched found ls
    | none => matched found ls

theorem differences_of_leafPlans {R : Value → List Statement → Prop} {ls : List Declared}
    {parts : List Plan} (h : List.Forall₂ (p.LeafPlan R e found tableHasRows) ls parts) :
    (matched found ls).mapM (fun m => p.difference e m.1.1 m.2 (.text m.1.2)) =
      .ok (parts.flatMap (·.differences)) := by
  induction h with
  | nil => rfl
  | @cons l part ls parts first _ ih =>
    have found' : ∀ {current d}, found.get? l.key = some current →
        p.difference e l.1 current (.text l.2) = .ok d → part.differences = [d] →
        (matched found (l :: ls)).mapM (fun m => p.difference e m.1.1 m.2 (.text m.1.2)) =
          .ok ((part :: parts).flatMap (·.differences)) := by
      intro current d present compared differences
      rw [matched, present, List.mapM_cons, compared, ok_bind, ih, List.flatMap_cons, differences]
      rfl
    cases first with
    | added missing _ _ _ differences =>
      rw [matched, missing, ih, List.flatMap_cons, differences, List.nil_append]
    | altered present compared _ _ differences => exact found' present compared differences
    | rebuilt present compared _ _ _ _ _ _ _ differences =>
      exact found' present compared differences

theorem countP_of_forall₂ {α β : Type} {R : α → β → Prop} {P : α → Bool} {Q : β → Bool}
    {xs : List α} {ys : List β} (h : List.Forall₂ R xs ys)
    (agree : ∀ x ∈ xs, ∀ {y}, R x y → (Q y = true ↔ P x = true)) : ys.countP Q = xs.countP P := by
  induction h with
  | nil => rfl
  | @cons x y xs ys first _ ih =>
    have now : Q y = P x := Bool.eq_iff_iff.2 (agree x (List.mem_cons_self ..) first)
    rw [List.countP_cons, List.countP_cons, now,
      ih fun x' hx' => agree x' (List.mem_cons_of_mem x hx')]

theorem ne_key_of_mem_orphans {orphan : String} (h : orphan ∈ p.orphans e found) {l : Declared}
    (hl : l ∈ e.declared) : orphan ≠ l.key := by
  obtain ⟨entry, hentry, rfl⟩ := List.mem_map.1 h
  have undeclared := (List.mem_filter.1 hentry).2
  simp only [isOrphan, Bool.and_eq_true, decide_eq_true_eq] at undeclared
  intro same
  exact undeclared.1 (same ▸ List.mem_map_of_mem hl)

theorem nodup_dropped (distinct : (e.declared.map Declared.key).Nodup) :
    ((e.declared.filter (p.rebuilds e found)).map Declared.key ++ p.orphans e found).Nodup := by
  rw [List.nodup_append]
  refine ⟨distinct.sublist (List.filter_sublist.map _), ?_, ?_⟩
  · exact found.nodup.sublist (List.filter_sublist.map _)
  · intro key hkey orphan horphan same
    obtain ⟨l, hl, rfl⟩ := List.mem_map.1 hkey
    exact ne_key_of_mem_orphans horphan (List.mem_filter.1 hl).1 same.symm

theorem mem_keys_of_mem_orphans {orphan : String} (h : orphan ∈ p.orphans e found) :
    orphan ∈ found.keys := by
  obtain ⟨entry, hentry, rfl⟩ := List.mem_map.1 h
  exact List.mem_map_of_mem (List.mem_filter.1 hentry).1

theorem key_mem_filter_iff (distinct : (e.declared.map Declared.key).Nodup) {l : Declared}
    (hl : l ∈ e.declared) {P : Declared → Bool} :
    l.key ∈ (e.declared.filter P).map Declared.key ↔ P l = true := by
  constructor
  · intro hkey
    obtain ⟨l', hl', keys⟩ := List.mem_map.1 hkey
    obtain ⟨declared, holds⟩ := List.mem_filter.1 hl'
    obtain rfl := List.inj_on_of_nodup_map distinct declared hl keys
    exact holds
  · intro holds
    exact List.mem_map_of_mem (List.mem_filter.2 ⟨hl, holds⟩)

section Accounts

variable {o k : Char} {ofLeaves ofOrphans : List (List Effect)}
  (effects : p.EntityEffects OnDependencies e found tableHasRows plan ofLeaves ofOrphans)

include effects

theorem droppedColumns_of_effects :
    Statement.droppedColumns (plan.statements ++ plan.separateDrops) =
      ((e.declared.filter (p.rebuilds e found)).map (·.2) ++ p.orphans e found).map p.written := by
  rw [Statement.droppedColumns, effects.all.effects, List.filterMap_append,
    droppedColumns_leaves effects.leaves, droppedColumns_orphans effects.orphans, List.map_append,
    List.map_map]
  rfl

theorem addedColumns_of_effects :
    List.Forall₂ (fun l definition => p.additionOf e tableHasRows l = .ok definition)
      (e.declared.filter (p.brings e found))
      (Statement.addedColumns (plan.statements ++ plan.separateDrops)) := by
  have leaves := addedColumns_leaves effects.leaves
  rw [Statement.addedColumns, effects.all.effects, List.filterMap_append,
    addedColumns_orphans effects.orphans, List.append_nil]
  exact leaves

variable (quotes : p.composer.catalog.QuotesWith o k)
  (leavesPlain : ∀ l ∈ e.declared, p.composer.catalog.quoter.isQuoted l.2 = false)
  (distinct : (e.declared.map Declared.key).Nodup)

include quotes leavesPlain distinct

theorem occurrences_dropColumn {X : String} {s : Statement}
    (hX : p.composer.catalog.quoter.isQuoted X = false)
    (keysPlain : ∀ key ∈ found.keys, p.composer.catalog.quoter.isQuoted key = false)
    (keysUpper : ∀ key ∈ found.keys, Text.upper key = key)
    (h : p.composer.dropColumn e.table (.text X) = .ok s) :
    plan.occurrences s =
      if Text.upper X ∈ (e.declared.filter (p.rebuilds e found)).map Declared.key ∨
        Text.upper X ∈ p.orphans e found then 1 else 0 := by
  obtain ⟨owner, dropped, howner, hdropped, rfl⟩ := Composer.issues_dropColumn h
  obtain rfl := eq_written_of_identify hdropped
  have names : ∀ n ∈ (e.declared.filter (p.rebuilds e found)).map (·.2) ++ p.orphans e found,
      p.composer.catalog.quoter.isQuoted n = false := by
    intro n hn
    rcases List.mem_append.1 hn with hn | hn
    · obtain ⟨l, hl, rfl⟩ := List.mem_map.1 hn
      exact leavesPlain l (List.mem_filter.1 hl).1
    · exact keysPlain n (mem_keys_of_mem_orphans hn)
  have upper : ((e.declared.filter (p.rebuilds e found)).map (·.2) ++ p.orphans e found).map
      Text.upper = (e.declared.filter (p.rebuilds e found)).map Declared.key ++ p.orphans e found := by
    rw [List.map_append, List.map_map]
    congr 1
    exact (List.map_congr_left fun n hn => keysUpper n (mem_keys_of_mem_orphans hn)).trans
      (List.map_id _)
  rw [Plan.occurrences, effects.all.countP_dropColumn howner, droppedColumns_of_effects effects,
    count_written quotes hX names, upper, (nodup_dropped distinct).count]
  simp only [List.mem_append]

omit effects in
/-- Declared columns that differ in upper case have definitions that are written apart. -/
theorem render_beq_iff {l l' : Declared} {definition definition' : ColumnDefinition}
    (hl : l ∈ e.declared) (hl' : l' ∈ e.declared)
    (h : p.additionOf e tableHasRows l = .ok definition)
    (h' : p.additionOf e tableHasRows l' = .ok definition') :
    (definition'.render == definition.render) = true ↔ (l'.key == l.key) = true := by
  rw [beq_iff_eq, beq_iff_eq]
  constructor
  · exact key_eq_of_render_eq quotes (leavesPlain l' hl') (leavesPlain l hl)
      (column_of_additionOf hl' h') (column_of_additionOf hl h)
  · intro keys
    obtain rfl := List.inj_on_of_nodup_map distinct hl' hl keys
    rw [h] at h'
    cases h'
    rfl

theorem occurrences_addColumn {l : Declared} (hl : l ∈ e.declared) {owner : Identifier}
    (howner : p.composer.identify e.table = .ok owner) {definition : ColumnDefinition}
    (h : p.additionOf e tableHasRows l = .ok definition) :
    plan.occurrences (p.composer.issue (.addColumn owner definition)) =
      if p.brings e found l then 1 else 0 := by
  have head : definition.column.text.toList.head? ≠ some 'c' := by
    rw [column_of_additionOf hl h]
    intro head
    obtain ⟨rest, whole⟩ := List.head?_eq_some_iff.1 head
    exact absurd (by decide) (Quoter.not_small_of_normalize quotes.isMarked (leavesPlain l hl) whole)
  have counted := countP_of_forall₂ (Q := fun d => d.render == definition.render)
    (P := fun l' => l'.key == l.key) (addedColumns_of_effects effects)
    (fun l' hl' _ h' =>
      render_beq_iff quotes leavesPlain distinct hl (List.mem_filter.1 hl').1 h h')
  have byKey : (e.declared.filter (p.brings e found)).countP (fun l' => l'.key == l.key) =
      ((e.declared.filter (p.brings e found)).map Declared.key).count l.key := by
    rw [List.count, List.countP_map]
    rfl
  have nodup : ((e.declared.filter (p.brings e found)).map Declared.key).Nodup :=
    distinct.sublist (List.filter_sublist.map _)
  rw [Plan.occurrences, effects.all.countP_addColumn howner head, counted, byKey, nodup.count]
  simp only [key_mem_filter_iff distinct hl]

end Accounts

theorem exists_additions {o k : Char} (quotes : p.composer.catalog.QuotesWith o k)
    {table : String} (named : e.table = .text table) {R : Value → List Statement → Prop}
    {l : Declared} {part : Plan} (hl : l ∈ e.declared)
    (h : p.LeafPlan R e found tableHasRows l part) :
    ∃ ss, p.composer.leafAdditions e l.1 (.text l.2) tableHasRows = .ok ss := by
  cases h with
  | added _ adds => exact ⟨_, adds⟩
  | altered _ compared =>
    obtain ⟨type, htype⟩ := columnType_of_difference compared
    have howner : p.composer.identify e.table = .ok (p.written table) := by
      rw [named]
      exact identify_text quotes table
    exact Composer.exists_leafAdditions howner (Entity.columnOr_of_mem_declared hl)
      (identify_text quotes l.2) htype tableHasRows
  | rebuilt _ _ _ _ _ _ adds => exact ⟨_, adds⟩

/--
A plan of an entity whose columns differ in upper case and whose names are not quoted reports one
difference for each column that was found and declared, drops once what is made anew or orphaned,
and adds once what is missing or made anew. It does so to no other column.
-/
theorem planChanges_accounts {o k : Char} {table : String}
    (quotes : p.composer.catalog.QuotesWith o k) (named : e.table = .text table)
    (leavesPlain : ∀ l ∈ e.declared, p.composer.catalog.quoter.isQuoted l.2 = false)
    (distinct : (e.declared.map Declared.key).Nodup)
    (columnsPlain : ∀ c ∈ columns, ∀ name, c.1 = .text name →
      p.composer.catalog.quoter.isQuoted name = false)
    (h : (p.planChanges provider e columns tableHasRows).Returns t plan t') :
    ∃ found, columnsByName columns = .ok found ∧
      e.leaves = e.declared.map (fun l => (l.1, .ok (.text l.2))) ∧
      (matched found e.declared).mapM (fun m => p.difference e m.1.1 m.2 (.text m.1.2)) =
        .ok plan.differences ∧
      (∀ X, p.composer.catalog.quoter.isQuoted X = false →
        ∃ drop, p.composer.dropColumn e.table (.text X) = .ok drop ∧
          plan.occurrences drop =
            if Text.upper X ∈ (e.declared.filter (p.rebuilds e found)).map Declared.key ∨
              Text.upper X ∈ p.orphans e found then 1 else 0) ∧
      ∀ l ∈ e.declared,
        ∃ first rest, p.composer.leafAdditions e l.1 (.text l.2) tableHasRows = .ok (first :: rest) ∧
          plan.occurrences first = if p.brings e found l then 1 else 0 := by
  obtain ⟨found, parts, drops, hfound, leaves, entityPlan, -⟩ :=
    returns_planChanges (J := fun _ => True) looksUp_onDependencies trivial h
  obtain ⟨ofLeaves, ofOrphans, effects⟩ := entityPlan.effects
  have keys : ∀ key ∈ found.keys,
      p.composer.catalog.quoter.isQuoted key = false ∧ Text.upper key = key := by
    intro key hkey
    obtain ⟨name, current, mem, rfl⟩ := mem_columnsByName hfound hkey
    rw [Quoter.isQuoted_upper quotes.isMarked]
    exact ⟨columnsPlain _ mem name rfl, Text.upper_upper name⟩
  refine ⟨found, hfound, leaves, ?_, ?_, ?_⟩
  · rw [entityPlan.differences]
    exact differences_of_leafPlans entityPlan.leafPlans
  · intro X hX
    have dropped : p.composer.dropColumn e.table (.text X) =
        .ok (p.composer.issue (.dropColumn (p.written table) (p.written X))) := by
      rw [Composer.dropColumn, named, identify_text quotes, identify_text quotes]
      rfl
    exact ⟨_, dropped, occurrences_dropColumn effects quotes leavesPlain distinct hX
      (fun key hkey => (keys key hkey).1) (fun key hkey => (keys key hkey).2) dropped⟩
  · intro l hl
    obtain ⟨part, -, leafPlan⟩ := exists_of_mem_forall₂ entityPlan.leafPlans hl
    obtain ⟨additions, adds⟩ := exists_additions quotes named hl leafPlan
    obtain ⟨owner, definition, rest, howner, defines, rfl, -⟩ := Composer.issues_leafAdditions adds
    exact ⟨_, rest, adds, occurrences_addColumn effects quotes leavesPlain distinct hl howner defines⟩

/-- A table of which one column was found as it is wanted, one with another type, one not at all. -/
def person : Entity where
  name := "Person"
  table := "PERSON"
  attributes := [
    .plain { name := "name", type := ⟨"java.lang.String", "String"⟩, length := .int 20 } [],
    .plain { name := "age", type := ⟨"java.lang.Integer", "Integer"⟩ } [],
    .plain { name := "born", type := ⟨"java.util.Date", "Date"⟩ } []]

/-- The columns found of the table, with one that is declared no more. -/
def personColumns : List (Value × Option Column) := [
  ("name", some { type := "varchar", length := .int 20 }),
  ("Age", some { type := "varchar" }),
  ("nick", some { type := "varchar" })]

theorem planChanges_accounts_person :
    ∃ plan trail, (filePlanner.planChanges Inventory.provider person personColumns true).Returns
        { source := {} } plan trail ∧
      (∃ drop, filePlanner.composer.dropColumn person.table (.text "nick") = .ok drop ∧
        plan.occurrences drop = 1) ∧
      ∃ drop, filePlanner.composer.dropColumn person.table (.text "name") = .ok drop ∧
        plan.occurrences drop = 0 := by
  obtain ⟨plan, trail, returned⟩ := Session.exists_returns
    (s := filePlanner.planChanges Inventory.provider person personColumns true)
    (t := { source := {} }) (by decide +kernel)
  have quotes : filePlanner.composer.catalog.QuotesWith '[' ']' :=
    ⟨rfl, rfl, by decide, by decide⟩
  have named : person.table = .text "PERSON" := rfl
  have leavesPlain : ∀ l ∈ person.declared,
      filePlanner.composer.catalog.quoter.isQuoted l.2 = false := by decide +kernel
  have distinct : (person.declared.map Declared.key).Nodup := by decide +kernel
  have columnsPlain : ∀ c ∈ personColumns, ∀ name, c.1 = .text name →
      filePlanner.composer.catalog.quoter.isQuoted name = false := by
    intro c hc name hname
    have plain : ∀ c ∈ personColumns, (c.1.asText?.map
        filePlanner.composer.catalog.quoter.isQuoted).getD false = false := by decide +kernel
    have asked := plain c hc
    rw [hname] at asked
    exact asked
  obtain ⟨found, hfound, -, -, drops, -⟩ :=
    planChanges_accounts quotes named leavesPlain distinct columnsPlain returned
  obtain ⟨dropped, hdropped, once⟩ := drops "nick" (by decide +kernel)
  obtain ⟨kept, hkept, never⟩ := drops "name" (by decide +kernel)
  have orphaned : (columnsByName personColumns).toOption.map (fun found => decide
      (Text.upper "nick" ∈ filePlanner.orphans person found)) = some true := by decide +kernel
  have untouched : (columnsByName personColumns).toOption.map (fun found => decide
      (Text.upper "name" ∈
          (person.declared.filter (filePlanner.rebuilds person found)).map Declared.key ∨
        Text.upper "name" ∈ filePlanner.orphans person found)) = some false := by decide +kernel
  rw [hfound] at orphaned untouched
  refine ⟨plan, trail, returned, ⟨dropped, hdropped, ?_⟩, kept, hkept, ?_⟩
  · rw [once, if_pos (.inr (of_decide_eq_true (Option.some.inj orphaned)))]
  · rw [never, if_neg (of_decide_eq_false (Option.some.inj untouched))]

end Planner

end SchemaDrift
