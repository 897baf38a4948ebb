import SchemaDrift.Proofs.Planner.Accounting

/-!
# Orphans that are declared

Whether a column found is an orphan is decided by names in upper case, and what its drop says by
identifiers. The two part where a column is named in quotes on one side and bare on the other:
then, and only then, the drop of an orphan is that of a declared column.
-/

namespace SchemaDrift

open Document (Value)

namespace Planner

variable {σ : Type} {p : Planner} {provider : Provider σ} {e : Entity} {found : Found}
  {tableHasRows : Bool} {plan : Plan} {columns : List (Value × Option Column)} {t t' : Trail σ}
  {ofLeaves ofOrphans : List (List Effect)}

/-- The identifiers of the columns that are made anew, in the order of their leaves. -/
def rebuiltColumns (p : Planner) (e : Entity) (found : Found) : List Identifier :=
  (e.declared.filter (p.rebuilds e found)).map fun l => p.written l.2

/-- The identifiers of the orphans, in the order in which they were found. -/
def orphanColumns (p : Planner) (e : Entity) (found : Found) : List Identifier :=
  (p.orphans e found).map p.written

theorem droppedColumns_statements
    (effects : p.EntityEffects OnDependencies e found tableHasRows plan ofLeaves ofOrphans) :
    Statement.droppedColumns plan.statements = p.rebuiltColumns e found ++
      if p.config.separateDrops then [] else p.orphanColumns e found := by
  rw [Statement.droppedColumns, effects.statements.effects, List.filterMap_append,
    droppedColumns_leaves effects.leaves]
  cases p.config.separateDrops
  · exact congrArg _ (droppedColumns_orphans effects.orphans)
  · rfl

theorem droppedColumns_separateDrops
    (effects : p.EntityEffects OnDependencies e found tableHasRows plan ofLeaves ofOrphans) :
    Statement.droppedColumns plan.separateDrops =
      if p.config.separateDrops then p.orphanColumns e found else [] := by
  rw [Statement.droppedColumns, effects.separateDrops.effects]
  cases p.config.separateDrops
  · rfl
  · exact droppedColumns_orphans effects.orphans

theorem upper_of_mem_orphans (hfound : columnsByName columns = .ok found) {orphan : String}
    (h : orphan ∈ p.orphans e found) : Text.upper orphan = orphan := by
  obtain ⟨name, -, -, rfl⟩ := mem_columnsByName hfound (mem_keys_of_mem_orphans h)
  exact Text.upper_upper name

theorem written_eq_orphan_iff {o k : Char} (quotes : p.composer.catalog.QuotesWith o k)
    (hfound : columnsByName columns = .ok found) {orphan : String}
    (h : orphan ∈ p.orphans e found) {l : Declared} (hl : l ∈ e.declared) :
    p.written orphan = p.written l.2 ↔
      p.composer.catalog.quoter.IsQuotedForm orphan l.key ∨
        p.composer.catalog.quoter.IsQuotedForm l.2 orphan := by
  rw [written, written, Quoter.identifier, Quoter.identifier, Identifier.mk.injEq]
  exact Quoter.normalize_eq_iff_isQuotedForm quotes.isMarked (upper_of_mem_orphans hfound h)
    (ne_key_of_mem_orphans h hl)

/--
A returned plan drops the columns that are made anew and, among its last statements or apart, the
orphans. With single marks for quotes an orphan's drop is that of a declared column exactly where
the orphan is a declared column in quotes, or a declared column is an orphan in quotes.
-/
theorem planChanges_drops_declared_iff
    (h : (p.planChanges provider e columns tableHasRows).Returns t plan t') :
    ∃ found, columnsByName columns = .ok found ∧
      Statement.droppedColumns plan.statements = p.rebuiltColumns e found ++
        (if p.config.separateDrops then [] else p.orphanColumns e found) ∧
      Statement.droppedColumns plan.separateDrops =
        (if p.config.separateDrops then p.orphanColumns e found else []) ∧
      ∀ {o k : Char}, p.composer.catalog.QuotesWith o k →
        ((∃ l ∈ e.declared, p.written l.2 ∈ p.orphanColumns e found) ↔
          ∃ l ∈ e.declared, ∃ orphan ∈ p.orphans e found,
            p.composer.catalog.quoter.IsQuotedForm orphan l.key ∨
              p.composer.catalog.quoter.IsQuotedForm l.2 orphan) := by
  obtain ⟨found, parts, drops, hfound, -, entityPlan, -⟩ :=
    returns_planChanges (J := fun _ => True) looksUp_onDependencies trivial h
  obtain ⟨ofLeaves, ofOrphans, effects⟩ := entityPlan.effects
  refine ⟨found, hfound, droppedColumns_statements effects, droppedColumns_separateDrops effects, ?_⟩
  intro o k quotes
  constructor
  · rintro ⟨l, hl, mem⟩
    obtain ⟨orphan, horphan, same⟩ := List.mem_map.1 mem
    exact ⟨l, hl, orphan, horphan, (written_eq_orphan_iff quotes hfound horphan hl).1 same⟩
  · rintro ⟨l, hl, orphan, horphan, form⟩
    have same := (written_eq_orphan_iff quotes hfound horphan hl).2 form
    exact ⟨l, hl, List.mem_map.2 ⟨orphan, horphan, same⟩⟩

/-- A table with a column whose name is a reserved word, stated in quotes. -/
def item : Entity where
  name := "Item"
  table := "ITEM"
  attributes := [
    .plain { name := "order", type := ⟨"java.lang.String", "String"⟩, length := .int 20
             column := "[ORDER]" } []]

def itemColumns : List (Value × Option Column) :=
  [("ORDER", some { type := "varchar", length := .int 20 })]

/-- The column is added and dropped. -/
theorem planChanges_drops_order :
    ((filePlanner.planChanges Inventory.provider item itemColumns true).start {}).1.toOption.map
        (fun plan => ((Statement.addedColumns plan.statements).map (·.column),
          Statement.droppedColumns plan.separateDrops)) =
      some ([⟨"[ORDER]"⟩], [⟨"[ORDER]"⟩]) ∧
    item.declared.map (fun l => filePlanner.written l.2) = [⟨"[ORDER]"⟩] := by
  decide +kernel

theorem planChanges_drops_declared_item :
    ∃ plan trail, (filePlanner.planChanges Inventory.provider item itemColumns true).Returns
        { source := {} } plan trail ∧
      ∃ l ∈ item.declared,
        filePlanner.written l.2 ∈ Statement.droppedColumns plan.separateDrops := by
  obtain ⟨plan, trail, returned⟩ := Session.exists_returns
    (s := filePlanner.planChanges Inventory.provider item itemColumns true)
    (t := { source := {} }) (by decide +kernel)
  have quotes : filePlanner.composer.catalog.QuotesWith '[' ']' :=
    ⟨rfl, rfl, by decide, by decide⟩
  have quoted : ∀ l ∈ item.declared,
      filePlanner.composer.catalog.quoter.IsQuotedForm l.2 "ORDER" := by decide +kernel
  have orphaned : (columnsByName itemColumns).toOption.map (fun found => decide
      ("ORDER" ∈ filePlanner.orphans item found)) = some true := by decide +kernel
  have declared : item.declared ≠ [] := by decide +kernel
  obtain ⟨found, hfound, -, separate, collide⟩ := planChanges_drops_declared_iff returned
  rw [hfound] at orphaned
  obtain ⟨l, hl⟩ := List.exists_mem_of_ne_nil _ declared
  have mem : "ORDER" ∈ filePlanner.orphans item found :=
    of_decide_eq_true (Option.some.inj orphaned)
  obtain ⟨l, hl, dropped⟩ := (collide quotes).2 ⟨l, hl, "ORDER", mem, .inr (quoted l hl)⟩
  refine ⟨plan, trail, returned, l, hl, ?_⟩
  rw [separate]
  exact dropped

end Planner

end SchemaDrift
