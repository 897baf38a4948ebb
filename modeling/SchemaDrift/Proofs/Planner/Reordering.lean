import SchemaDrift.Proofs.Metadata.Scopes
import SchemaDrift.Proofs.Metadata.Recorded
import SchemaDrift.Proofs.Planner.FixedPoint

/-!
# Columns found in another order

In which order the columns of a table are found, and in which letter case they are named, does not
matter for what a plan does to the declared columns. The drops of an orphan are a function of what is
recorded of it, so that another order of the columns reorders the drops orphan by orphan.
-/

namespace SchemaDrift

open Document (Value)

namespace Inventory

/-- Both sources have the same records and the same failing lookups, whatever they count. -/
def recorded : Bond Inventory Inventory Inventory where
  holds i _ t u := t.source.unasked = i ∧ u.source.unasked = i
  fails := id

variable {α : Type} {i : Inventory}

theorem recorded_answer (lookup : Lookup) (table column : Value)
    {read : Inventory → Except Fault α} (records : ∀ i, read i.unasked = read i) :
    recorded.Alike (answer lookup table column read) (answer lookup table column read) := by
  rintro i t u ⟨ht, hu⟩
  have failing : t.source.fails = u.source.fails :=
    (congrArg Inventory.fails ht).trans (congrArg Inventory.fails hu).symm
  have answers : read t.source = read u.source := by
    rw [← records t.source, ← records u.source, ht, hu]
  rw [run_answer, run_answer, failing, answers]
  exact ⟨rfl, ht, hu⟩

theorem serves_recorded : recorded.Serves provider provider where
  within := by
    rintro α s s' h i t u ⟨ht, hu⟩
    exact h i { t with source := t.source.openScope } { u with source := u.source.openScope } ⟨ht, hu⟩
  foreignKeys table column := recorded_answer .foreignKeys table column fun _ => rfl
  defaults table column := recorded_answer .defaults table column fun _ => rfl
  indexes table column := recorded_answer .indexes table column fun _ => rfl

theorem reports_recorded (c : Config) : recorded.Reports c c := Bond.reports_self (fun _ => id) c

theorem returns_of_recorded {s : Session Inventory α} {t t' : Trail Inventory} {a : α}
    (h : recorded.Alike s s) (returned : s.Returns t a t') (ht : t.source.unasked = i)
    (u : Trail Inventory) (hu : u.source.unasked = i) :
    ∃ u', s.Returns u a u' ∧ u'.source.unasked = i := by
  obtain ⟨result, -, kept⟩ := h i t u ⟨ht, hu⟩
  rw [show (ExceptT.run s).run t = (.ok a, t') from returned] at result
  rcases run : (ExceptT.run s).run u with ⟨r, u'⟩
  rw [run] at result kept
  cases result
  exact ⟨u', run, kept⟩

theorem unasked_of_returns {s : Session Inventory α} {t t' : Trail Inventory} {a : α}
    (h : recorded.Alike s s) (returned : s.Returns t a t') (ht : t.source.unasked = i) :
    t'.source.unasked = i := by
  obtain ⟨u', again, kept⟩ := returns_of_recorded h returned ht t ht
  cases returned.symm.trans again
  exact kept

end Inventory

/-- The drops of what is recorded of a column. -/
def Composer.recordedDependencies (b : Composer) (i : Inventory) (table column : Value) :
    Except Fault (List Statement) := do
  let foreignKeys ← i.foreignKeys table column
  let defaults ← i.defaults table column
  let indexes ← i.indexes table column
  b.dependencyDrops table foreignKeys defaults indexes

/-- The statements are the drops of what is recorded of a column. -/
def Composer.RecordedDrops (b : Composer) (i : Inventory) (table column : Value)
    (ss : List Statement) : Prop := b.recordedDependencies i table column = .ok ss

namespace Planner

variable {p : Planner} {e : Entity} {tableHasRows : Bool} {t t' : Trail Inventory} {plan : Plan}
  {i : Inventory} {found found' : Found} {columns columns' : List (String × Column)}

/-- The drops of an orphan: of what is recorded of it, then of the column. -/
def orphanBlock (p : Planner) (i : Inventory) (e : Entity) (orphan : String) :
    Except Fault (List Statement) := do
  let dependencies ← p.composer.recordedDependencies i e.table (.text orphan)
  return dependencies ++ [← p.composer.dropColumn e.table (.text orphan)]

theorem looksUp_recordedDependencies :
    p.composer.LooksUp Inventory.provider e.table (Inventory.SameRecords i)
      (p.composer.RecordedDrops i e.table) := by
  intro column t t' ss records h
  obtain ⟨foreignKeys, defaults, indexes, u, looked, drops, source⟩ :=
    Composer.returns_dropDependencies h
  obtain ⟨hforeignKeys, hdefaults, hindexes, kept⟩ :=
    Inventory.returns_lookUpDependencies records looked
  refine ⟨?_, source ▸ kept⟩
  show p.composer.recordedDependencies i e.table column = .ok ss
  rw [Composer.recordedDependencies, hforeignKeys, ok_bind, hdefaults, ok_bind, hindexes, ok_bind,
    drops]

theorem orphanBlock_of_orphanDrops {orphan : String} {ss : List Statement}
    (h : p.OrphanDrops (p.composer.RecordedDrops i e.table) e orphan ss) : p.orphanBlock i e orphan = .ok ss := by
  obtain ⟨dependencies, drop, depends, drops, rfl⟩ := h
  rw [orphanBlock, show p.composer.recordedDependencies i e.table (.text orphan) = _ from depends,
    ok_bind, drops, ok_bind]
  rfl

/--
Columns of different names, and the same columns in another order, each under some spelling of the
same name in upper case.
-/
structure Respelled (columns columns' : List (String × Column)) : Prop where
  distinct : (columns.map fun entry => Text.upper entry.1).Nodup
  reordered : (columns'.map fun entry => (Text.upper entry.1, entry.2)).Perm
    (columns.map fun entry => (Text.upper entry.1, entry.2))

theorem Respelled.symm (h : Respelled columns columns') : Respelled columns' columns := by
  have keys := h.reordered.map Prod.fst
  simp only [List.map_map] at keys
  exact ⟨keys.nodup_iff.2 h.distinct, h.reordered.symm⟩

theorem exists_columnsByName (distinct : (columns.map fun entry => Text.upper entry.1).Nodup) :
    ∃ found, columnsByName (asFound columns) = .ok found ∧
      found.entries = columns.map fun entry => (Text.upper entry.1, some entry.2) := by
  refine ⟨_, columnsByName_asFound columns, OrderedMap.entries_ofList ?_⟩
  rw [List.map_map]
  exact distinct

theorem Respelled.perm_entries (h : Respelled columns columns')
    (hfound : columnsByName (asFound columns) = .ok found)
    (hfound' : columnsByName (asFound columns') = .ok found') :
    found'.entries.Perm found.entries := by
  obtain ⟨_, same, entries⟩ := exists_columnsByName h.distinct
  obtain ⟨_, same', entries'⟩ := exists_columnsByName h.symm.distinct
  cases hfound.symm.trans same
  cases hfound'.symm.trans same'
  have tagged := h.reordered.map fun entry => (entry.1, some entry.2)
  simp only [List.map_map] at tagged
  rw [entries, entries']
  exact tagged

theorem perm_orphans (h : found'.entries.Perm found.entries) :
    (p.orphans e found').Perm (p.orphans e found) := (h.filter _).map _

theorem planLeaf_eq_of_perm {σ : Type} {provider : Provider σ}
    (h : found'.entries.Perm found.entries) :
    p.planLeaf provider e found' tableHasRows = p.planLeaf provider e found tableHasRows := by
  funext leaf
  have same (key : String) : found'.get? key = found.get? key := OrderedMap.get?_eq_of_perm h key
  simp only [planLeaf, same]

/-- Orphans that were dropped one after another are dropped in any other order, too. -/
theorem exists_returns_orphanDrops {drops : List (List Statement)} {u v : Trail Inventory}
    (h : found'.entries.Perm found.entries)
    (dropped : (found.entries.mapM (p.orphanDrops Inventory.provider e
      (e.declared.map Declared.key))).Returns u drops v) :
    ∃ drops' v', (found'.entries.mapM (p.orphanDrops Inventory.provider e
      (e.declared.map Declared.key))).Returns u drops' v' := by
  have alike (entry : String × Option Column) :
      Inventory.recorded.Alike (p.orphanDrops Inventory.provider e (e.declared.map Declared.key) entry)
        (p.orphanDrops Inventory.provider e (e.declared.map Declared.key) entry) :=
    alike_orphanDrops Inventory.serves_recorded (twins_self Inventory.reports_recorded p)
  have each := (Session.forall₂_of_returns_mapM
    (I := fun w : Trail Inventory => w.source.unasked = u.source.unasked) rfl
    (fun entry _ _ _ _ hw hr => ⟨Inventory.returns_of_recorded (alike entry) hr hw,
      Inventory.unasked_of_returns (alike entry) hr hw⟩) dropped).1
  obtain ⟨drops', each', -⟩ := List.perm_comp_forall₂ h each
  obtain ⟨v', dropped', -⟩ := Session.exists_returns_mapM_of_forall₂
    (I := fun w : Trail Inventory => w.source.unasked = u.source.unasked) each' rfl
  exact ⟨drops', v', dropped'⟩

/--
What is planned for columns that were found is planned for the same columns in another order and
under other spellings: the same differences and warnings, the same statements for the declared
columns, and for each orphan the same drops, in the order of the orphans. Where the drops of orphans
are kept apart, the statements are the same.
-/
theorem planChanges_reordered (respelled : Respelled columns columns')
    (h : (p.planChanges Inventory.provider e (asFound columns) tableHasRows).Returns t plan t') :
    ∃ found found' parts drops drops' plan' u',
      columnsByName (asFound columns) = .ok found ∧
      columnsByName (asFound columns') = .ok found' ∧
      (p.planChanges Inventory.provider e (asFound columns') tableHasRows).Returns t plan' u' ∧
      p.EntityPlan (p.composer.RecordedDrops t.source e.table) e found tableHasRows plan parts drops ∧
      p.EntityPlan (p.composer.RecordedDrops t.source e.table) e found' tableHasRows plan' parts
        drops' ∧
      plan'.differences = plan.differences ∧ plan'.warnings = plan.warnings ∧
      (p.orphans e found).mapM (p.orphanBlock t.source e) = .ok drops ∧
      (p.orphans e found').mapM (p.orphanBlock t.source e) = .ok drops' ∧
      drops'.Perm drops ∧
      (p.config.separateDrops = true → plan'.statements = plan.statements) := by
  obtain ⟨found, parts, drops, u, v, hfound, hparts, hdrops, logged, rfl⟩ :=
    steps_of_returns_planChanges h
  obtain ⟨found', hfound', -⟩ := exists_columnsByName respelled.symm.distinct
  have perm := respelled.perm_entries hfound hfound'
  -- The leaves of both plans are one and the same session.
  have hparts' := hparts
  rw [← planLeaf_eq_of_perm perm] at hparts'
  obtain ⟨drops', v', hdrops'⟩ := exists_returns_orphanDrops perm hdrops
  obtain ⟨u', logged'⟩ := Session.exists_returns_log .info
    (summary e (p.ofParts e (parts.map (·.2)) drops'.flatten))
    (Session.audible_of_returns_log logged) v'
  have records : Inventory.SameRecords t.source t.source := ⟨rfl, rfl, rfl⟩
  obtain ⟨dropped, -, entityPlan, -⟩ :=
    entityPlan_of_returns looksUp_recordedDependencies records hparts hdrops
  obtain ⟨dropped', -, entityPlan', -⟩ :=
    entityPlan_of_returns looksUp_recordedDependencies records hparts' hdrops'
  have blocks := mapM_eq_ok.2 (entityPlan.orphanDrops.imp fun _ _ => orphanBlock_of_orphanDrops)
  have blocks' := mapM_eq_ok.2 (entityPlan'.orphanDrops.imp fun _ _ => orphanBlock_of_orphanDrops)
  refine ⟨found, found', parts.map (·.2), dropped, dropped', _, u', hfound, hfound',
    returns_planChanges_of_steps hfound' hparts' hdrops' logged', entityPlan, entityPlan', ?_, ?_,
    blocks, blocks', perm_of_mapM_eq_ok (perm_orphans perm) blocks blocks', ?_⟩
  · rw [differences_ofParts, differences_ofParts]
  · rw [warnings_ofParts, warnings_ofParts]
  · intro apart
    rw [statements_ofParts, statements_ofParts, apart, if_pos rfl, if_pos rfl]

/-- A table of which two columns are declared no more. -/
def guest : Entity where
  name := "Guest"
  table := "GUEST"
  attributes := [
    .plain { name := "name", type := ⟨"java.lang.String", "String"⟩, length := .int 40 } []]

def guestColumns : List (String × Column) := [
  ("name", { type := "varchar", length := .int 20 }), ("Nick", { type := "varchar" }),
  ("AGE", { type := "integer" })]

/-- The same columns, found in another order and named in other letters. -/
def guestColumnsAnew : List (String × Column) := [
  ("Age", { type := "integer" }), ("NAME", { type := "varchar", length := .int 20 }),
  ("NICK", { type := "varchar" })]

def guestRecords : Inventory where
  indexEntries := [⟨"GUEST", "NICK", { name := "IX_NICK" }⟩]

theorem planChanges_reordered_guest :
    ∃ plan plan' trail trail',
      (filePlanner.planChanges Inventory.provider guest (asFound guestColumns) true).Returns
        { source := guestRecords } plan trail ∧
      (filePlanner.planChanges Inventory.provider guest (asFound guestColumnsAnew) true).Returns
        { source := guestRecords } plan' trail' ∧
      plan'.differences = plan.differences ∧ plan'.statements = plan.statements ∧
      plan.separateDrops.map (·.text) = [
        "drop index IX_NICK on GUEST ^", "alter table GUEST drop column NICK ^",
        "alter table GUEST drop column AGE ^"] ∧
      plan'.separateDrops.map (·.text) = [
        "alter table GUEST drop column AGE ^", "drop index IX_NICK on GUEST ^",
        "alter table GUEST drop column NICK ^"] := by
  obtain ⟨plan, trail, returned, texts⟩ := Session.exists_returns_of_map
    (s := filePlanner.planChanges Inventory.provider guest (asFound guestColumns) true)
    (t := { source := guestRecords }) (f := fun plan => plan.separateDrops.map (·.text))
    (b := ["drop index IX_NICK on GUEST ^", "alter table GUEST drop column NICK ^",
      "alter table GUEST drop column AGE ^"]) (by decide +kernel)
  obtain ⟨anew, trail', returned', texts'⟩ := Session.exists_returns_of_map
    (s := filePlanner.planChanges Inventory.provider guest (asFound guestColumnsAnew) true)
    (t := { source := guestRecords }) (f := fun plan => plan.separateDrops.map (·.text))
    (b := ["alter table GUEST drop column AGE ^", "drop index IX_NICK on GUEST ^",
      "alter table GUEST drop column NICK ^"]) (by decide +kernel)
  have respelled : Respelled guestColumns guestColumnsAnew :=
    ⟨by decide +kernel, by decide +kernel⟩
  obtain ⟨_, _, _, _, _, plan', _, -, -, again, -, -, differences, -, -, -, -, statements⟩ :=
    planChanges_reordered respelled returned
  cases returned'.symm.trans again
  exact ⟨plan, anew, trail, trail', returned, again, differences, statements rfl, texts, texts'⟩

end Planner

end SchemaDrift
