import SchemaDrift.Proofs.Metadata.Recorded
import SchemaDrift.Proofs.Planner.Entity
import SchemaDrift.Proofs.Request.Calls

/-!
# Scopes of recorded metadata

Every call closes the scopes that it opens, however it ends, and a lookup that fails ends it with the
fault of the lookup. Lookups are asked for only where something is dropped: the change of an attribute
opens one scope if its column is made anew, and none otherwise.
-/

namespace SchemaDrift

open Document (Value)
open Request (Outcome)

namespace Inventory

def withScopes (i : Inventory) (n : Nat) : Inventory :=
  { i with opened := i.opened + n, closed := i.closed + n }

/-- The inventory as it is before anything is asked. -/
def unasked (i : Inventory) : Inventory := { i with opened := 0, closed := 0 }

theorem openScope_withScopes (i : Inventory) (n : Nat) :
    (i.withScopes n).openScope = i.openScope.withScopes n := by
  simp [withScopes, openScope, Nat.add_right_comm]

theorem closeScope_withScopes (i : Inventory) (n : Nat) :
    (i.openScope.withScopes n).closeScope = i.withScopes (n + 1) := by
  simp [withScopes, openScope, closeScope, Nat.add_assoc, Nat.add_comm 1 n]

end Inventory

/-- A lookup that was asked for about a column of a table. -/
structure Asked where
  lookup : Lookup
  table : Value
  column : Value
  deriving DecidableEq

namespace Asked

/-- The lookup is one that an inventory is made to fail at. -/
def FailsIn (q : Asked) (i : Inventory) : Prop := i.fails q.lookup q.table q.column = true

instance (q : Asked) (i : Inventory) : Decidable (q.FailsIn i) :=
  inferInstanceAs (Decidable (_ = true))

def fault (q : Asked) : Fault := Inventory.lookupFault q.lookup q.table

end Asked

/-- Recorded metadata and the lookups that were asked for so far. -/
structure Watch where
  inventory : Inventory
  asked : List Asked := []

namespace Watch

/-- Notes a lookup and answers it from the inventory. -/
def answer {α : Type} (lookup : Lookup) (table column : Value)
    (read : Inventory → Except Fault α) : Session Watch α := do
  Session.modifySource fun w => { w with asked := w.asked ++ [⟨lookup, table, column⟩] }
  let w ← Session.source
  if w.inventory.fails lookup table column then
    throw (Inventory.lookupFault lookup table)
  else
    read w.inventory

/-- Recorded metadata as a metadata source that notes what it is asked for. -/
def provider : Provider Watch where
  within s := do
    Session.modifySource fun w => { w with inventory := w.inventory.openScope }
    s.ensuring fun t =>
      { t with source := { t.source with inventory := t.source.inventory.closeScope } }
  foreignKeys table column := answer .foreignKeys table column (·.foreignKeys table column)
  defaults table column := answer .defaults table column (·.defaults table column)
  indexes table column := answer .indexes table column (·.indexes table column)

/--
An inventory and a watched one that differ only in what was noted. From the inventory of the world
they came by scopes that were opened and closed again. If a failing lookup was asked for, the run has
ended with the fault of this lookup.
-/
def bond : Bond Inventory Inventory Watch where
  holds i fault t u :=
    u.source.inventory = t.source ∧ u.log = t.log ∧ (∃ n, t.source = i.withScopes n) ∧
      ∀ q ∈ u.source.asked, q.FailsIn i → fault = some q.fault
  fails := by
    rintro i fault t u ⟨same, log, scopes, refused⟩
    refine ⟨same, log, scopes, fun q hq failing => ?_⟩
    cases refused q hq failing

theorem run_answer {α : Type} (lookup : Lookup) (table column : Value)
    (read : Inventory → Except Fault α) (u : Trail Watch) :
    (ExceptT.run (answer lookup table column read)).run u =
      (if u.source.inventory.fails lookup table column then
        .error (Inventory.lookupFault lookup table) else read u.source.inventory,
        { u with source :=
          { u.source with asked := u.source.asked ++ [⟨lookup, table, column⟩] } }) := by
  show (ExceptT.run (if u.source.inventory.fails lookup table column then
    throw (Inventory.lookupFault lookup table) else
      liftM (read u.source.inventory) : Session Watch α)).run { u with source :=
        { u.source with asked := u.source.asked ++ [⟨lookup, table, column⟩] } } = _
  split <;> rfl

theorem serves_answer {α : Type} (lookup : Lookup) (table column : Value)
    (read : Inventory → Except Fault α) :
    bond.Alike (Inventory.answer lookup table column read) (answer lookup table column read) := by
  rintro i t u ⟨same, log, ⟨n, scopes⟩, refused⟩
  have failing : t.source.fails = i.fails := by rw [scopes]; rfl
  rw [Inventory.run_answer, run_answer, same]
  refine ⟨rfl, same, log, ⟨n, scopes⟩, fun q hq fails => ?_⟩
  rcases List.mem_append.1 hq with before | now
  · cases refused q before fails
  · obtain rfl := List.mem_singleton.1 now
    rw [Asked.FailsIn, ← failing] at fails
    rw [if_pos fails]
    rfl

theorem serves : bond.Serves Inventory.provider provider where
  within := by
    rintro α s s' h i t u ⟨same, log, ⟨n, scopes⟩, refused⟩
    -- Inside the scope the world is that of the open scope, and closing it leads back.
    have inside := h i.openScope { t with source := t.source.openScope }
      { u with source := { u.source with inventory := u.source.inventory.openScope } }
      ⟨by rw [same], log, ⟨n, by rw [scopes, Inventory.openScope_withScopes]⟩, refused⟩
    obtain ⟨result, same, log, ⟨m, scopes⟩, refused⟩ := inside
    refine ⟨result, ?_, log, ⟨m + 1, ?_⟩, refused⟩
    · exact congrArg Inventory.closeScope same
    · show Inventory.closeScope _ = _
      rw [← Inventory.closeScope_withScopes]
      exact congrArg Inventory.closeScope scopes
  foreignKeys table column := serves_answer .foreignKeys table column (·.foreignKeys table column)
  defaults table column := serves_answer .defaults table column (·.defaults table column)
  indexes table column := serves_answer .indexes table column (·.indexes table column)

end Watch

/-- How many columns a plan makes anew. -/
def Plan.rebuilds (plan : Plan) : Nat := plan.differences.countP (·.kind == .rebuild)

section Opens

variable {α β : Type} {s : Session Inventory α}

/-- However it ends, the session has opened so many scopes. -/
def Session.Opens (s : Session Inventory α) (n : Nat) : Prop :=
  ∀ t, ((ExceptT.run s).run t).2.source.opened = t.source.opened + n

theorem Session.opens_of_still (h : (Bond.still Inventory).Alike s s) : s.Opens 0 :=
  fun t => congrArg Inventory.opened (Bond.source_of_still h t)

theorem Session.Opens.bind {f : α → Session Inventory β} {n : Nat} (h : s.Opens n)
    (hf : ∀ a, (Bond.still Inventory).Alike (f a) (f a)) : (s >>= f).Opens n :=
  fun t => (congrArg Inventory.opened (Bond.source_bind_of_still hf t)).trans (h t)

theorem Session.Opens.of_returns {n : Nat} {a : α} {t t' : Trail Inventory} (h : s.Opens n)
    (returned : s.Returns t a t') : t'.source.opened = t.source.opened + n := by
  have counted := h t
  rwa [show (ExceptT.run s).run t = (.ok a, t') from returned] at counted

namespace Inventory

theorem still_answer (lookup : Lookup) (table column : Value) (read : Inventory → Except Fault α) :
    (Bond.still Inventory).Alike (answer lookup table column read)
      (answer lookup table column read) := by
  rintro i t u ⟨rfl, rfl⟩
  rw [run_answer]
  exact ⟨rfl, rfl, rfl⟩

theorem opens_within (h : (Bond.still Inventory).Alike s s) : (provider.within s).Opens 1 :=
  fun t => congrArg opened (Bond.source_of_still h { t with source := t.source.openScope })

end Inventory

namespace Composer

variable {b : Composer} {table column : Value}

theorem opens_dropDependencies : (b.dropDependencies Inventory.provider table column).Opens 1 := by
  rw [dropDependencies_eq]
  refine Session.Opens.bind (Inventory.opens_within ?_) fun found => ?_
  · refine (Inventory.still_answer _ _ _ _).bind fun keys => ?_
    refine (Inventory.still_answer _ _ _ _).bind fun constraints => ?_
    exact (Inventory.still_answer _ _ _ _).bind fun listed =>
      Bond.alike_pure (keys, constraints, listed)
  · exact alike_reportDrops (b.twins_still Inventory) found

theorem opens_dropColumnFully : (b.dropColumnFully Inventory.provider table column).Opens 1 :=
  opens_dropDependencies.bind fun ss =>
    (Bond.alike_lift (b.dropColumn table column)).bind fun drop => Bond.alike_pure (ss ++ [drop])

end Composer

namespace Planner

variable {p : Planner} {e : Entity} {a : Attribute} {current : Option Column} {column : Value}
  {tableHasRows : Bool} {found : Found} {plan : Plan} {t t' : Trail Inventory}

theorem opens_planChange :
    (p.planChange Inventory.provider e a current column tableHasRows).Opens
      (if p.isRebuild e a current column then 1 else 0) := by
  cases rebuilt : p.isRebuild e a current column with
  | false => exact Session.opens_of_still (alike_planChange_of_mild (p.twins_still _) rebuilt)
  | true =>
    obtain ⟨named, d, hnamed, compared, kind⟩ := exists_difference_of_isRebuild rebuilt
    rw [planChange_of_rebuild hnamed compared kind, rebuild_eq]
    refine Session.Opens.bind (Session.Opens.bind Composer.opens_dropDependencies ?_) ?_
    · exact alike_renew (p.twins_still _)
    · exact fun statements => alike_announce (p.twins_still _) _

/-- Without a column to make anew, the change of an attribute is the same whatever is recorded. -/
theorem planChange_eq_of_mild {σ τ : Type} (P : Provider σ) (P' : Provider τ)
    (mild : p.isRebuild e a current column = false) (t : Trail σ) (u : Trail τ) :
    ((ExceptT.run (p.planChange P e a current column tableHasRows)).run t).1 =
      ((ExceptT.run (p.planChange P' e a current column tableHasRows)).run u).1 := by
  have twins := twins_self (Bond.reports_loose σ τ) p
  exact (alike_planChange_of_mild twins mild () t u trivial).1

theorem opened_of_returns_planChange
    (h : (p.planChange Inventory.provider e a current column tableHasRows).Returns t plan t') :
    t'.source.opened = t.source.opened + plan.rebuilds := by
  rw [opens_planChange.of_returns h]
  obtain ⟨named, hnamed, changePlan⟩ := changePlan_of_returns h
  have counted {d : Difference} (compared : p.difference e a current named = .ok d)
      (whole : plan.differences = [d]) :
      (if p.isRebuild e a current column then 1 else 0) = plan.rebuilds := by
    rw [Plan.rebuilds, whole, List.countP_singleton, isRebuild_of_difference hnamed compared]
  congr 1
  cases changePlan with
  | kept compared _ whole _ => exact counted compared (by rw [whole])
  | altered compared _ _ alters _ => exact counted compared (alterations_eq_ok alters).2.1
  | rebuilt compared _ _ _ _ _ _ whole _ => exact counted compared (by rw [whole])

theorem opened_of_returns_planAdd {σ : Type} {t t' : Trail σ}
    (h : (p.planAdd e a column tableHasRows).Returns t plan t') :
    t'.source = t.source ∧ plan.rebuilds = 0 := by
  constructor
  · exact Bond.source_of_returns_still (alike_planAdd (p.twins_still σ)) h
  · obtain ⟨additions, u, -, h⟩ := Session.returns_bind.1 h
    obtain ⟨parts, v, -, h⟩ := Session.returns_bind.1 h
    rw [(returns_announce h).1]
    rfl

theorem opened_of_returns_planLeaf {leaf : Attribute.Leaf} {r : String × Plan}
    (hleaf : leaf ∈ e.leaves)
    (h : (p.planLeaf Inventory.provider e found tableHasRows leaf).Returns t r t') :
    t'.source.opened = t.source.opened + r.2.rebuilds := by
  obtain ⟨l, -, -, -, ⟨current, -, changes⟩ | ⟨-, adds⟩⟩ := planLeaf_cases hleaf h
  · exact opened_of_returns_planChange changes
  · obtain ⟨source, none⟩ := opened_of_returns_planAdd adds
    rw [source, none, Nat.add_zero]

theorem opened_of_returns_orphanDrops {entry : String × Option Column} {ss : List Statement}
    (h : (p.orphanDrops Inventory.provider e (e.declared.map Declared.key) entry).Returns t ss t') :
    t'.source.opened = t.source.opened + [entry].countP (p.isOrphan e) := by
  rw [List.countP_singleton]
  rcases orphanDrops_cases h with ⟨isOne, dropped⟩ | ⟨isNone, -, rfl⟩
  · rw [isOne]
    exact Composer.opens_dropColumnFully.of_returns dropped
  · rw [isNone]
    rfl

theorem rebuilds_ofParts {parts : List (String × Plan)} {drops : List Statement} :
    (p.ofParts e (parts.map (·.2)) drops).rebuilds =
      (parts.flatMap fun r => r.2.differences).countP (·.kind == .rebuild) := by
  rw [Plan.rebuilds, differences_ofParts, List.flatMap_map]

/-- The plan of an entity opened a scope for each column made anew and for each orphan dropped. -/
theorem opened_of_returns_planChanges {columns : List (Value × Option Column)}
    (h : (p.planChanges Inventory.provider e columns tableHasRows).Returns t plan t') :
    ∃ found, columnsByName columns = .ok found ∧
      t'.source.opened = t.source.opened + plan.rebuilds + (p.orphans e found).length := by
  obtain ⟨found, parts, drops, u, v, hfound, hparts, hdrops, logged, rfl⟩ :=
    steps_of_returns_planChanges h
  obtain ⟨planned, ofLeaves⟩ := Session.countP_of_returns_mapM (m := (·.source.opened))
    (q := (·.kind == .rebuild)) (g := fun x => x.2.2.differences)
    (fun _ hleaf _ _ _ hr => opened_of_returns_planLeaf hleaf hr) hparts
  obtain ⟨dropped, ofOrphans⟩ := Session.countP_of_returns_mapM (m := (·.source.opened))
    (q := p.isOrphan e) (g := fun x => [x.1])
    (fun _ _ _ _ _ hr => opened_of_returns_orphanDrops hr) hdrops
  have leaves : (e.leaves.zip parts).flatMap (fun x => x.2.2.differences) =
      parts.flatMap fun r => r.2.differences := by
    conv_rhs => rw [← List.map_snd_zip (Nat.le_of_eq planned.symm), List.flatMap_map]
  have orphans : ((found.entries.zip drops).flatMap fun x => [x.1]).countP (p.isOrphan e) =
      (p.orphans e found).length := by
    rw [← List.map_eq_flatMap, List.map_fst_zip (Nat.le_of_eq dropped),
      List.countP_eq_length_filter, Planner.orphans, List.length_map]
  refine ⟨found, hfound, ?_⟩
  rw [Session.source_of_returns_log logged, ofOrphans, orphans, ofLeaves, leaves,
    rebuilds_ofParts]

theorem exists_dropColumn_of_mem_orphans {R : Value → List Statement → Prop} {parts : List Plan}
    {drops : List (List Statement)} (whole : p.EntityPlan R e found tableHasRows plan parts drops)
    {orphan : String} (h : orphan ∈ p.orphans e found) :
    ∃ drop ∈ plan.statements ++ plan.separateDrops,
      p.composer.dropColumn e.table (.text orphan) = .ok drop := by
  obtain ⟨ss, hss, dependencies, drop, -, dropped, rfl⟩ :=
    exists_of_mem_forall₂ whole.orphanDrops h
  have mem : drop ∈ drops.flatten :=
    List.mem_flatten_of_mem hss (List.mem_append_right _ (List.mem_singleton_self drop))
  refine ⟨drop, ?_, dropped⟩
  rw [whole.statements, whole.separateDrops]
  cases p.config.separateDrops
  · exact List.mem_append_left _ (List.mem_append_right _ mem)
  · exact List.mem_append_right _ mem

end Planner

end Opens

namespace Call

/-- What a call gives beside recorded metadata, and the trail that it leaves. -/
def run (c : Call) (t : Trail Inventory) : Except Fault Outcome × Trail Inventory :=
  (ExceptT.run (c.session Inventory.provider)).run t

/-- What the call gives while its lookups are noted, with none noted before. -/
def watched (c : Call) (t : Trail Inventory) : Except Fault Outcome × Trail Watch :=
  (ExceptT.run (c.session Watch.provider)).run { source := ⟨t.source, []⟩, log := t.log }

/-- The trail after calls, one after another, of which each may have failed. -/
def after (calls : List Call) (t : Trail Inventory) : Trail Inventory :=
  calls.foldl (fun t c => (c.run t).2) t

/-- A call leaves the scopes that it opened closed, and a failing lookup ends it. -/
theorem run_watched (c : Call) {i : Inventory} {t : Trail Inventory} {n : Nat}
    (scopes : t.source = i.withScopes n) :
    (c.watched t).1 = (c.run t).1 ∧
      Watch.bond.holds i (fault? (c.run t).1) (c.run t).2 (c.watched t).2 := by
  have alike := (twins_self (Bond.reports_self fun r bound => ?_) c).alike Watch.serves
  · obtain ⟨same, bound⟩ := alike i t { source := ⟨t.source, []⟩, log := t.log }
      ⟨rfl, rfl, ⟨n, scopes⟩, fun _ hq => absurd hq List.not_mem_nil⟩
    exact ⟨same.symm, bound⟩
  · obtain ⟨same, log, scopes, refused⟩ := bound
    exact ⟨same, congrArg (· ++ [r]) log, scopes, refused⟩

/-- Calls one after another leave every scope closed that was opened. -/
theorem scopes_after (calls : List Call) {i : Inventory} {t : Trail Inventory}
    (scopes : ∃ n, t.source = i.withScopes n) : ∃ n, (after calls t).source = i.withScopes n := by
  induction calls generalizing t with
  | nil => exact scopes
  | cons c calls ih =>
    obtain ⟨n, scopes⟩ := scopes
    obtain ⟨-, -, -, later, -⟩ := c.run_watched scopes
    exact ih later

/--
Beside recorded metadata every call, after any others, has closed the scopes that it opened when it
ends, and a failing lookup that it asks for ends it with the fault of this lookup. The change of an
attribute opens one scope if its column is made anew; otherwise it opens none and is the same beside
every metadata source. The changes of an entity open one scope for each column made anew, and one
for each orphan that is dropped.
-/
theorem calls_close_scopes (i : Inventory) (calls : List Call) :
    (∀ c : Call,
      let t := after calls { source := i.unasked }
      (c.run t).2.source.opened = (c.run t).2.source.closed ∧
      (c.watched t).1 = (c.run t).1 ∧
      (c.watched t).2.source.inventory = (c.run t).2.source ∧
      ∀ q ∈ (c.watched t).2.source.asked, q.FailsIn i → (c.run t).1 = .error q.fault) ∧
    ∀ (p : Planner) (e : Entity) (tableHasRows : Bool),
      (∀ (a : Attribute) (current : Option Column) (column : Value),
        (p.planChange Inventory.provider e a current column tableHasRows).Opens
          (if p.isRebuild e a current column then 1 else 0) ∧
        (p.isRebuild e a current column = false → ∀ {σ τ : Type} (P : Provider σ) (P' : Provider τ)
          (t : Trail σ) (u : Trail τ),
          ((ExceptT.run (p.planChange P e a current column tableHasRows)).run t).1 =
            ((ExceptT.run (p.planChange P' e a current column tableHasRows)).run u).1)) ∧
      ∀ (columns : List (Value × Option Column)) (plan : Plan) (t t' : Trail Inventory),
        (p.planChanges Inventory.provider e columns tableHasRows).Returns t plan t' →
          ∃ found, Planner.columnsByName columns = .ok found ∧
            t'.source.opened = t.source.opened + plan.rebuilds + (p.orphans e found).length ∧
            ∀ orphan ∈ p.orphans e found, ∃ drop ∈ plan.statements ++ plan.separateDrops,
              p.composer.dropColumn e.table (.text orphan) = .ok drop := by
  refine ⟨fun c => ?_, fun p e tableHasRows => ⟨fun a current column => ?_, ?_⟩⟩
  · obtain ⟨n, before⟩ :=
      scopes_after calls (t := { source := i.unasked }) (i := i.unasked) ⟨0, rfl⟩
    obtain ⟨same, kept, -, ⟨m, scopes⟩, refused⟩ := c.run_watched before
    refine ⟨?_, same, kept, fun q hq failing => fault?_eq_some_iff.1 (refused q hq failing)⟩
    rw [scopes]
    rfl
  · exact ⟨Planner.opens_planChange, fun mild _ _ P P' t u =>
      Planner.planChange_eq_of_mild P P' mild t u⟩
  · intro columns plan t t' returned
    obtain ⟨found, hfound, opened⟩ := Planner.opened_of_returns_planChanges returned
    refine ⟨found, hfound, opened, fun orphan mem => ?_⟩
    obtain ⟨found', parts, drops, hfound', -, whole, -⟩ := Planner.returns_planChanges
      (J := fun _ => True) (p.composer.looksUp_trivial _ _) trivial returned
    obtain rfl : found' = found := Except.ok.inj (hfound'.symm.trans hfound)
    exact Planner.exists_dropColumn_of_mem_orphans whole mem

def weight : Attribute := .plain { name := "weight", type := ⟨"java.lang.Integer", "Integer"⟩ } []

def parcel : Entity where
  name := "Parcel"
  table := "PARCEL"
  attributes := [weight]

/-- The number, kept as a text, and a column that no attribute declares. -/
def parcelColumns : List (Value × Option Column) :=
  [("WEIGHT", some { type := "varchar", length := .int 20 }),
    ("COLOUR", some { type := "varchar", length := .int 20 })]

def dropColour : Call :=
  .plan Planner.filePlanner "plan_drop_column" [("table", "PARCEL"), ("column", "COLOUR")] none

def changeParcel : Call :=
  .plan Planner.filePlanner "plan_entity_changes" [("current_columns",
    .list [.list ["WEIGHT", .record [("type", "varchar"), ("length", .int 20)]],
      .list ["COLOUR", .record [("type", "varchar"), ("length", .int 20)]]])] (some parcel)

/-- Metadata whose indexes can be looked up of any column but one. -/
def colourLost : Inventory where
  fails lookup _ column := lookup == .indexes && column == "COLOUR"

theorem calls_close_scopes_parcel :
    (changeParcel.run { source := colourLost }).1 =
        .error (Asked.fault ⟨.indexes, "PARCEL", "COLOUR"⟩) ∧
      (changeParcel.run { source := colourLost }).2.source.opened = 2 ∧
      (changeParcel.run { source := colourLost }).2.source.closed = 2 ∧
      (∀ t : Trail Inventory, ((ExceptT.run (Planner.filePlanner.planChange Inventory.provider parcel
        weight (some { type := "integer" }) "WEIGHT" true)).run t).1.isOk = true) ∧
      ∃ plan t', (Planner.filePlanner.planChanges Inventory.provider parcel parcelColumns
        true).Returns { source := {} } plan t' ∧ t'.source.opened = 2 := by
  -- The column that is made anew is looked up first, in a scope of its own, and without a failure.
  have opened : (changeParcel.run { source := colourLost }).2.source.opened = 2 := by
    decide +kernel
  obtain ⟨closed, -, -, refused⟩ := (calls_close_scopes colourLost []).1 changeParcel
  refine ⟨?_, opened, closed.symm.trans opened, fun t => ?_, ?_⟩
  · exact refused ⟨.indexes, "PARCEL", "COLOUR"⟩ (by decide +kernel) (by decide)
  · have same := (((calls_close_scopes {} []).2 Planner.filePlanner parcel true).1 weight
      (some { type := "integer" }) "WEIGHT").2 (by decide +kernel) Inventory.provider
      Inventory.provider t { source := {} }
    rw [same]
    decide +kernel
  · obtain ⟨plan, t', returned, rebuilds⟩ := Session.exists_returns_of_map
      (s := Planner.filePlanner.planChanges Inventory.provider parcel parcelColumns true)
      (t := { source := {} }) (f := Plan.rebuilds) (b := 1) (by decide +kernel)
    have orphans : (Planner.columnsByName parcelColumns).toOption.map (fun found =>
        (Planner.filePlanner.orphans parcel found).length) = some 1 := by decide +kernel
    obtain ⟨found, hfound, opened, -⟩ :=
      ((calls_close_scopes {} []).2 Planner.filePlanner parcel true).2 parcelColumns plan _ t'
        returned
    rw [hfound] at orphans
    have orphan : (Planner.filePlanner.orphans parcel found).length = 1 := Option.some.inj orphans
    refine ⟨plan, t', returned, ?_⟩
    rw [opened, rebuilds, orphan]

end Call

end SchemaDrift
