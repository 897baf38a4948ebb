import SchemaDrift.Metadata.Inventory
import SchemaDrift.Proofs.Planner.Effects

/-!
# Dependencies in recorded metadata

Lookups leave what is recorded as it is, so that all of them answer from the same records. What is
dropped with a column is therefore a function of the records and the column.
-/

namespace SchemaDrift

open Document (Value)

theorem Session.returns_ensuring {σ α : Type} {s : Session σ α} {f : Trail σ → Trail σ}
    {t t' : Trail σ} {a : α} (h : (s.ensuring f).Returns t a t') :
    ∃ u, s.Returns t a u ∧ t' = f u := by
  rcases run : (ExceptT.run s).run t with ⟨r, u⟩
  have whole : (r, f u) = (.ok a, t') := by
    rw [← h]
    show _ = ((ExceptT.run s t).1, f (ExceptT.run s t).2)
    rw [show ExceptT.run s t = (r, u) from run]
  cases whole
  exact ⟨u, run, rfl⟩

theorem Session.Returns.ensuring {σ α : Type} {s : Session σ α} {t u : Trail σ} {a : α}
    (h : s.Returns t a u) (f : Trail σ → Trail σ) : (s.ensuring f).Returns t a (f u) := by
  show ((ExceptT.run s t).1, f (ExceptT.run s t).2) = _
  rw [show ExceptT.run s t = (.ok a, u) from h]

namespace Inventory

/-- Two inventories record the same, whatever they count. -/
def SameRecords (i j : Inventory) : Prop :=
  j.foreignKeyEntries = i.foreignKeyEntries ∧ j.defaultEntries = i.defaultEntries ∧
    j.indexEntries = i.indexEntries

variable {i j : Inventory} {table column : Value} {t t' : Trail Inventory}

theorem run_answer {α : Type} (lookup : Lookup) (table column : Value)
    (read : Inventory → Except Fault α) (t : Trail Inventory) :
    (ExceptT.run (answer lookup table column read)).run t =
      (if t.source.fails lookup table column then .error (lookupFault lookup table)
        else read t.source, t) := by
  show (ExceptT.run (if t.source.fails lookup table column then throw (lookupFault lookup table)
    else liftM (read t.source) : Session Inventory α)).run t = _
  split <;> rfl

theorem returns_answer_bind {α β : Type} {lookup : Lookup} {read : Inventory → Except Fault α}
    {f : α → Session Inventory β} {b : β} (h : (answer lookup table column read >>= f).Returns t b t') :
    ∃ a, read t.source = .ok a ∧ (f a).Returns t b t' := by
  obtain ⟨a, u, answered, rest⟩ := Session.returns_bind.1 h
  obtain ⟨source, v, asked, answered⟩ := Session.returns_bind.1 answered
  cases asked
  split at answered
  · exact absurd answered Session.not_returns_throw
  · obtain ⟨ha, same⟩ := Session.returns_lift.1 answered
    exact ⟨a, ha, same ▸ rest⟩

theorem foreignKeys_of_sameRecords (h : SameRecords i j) :
    j.foreignKeys table column = i.foreignKeys table column := by
  rw [foreignKeys, foreignKeys, h.1]

theorem defaults_of_sameRecords (h : SameRecords i j) :
    j.defaults table column = i.defaults table column := by
  rw [defaults, defaults, h.2.1]

theorem indexes_of_sameRecords (h : SameRecords i j) :
    j.indexes table column = i.indexes table column := by
  rw [indexes, indexes, h.2.2]

theorem returns_lookUpDependencies {foreignKeys defaults : List Value} {indexes : List Index}
    (records : SameRecords i t.source)
    (h : (Composer.lookUpDependencies provider table column).Returns t
      (foreignKeys, defaults, indexes) t') :
    i.foreignKeys table column = .ok foreignKeys ∧ i.defaults table column = .ok defaults ∧
      i.indexes table column = .ok indexes ∧ SameRecords i t'.source := by
  obtain ⟨_, u, opened, h⟩ := Session.returns_bind.1 h
  have counted : SameRecords i u.source := by
    cases opened
    exact records
  obtain ⟨v, lookups, rfl⟩ := Session.returns_ensuring h
  obtain ⟨keys, hkeys, lookups⟩ := returns_answer_bind lookups
  obtain ⟨constraints, hconstraints, lookups⟩ := returns_answer_bind lookups
  obtain ⟨listed, hlisted, lookups⟩ := returns_answer_bind lookups
  obtain ⟨same, rfl⟩ := Session.returns_pure.1 lookups
  cases same
  rw [foreignKeys_of_sameRecords counted] at hkeys
  rw [defaults_of_sameRecords counted] at hconstraints
  rw [indexes_of_sameRecords counted] at hlisted
  exact ⟨hkeys, hconstraints, hlisted, counted⟩

end Inventory

namespace Composer

variable {b : Composer} {table : Value} {i : Inventory}

/-- The constraints that are dropped with a column, according to recorded metadata. -/
def constraintsUnder (b : Composer) (i : Inventory) (table column : Value) :
    Except Fault (List Identifier) := do
  let foreignKeys ← i.foreignKeys table column
  let defaults ← i.defaults table column
  (foreignKeys ++ defaults).mapM b.identify

/-- The indexes that are dropped with a column, according to recorded metadata. -/
def indexesUnder (b : Composer) (i : Inventory) (table column : Value) :
    Except Fault (List Identifier) := do
  let indexes ← i.indexes table column
  (indexes.filter b.isOwn).mapM fun index => b.identify index.name

/-- The effects of dropping what is recorded of a column. -/
def DropsRecorded (b : Composer) (i : Inventory) (table column : Value) (es : List Effect) : Prop :=
  ∃ constraints indexes, b.constraintsUnder i table column = .ok constraints ∧
    b.indexesUnder i table column = .ok indexes ∧
    es = constraints.map .dropsConstraint ++ indexes.map .dropsIndex

end Composer

theorem Planner.looksUp_recorded {p : Planner} {e : Entity} {i : Inventory} :
    p.composer.LooksUp Inventory.provider e.table (Inventory.SameRecords i)
      (p.Issuing e (p.composer.DropsRecorded i e.table)) := by
  intro column t t' ss records h
  obtain ⟨foreignKeys, defaults, indexes, u, found, drops, source⟩ :=
    Composer.returns_dropDependencies h
  obtain ⟨hforeignKeys, hdefaults, hindexes, kept⟩ :=
    Inventory.returns_lookUpDependencies records found
  obtain ⟨constraints, own, hconstraints, hown, issues⟩ := Composer.issues_dependencyDrops drops
  have under : p.composer.constraintsUnder i e.table column = .ok constraints := by
    rw [Composer.constraintsUnder, hforeignKeys, ok_bind, hdefaults, ok_bind, hconstraints]
  have listed : p.composer.indexesUnder i e.table column = .ok own := by
    rw [Composer.indexesUnder, hindexes, ok_bind, hown]
  rw [source]
  exact ⟨⟨_, ⟨constraints, own, under, listed, rfl⟩, issues⟩, kept⟩

end SchemaDrift
