import SchemaDrift.Planner
import SchemaDrift.Proofs.Ddl.Composition

/-!
# The plan of one attribute

What a comparison compared can be read off the difference that it reports, and the plan of one
attribute follows the kind of that difference. `changePlan_of_returns` takes such a plan apart, with
what happened to the source on the way; all that is said of the plan of one attribute is derived
from it.
-/

namespace SchemaDrift

open Document (Value)

namespace Planner

variable {σ : Type} {p : Planner} {provider : Provider σ} {e : Entity} {a : Attribute}
  {column : Value} {tableHasRows : Bool} {t t' : Trail σ}

-- A plan asks for the column before the comparison does, which then is handed the answer.
theorem difference_columnOr {current : Option Column} {named : Value}
    (h : Composer.columnOr column a = .ok named) :
    p.difference e a current named = p.difference e a current column := by
  rw [difference, difference, h, Composer.columnOr_columnOr h]

theorem isParametric_eq_false {f : Field} (h : (f.isId || f.isReference) = true) :
    isParametric f = false := by
  rw [isParametric, h]
  rfl

theorem comparesLength_of_key {f : Field} {type : String} (h : isParametric f = false)
    (length : Value) : p.comparesLength f type length = false := by
  rw [comparesLength, h]
  rfl

theorem comparesDecimal_of_key {f : Field} (h : isParametric f = false) :
    comparesDecimal f = false := by
  rw [comparesDecimal, h, Bool.and_false]
  rfl

theorem isEnum_of_isNamedEnum {f : Field} (h : f.isNamedEnum = true) : f.isEnum = true := by
  rw [Field.isNamedEnum, Bool.and_eq_true] at h
  exact h.1

theorem comparesDecimal_of_text {f : Field} (h : (f.type.isText || f.isNamedEnum) = true) :
    comparesDecimal f = false := by
  rw [comparesDecimal]
  rcases Bool.or_eq_true_iff.1 h with text | named
  · have notDecimal : f.type.isDecimal = false := by
      rw [TypeName.isText, Bool.or_eq_true_iff, beq_iff_eq, beq_iff_eq] at text
      rw [TypeName.isDecimal]
      rcases text with string | character
      · rw [string]
        decide
      · rw [character]
        decide
    rw [notDecimal]
    rfl
  · rw [isEnum_of_isNamedEnum named, Bool.not_true, Bool.and_false]

/-- What a comparison compared: a column wanted and a column found, with texts for types. -/
structure Comparison (p : Planner) (e : Entity) (a : Attribute) (current : Option Column)
    (d : Difference) (desired found : Column) (type foundType : String) : Prop where
  current_eq : current = some found
  typed : p.composer.columnType e a = .ok (.text type)
  wanted : p.desiredOfType a.field (.text type) = .ok desired
  foundType_eq : found.type = .text foundType
  desired_eq : d.desired = some desired
  found_eq : d.current = some found
  changes_eq : p.changes a.field desired found = .ok d.changes

theorem type_of_desiredOfType {f : Field} {type : Value} {desired : Column}
    (h : p.desiredOfType f type = .ok desired) :
    desired.type = type ∧ desired.length = p.desiredLength f ∧
      desired.nullable = .bool !(f.isMandatory || f.isId) := by
  obtain ⟨⟨precision, scale⟩, -, h⟩ := bind_eq_ok.1 h
  cases h
  exact ⟨rfl, rfl, rfl⟩

theorem exists_comparison {current : Option Column} {d : Difference}
    (h : p.difference e a current column = .ok d) :
    ∃ desired found type foundType, p.Comparison e a current d desired found type foundType := by
  obtain ⟨desired, hdesired, h⟩ := bind_eq_ok.1 h
  obtain ⟨named, -, h⟩ := bind_eq_ok.1 h
  obtain ⟨name, -, h⟩ := bind_eq_ok.1 h
  obtain ⟨type, htype, hdesired⟩ := bind_eq_ok.1 hdesired
  cases current with
  | none => cases h
  | some found =>
    obtain ⟨changes, hchanges, h⟩ := bind_eq_ok.1 h
    obtain rfl := pure_eq_ok.1 h
    have compared := hchanges
    rw [Planner.changes] at hchanges
    split at hchanges
    · next wanted foundType wantedIs foundIs =>
      have typed := (type_of_desiredOfType hdesired).1
      rw [wantedIs] at typed
      subst typed
      exact ⟨desired, found, wanted, foundType, rfl, htype, hdesired, foundIs, rfl, rfl, compared⟩
    · cases hchanges

/-- What a comparison says of the parameters: all of it is decided dimension by dimension. -/
structure Parametric (p : Planner) (f : Field) (desired found : Column) (type foundType : String)
    (c : Changes) : Prop where
  type_eq : c.type = false
  length_eq : c.length = (p.comparesLength f type desired.length &&
    p.comparison.lengthDiffers desired.length found.length foundType)
  comparesDecimal_of : c.decimal = true → comparesDecimal f = true
  mandatory_eq : c.mandatory = Catalog.obligationDiffers f.isMandatory found.admitsNull f.isId

theorem parametric_of_parameterChanges {f : Field} {desired found : Column}
    {type foundType : String} {c : Changes}
    (h : p.parameterChanges f desired found type foundType = .ok c) :
    p.Parametric f desired found type foundType c := by
  rw [Planner.parameterChanges] at h
  split at h
  · next compared =>
    obtain ⟨scale, -, h⟩ := bind_eq_ok.1 h
    obtain rfl := pure_eq_ok.1 h
    exact ⟨rfl, rfl, fun _ => compared, rfl⟩
  · next ignored =>
    obtain rfl := pure_eq_ok.1 h
    have ignored := Bool.eq_false_iff.2 ignored
    refine ⟨rfl, rfl, fun decimal => ?_, rfl⟩
    rw [Changes.decimal, ignored] at decimal
    cases decimal

theorem Comparison.parametric {current : Option Column} {d : Difference} {desired found : Column}
    {type foundType : String} (h : p.Comparison e a current d desired found type foundType)
    (mild : d.kind ≠ .rebuild) :
    p.Parametric a.field desired found type foundType d.changes := by
  have compared := h.changes_eq
  simp only [Planner.changes, (type_of_desiredOfType h.wanted).1, h.foundType_eq] at compared
  obtain ⟨differs, -, compared⟩ := bind_eq_ok.1 compared
  cases differs with
  | true =>
    have severe : d.kind = .rebuild := by
      rw [Difference.kind, ← pure_eq_ok.1 compared]
      rfl
    exact absurd severe mild
  | false => exact parametric_of_parameterChanges compared

theorem Comparison.isId_of_alter {current : Option Column} {d : Difference}
    {desired found : Column} {type foundType : String}
    (h : p.Comparison e a current d desired found type foundType) (alter : d.kind = .alter) :
    a.field.isId = false := by
  have parametric := h.parametric (by rw [alter]; decide)
  cases isId : a.field.isId with
  | false => rfl
  | true =>
    have key : isParametric a.field = false := isParametric_eq_false (by rw [isId]; rfl)
    have length : d.changes.length = false := by
      rw [parametric.length_eq, comparesLength_of_key key, Bool.false_and]
    have decimal : d.changes.decimal = false := by
      cases changed : d.changes.decimal with
      | false => rfl
      | true =>
        have compared := parametric.comparesDecimal_of changed
        rw [comparesDecimal_of_key key] at compared
        cases compared
    have mandatory : d.changes.mandatory = false := by
      rw [parametric.mandatory_eq, isId]
      rfl
    rw [Difference.kind, Changes.kind, parametric.type_eq, length, decimal, mandatory] at alter
    cases alter

theorem returns_announce {plan announced : Plan}
    (h : (p.announce plan : Session σ Plan).Returns t announced t') :
    announced = plan ∧ t'.source = t.source := by
  obtain ⟨_, u, reported, h⟩ := Session.returns_bind.1 h
  obtain ⟨_, v, listed, h⟩ := Session.returns_bind.1 h
  obtain ⟨_, w, warned, h⟩ := Session.returns_bind.1 h
  obtain ⟨rfl, rfl⟩ := Session.returns_pure.1 h
  have reported := Session.source_of_returns_log reported
  have listed := Composer.source_of_returns_logStatements listed
  refine ⟨rfl, Session.invariant_of_returns_forM (I := fun x => x.source = t.source) ?_ ?_ warned⟩
  · exact listed.trans reported
  · intro warning _ x _ x' same hx
    exact (Session.source_of_returns_log hx).trans same

/-- The warning of a plan that makes a column anew. -/
def rebuildWarning (e : Entity) (column : Value) (d : Difference) : Value :=
  .text (lossWarning e.table column (typeOf d.current) (typeOf d.desired))

/--
What the plan of one attribute can be, by the kind of the difference. Only a column that is made
anew has its dependencies looked up.
-/
inductive ChangePlan (p : Planner) (provider : Provider σ) (e : Entity) (a : Attribute)
    (current : Option Column) (column : Value) (tableHasRows : Bool) (t : Trail σ) (plan : Plan)
    (t' : Trail σ) : Prop
  | kept {d : Difference}
      (compared : p.difference e a current column = .ok d)
      (kind : d.kind = .keep)
      (whole : plan = { table := e.table, differences := [d] })
      (source : t'.source = t.source)
  | altered {d : Difference} {type : String}
      (compared : p.difference e a current column = .ok d)
      (kind : d.kind = .alter)
      (typed : p.composer.columnType e a = .ok (.text type))
      (alters : p.alterations e a d type column tableHasRows = .ok plan)
      (source : t'.source = t.source)
  | rebuilt {d : Difference} {dependencies keyDrops additions restored : List Statement}
      {drop : Statement} {u : Trail σ}
      (compared : p.difference e a current column = .ok d)
      (kind : d.kind = .rebuild)
      (depends : (p.composer.dropDependencies provider e.table column).Returns t dependencies u)
      (unlocks : p.primaryKeyDrops e a = .ok keyDrops)
      (drops : p.composer.dropColumn e.table column = .ok drop)
      (adds : p.composer.leafAdditions e a column tableHasRows = .ok additions)
      (restores : p.keyStatements e a column = .ok restored)
      (whole : plan = {
        table := e.table, differences := [d], warnings := [rebuildWarning e column d]
        statements := dependencies ++ keyDrops ++ [drop] ++ additions ++ restored })
      (source : t'.source = u.source)

theorem returns_rebuild {statements : List Statement} (leaf : a.isEmbedded = false)
    (own : Composer.columnOr column a = .ok column)
    (h : (p.rebuild provider e a column tableHasRows).Returns t statements t') :
    ∃ dependencies keyDrops drop additions restored u,
      (p.composer.dropDependencies provider e.table column).Returns t dependencies u ∧
      p.primaryKeyDrops e a = .ok keyDrops ∧
      p.composer.dropColumn e.table column = .ok drop ∧
      p.composer.leafAdditions e a column tableHasRows = .ok additions ∧
      p.keyStatements e a column = .ok restored ∧
      statements = dependencies ++ keyDrops ++ [drop] ++ additions ++ restored ∧
      t'.source = u.source := by
  obtain ⟨dependencies, u, depends, h⟩ := Session.returns_bind.1 h
  obtain ⟨keyDrops, unlocks, h⟩ := Session.returns_lift_bind.1 h
  obtain ⟨drop, drops, h⟩ := Session.returns_lift_bind.1 h
  obtain ⟨additions, v, adds, h⟩ := Session.returns_bind.1 h
  obtain ⟨restored, restores, h⟩ := Session.returns_lift_bind.1 h
  obtain ⟨rfl, rfl⟩ := Session.returns_pure.1 h
  obtain ⟨adds, source⟩ := Composer.returns_addColumn leaf own adds
  exact ⟨dependencies, keyDrops, drop, additions, restored, u, depends, unlocks, drops, adds,
    restores, rfl, source⟩

/-- A plan of one attribute that was returned is one of those that it can have. -/
theorem changePlan_of_returns {current : Option Column} {plan : Plan}
    (h : (p.planChange provider e a current column tableHasRows).Returns t plan t') :
    ∃ named, Composer.columnOr column a = .ok named ∧
      p.ChangePlan provider e a current named tableHasRows t plan t' := by
  obtain ⟨named, hnamed, h⟩ := Session.returns_lift_bind.1 h
  obtain ⟨d, compared, h⟩ := Session.returns_lift_bind.1 h
  obtain ⟨desired, found, type, foundType, comparison⟩ := exists_comparison compared
  refine ⟨named, hnamed, ?_⟩
  split at h
  · next kind =>
    obtain ⟨rfl, rfl⟩ := Session.returns_pure.1 h
    exact .kept compared kind rfl rfl
  · next kind =>
    obtain ⟨statements, v, rebuilds, h⟩ := Session.returns_bind.1 h
    obtain ⟨rfl, announced⟩ := returns_announce h
    obtain ⟨dependencies, keyDrops, drop, additions, restored, u, depends, unlocks, drops, adds,
      restores, rfl, source⟩ :=
      returns_rebuild (Composer.isEmbedded_of_columnType comparison.typed)
        (Composer.columnOr_columnOr hnamed) rebuilds
    exact .rebuilt compared kind depends unlocks drops adds restores rfl (announced.trans source)
  · next kind =>
    obtain ⟨altered, alters, h⟩ := Session.returns_lift_bind.1 h
    obtain ⟨rfl, announced⟩ := returns_announce h
    have display : (typeOf d.desired).display = type := by
      rw [comparison.desired_eq]
      show desired.type.display = type
      rw [(type_of_desiredOfType comparison.wanted).1]
      rfl
    rw [display] at alters
    exact .altered compared kind comparison.typed alters announced

end Planner

end SchemaDrift
