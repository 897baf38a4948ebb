import SchemaDrift.Metadata.Inventory
import SchemaDrift.Proofs.Ddl.Definition
import SchemaDrift.Proofs.Planner.Entity

/-!
# Alterations in place

A plan that alters a column states its definition once for a change of length, once for a change of
precision or scale, and once for a change of obligation, in this order (`alteredSpecs`). Since each
of them replaces the definition, the last decides what the column is like afterwards, and only the
last of the three says `not null`.
-/

namespace SchemaDrift

open Document (Value)

theorem Plan.kind_of_differences {plan : Plan} {d : Difference} (h : plan.differences = [d]) :
    plan.kind = d.kind := by
  rw [Plan.kind, h]
  show d.kind.worse .keep = d.kind
  cases d.kind <;> rfl

namespace Planner

variable {σ : Type} {p : Planner} {provider : Provider σ} {e : Entity} {a : Attribute}
  {current : Option Column} {column : Value} {tableHasRows : Bool} {t t' : Trail σ} {plan : Plan}

/-- The definitions that changes in place ask for, in the order in which they are stated. -/
def alteredSpecs (p : Planner) (e : Entity) (f : Field) (type : String) (c : Changes) :
    List ColumnSpec :=
  (if c.length then [⟨type, { parameters := .ofLength (p.composer.textLength f) }⟩] else []) ++
  (if c.decimal then
    [⟨type, { parameters := .decimal (p.composer.conventions.decimalParameters f).1
                (p.composer.conventions.decimalParameters f).2 }⟩]
  else []) ++
  if c.mandatory then [p.composer.createdSpec e f type true] else []

theorem alteredSpecs_ne_nil {f : Field} {type : String} {c : Changes} (alter : c.kind = .alter) :
    p.alteredSpecs e f type c ≠ [] := by
  rw [alteredSpecs]
  rcases Changes.changed_of_kind_eq_alter alter with length | decimal | mandatory
  · rw [if_pos length, List.append_assoc]
    exact List.cons_ne_nil _ _
  · rw [if_pos decimal]
    simp
  · rw [if_pos mandatory]
    exact List.concat_ne_nil _ _

theorem exists_getLast_alteredSpecs {f : Field} {type : String} {c : Changes}
    (alter : c.kind = .alter) (isNoId : f.isId = false) :
    ∃ spec, (p.alteredSpecs e f type c).getLast? = some spec ∧
      spec.suffix.notNull = (c.mandatory && f.isMandatory) := by
  have changed := Changes.changed_of_kind_eq_alter alter
  rw [alteredSpecs]
  -- The last change that there is decides: the other ones are stated before it.
  cases mandatory : c.mandatory with
  | true =>
    rw [if_pos rfl, List.getLast?_concat]
    refine ⟨_, rfl, ?_⟩
    show (true && (f.isMandatory || f.isId)) = _
    rw [isNoId, Bool.or_false]
  | false =>
    rw [if_neg Bool.false_ne_true, List.append_nil, Bool.false_and]
    cases decimal : c.decimal with
    | true =>
      rw [if_pos rfl, List.getLast?_concat]
      exact ⟨_, rfl, rfl⟩
    | false =>
      have length : c.length = true := by
        rw [decimal, mandatory] at changed
        simpa using changed
      rw [if_neg Bool.false_ne_true, List.append_nil, if_pos length]
      exact ⟨_, rfl, rfl⟩

theorem names_of_onlyIf {holds : Bool} {type : String} {parameters : Parameters}
    {ss : List Statement} (own : Composer.columnOr column a = .ok column) (asked : holds = true)
    (h : onlyIf holds (p.composer.restate e a column type parameters) = .ok ss) :
    ∃ owner identifier, p.composer.identify e.table = .ok owner ∧
      p.composer.identify column = .ok identifier := by
  rw [onlyIf, if_pos asked] at h
  cases restated : p.composer.restate e a column type parameters with
  | error fault =>
    rw [restated] at h
    cases h
  | ok s => exact Composer.names_of_restate own restated

theorem names_of_alterations {d : Difference} {type : String}
    (own : Composer.columnOr column a = .ok column) (isNoId : a.field.isId = false)
    (alter : d.kind = .alter)
    (h : p.alterations e a d type column tableHasRows = .ok plan) :
    ∃ owner identifier, p.composer.identify e.table = .ok owner ∧
      p.composer.identify column = .ok identifier := by
  obtain ⟨length, hlength, h⟩ := bind_eq_ok.1 h
  obtain ⟨decimal, hdecimal, h⟩ := bind_eq_ok.1 h
  rcases Changes.changed_of_kind_eq_alter alter with lengthens | scales | mandatory
  · exact names_of_onlyIf own lengthens hlength
  · exact names_of_onlyIf own scales hdecimal
  · simp only [mandatory, if_true] at h
    obtain ⟨obligation, hobligation, -⟩ := bind_eq_ok.1 h
    obtain ⟨filling, -, hobligation⟩ := bind_eq_ok.1 hobligation
    obtain ⟨restated, hrestated, -⟩ := bind_eq_ok.1 hobligation
    exact Composer.names_of_alterToAttribute own isNoId hrestated

section Named

variable {owner identifier : Identifier} (howner : p.composer.identify e.table = .ok owner)
  (hidentifier : p.composer.identify column = .ok identifier)

include howner hidentifier

theorem restates_obligationFilling {filling : List Statement × List Value}
    (h : p.obligationFilling e a column tableHasRows = .ok filling) :
    p.composer.Restates owner identifier filling.1 [] := by
  rw [obligationFilling] at h
  split at h
  · obtain ⟨value, -, h⟩ := bind_eq_ok.1 h
    cases value with
    | none =>
      cases h
      exact .nil
    | some value =>
      obtain ⟨s, hs, h⟩ := bind_eq_ok.1 h
      cases h
      exact Composer.restates_fillNulls howner hidentifier hs
  · cases h
    exact .nil

variable (own : Composer.columnOr column a = .ok column)

include own

theorem restates_onlyIf {holds : Bool} {type : String} {parameters : Parameters}
    {ss : List Statement}
    (h : onlyIf holds (p.composer.restate e a column type parameters) = .ok ss) :
    p.composer.Restates owner identifier ss (if holds then [⟨type, { parameters }⟩] else []) := by
  rw [onlyIf] at h
  split at h
  · next asked =>
    rw [if_pos asked]
    cases restated : p.composer.restate e a column type parameters with
    | error fault =>
      rw [restated] at h
      cases h
    | ok s =>
      rw [restated] at h
      cases h
      exact Composer.restates_restate howner hidentifier own restated
  · next unasked =>
    cases h
    rw [if_neg unasked]
    exact .nil

theorem restates_alterations {d : Difference} {type : String}
    (typed : p.composer.columnType e a = .ok (.text type)) (isNoId : a.field.isId = false)
    (h : p.alterations e a d type column tableHasRows = .ok plan) :
    p.composer.Restates owner identifier plan.statements
        (p.alteredSpecs e a.field type d.changes) ∧ plan.differences = [d] := by
  obtain ⟨length, hlength, h⟩ := bind_eq_ok.1 h
  obtain ⟨decimal, hdecimal, h⟩ := bind_eq_ok.1 h
  have lengthens := restates_onlyIf howner hidentifier own hlength
  have scales := restates_onlyIf howner hidentifier own hdecimal
  have front := lengthens.append scales
  rw [alteredSpecs]
  simp only at h
  split at h
  · next mandatory =>
    obtain ⟨obligation, hobligation, h⟩ := bind_eq_ok.1 h
    obtain rfl := pure_eq_ok.1 h
    obtain ⟨filling, hfilling, hobligation⟩ := bind_eq_ok.1 hobligation
    obtain ⟨restated, hrestated, hobligation⟩ := bind_eq_ok.1 hobligation
    obtain rfl := pure_eq_ok.1 hobligation
    have fills := restates_obligationFilling howner hidentifier hfilling
    have requires :=
      Composer.restates_alterToAttribute howner hidentifier own typed isNoId hrestated
    rw [if_pos mandatory]
    exact ⟨front.append (fills.append requires), rfl⟩
  · next mandatory =>
    obtain rfl := pure_eq_ok.1 h
    rw [if_neg mandatory]
    exact ⟨front.append .nil, rfl⟩

end Named

/-- A plan that alters a column in place: what was compared, and what its statements restate. -/
structure AlteredPlan (p : Planner) (e : Entity) (a : Attribute) (current : Option Column)
    (column : Value) (plan : Plan) (d : Difference) (desired found : Column)
    (type foundType : String) (owner identifier : Identifier) : Prop where
  differences : plan.differences = [d]
  kind : d.kind = .alter
  comparison : p.Comparison e a current d desired found type foundType
  named : ∃ named, Composer.columnOr column a = .ok named ∧
    p.composer.identify named = .ok identifier
  owned : p.composer.identify e.table = .ok owner
  restates : p.composer.Restates owner identifier plan.statements
    (p.alteredSpecs e a.field type d.changes)

theorem alteredPlan_of_returns
    (h : (p.planChange provider e a current column tableHasRows).Returns t plan t')
    (alter : plan.kind = .alter) :
    ∃ d desired found type foundType owner identifier,
      p.AlteredPlan e a current column plan d desired found type foundType owner identifier := by
  obtain ⟨named, hnamed, change⟩ := changePlan_of_returns h
  have own := Composer.columnOr_columnOr hnamed
  cases change with
  | kept compared kind whole =>
    subst whole
    rw [Plan.kind_of_differences rfl, kind] at alter
    cases alter
  | rebuilt compared kind _ _ _ _ _ whole =>
    subst whole
    rw [Plan.kind_of_differences rfl, kind] at alter
    cases alter
  | @altered d type compared kind typed alters =>
    obtain ⟨desired, found, type', foundType, comparison⟩ := exists_comparison compared
    have same := typed.symm.trans comparison.typed
    cases same
    have isNoId := comparison.isId_of_alter kind
    obtain ⟨owner, identifier, howner, hidentifier⟩ := names_of_alterations own isNoId kind alters
    obtain ⟨restates, differences⟩ :=
      restates_alterations howner hidentifier own typed isNoId alters
    exact ⟨d, desired, found, type, foundType, owner, identifier, differences, kind, comparison,
      ⟨named, hnamed, hidentifier⟩, howner, restates⟩

section AlteredPlan

variable {d : Difference} {desired found : Column} {type foundType : String}
  {owner identifier : Identifier}

theorem AlteredPlan.parametric
    (h : p.AlteredPlan e a current column plan d desired found type foundType owner identifier) :
    p.Parametric a.field desired found type foundType d.changes := by
  apply h.comparison.parametric
  rw [h.kind]
  decide

theorem AlteredPlan.isId_eq_false
    (h : p.AlteredPlan e a current column plan d desired found type foundType owner identifier) :
    a.field.isId = false :=
  h.comparison.isId_of_alter h.kind

/--
A plan that alters a column leaves it with `not null` if its attribute is mandatory and the column
admitted null before. A mandatory column that did not admit null loses its `not null`.
-/
theorem planChange_leaves_required_iff
    (h : (p.planChange provider e a current column tableHasRows).Returns t plan t')
    (alter : plan.kind = .alter) :
    ∃ found named owner identifier spec, current = some found ∧
      Composer.columnOr column a = .ok named ∧ p.composer.identify e.table = .ok owner ∧
      p.composer.identify named = .ok identifier ∧
      (∀ before, Statement.definitionAfter owner identifier (some before) plan.statements =
        some spec) ∧
      spec.suffix.notNull = (a.field.isMandatory && found.admitsNull) ∧
      (spec.suffix.notNull = a.field.isMandatory ↔
        (a.field.isMandatory = true → found.admitsNull = true)) := by
  obtain ⟨d, desired, found, type, foundType, owner, identifier, altered⟩ :=
    alteredPlan_of_returns h alter
  obtain ⟨named, hnamed, hidentifier⟩ := altered.named
  have isNoId := altered.isId_eq_false
  have stated : ∃ spec, (p.alteredSpecs e a.field type d.changes).getLast? = some spec ∧
      spec.suffix.notNull = (d.changes.mandatory && a.field.isMandatory) :=
    exists_getLast_alteredSpecs altered.kind isNoId
  obtain ⟨spec, last, notNull⟩ := stated
  have obligation : (d.changes.mandatory && a.field.isMandatory) =
      (a.field.isMandatory && found.admitsNull) := by
    rw [altered.parametric.mandatory_eq, Catalog.obligationDiffers, isNoId]
    cases a.field.isMandatory <;> cases found.admitsNull <;> rfl
  rw [obligation] at notNull
  refine ⟨found, named, owner, identifier, spec, altered.comparison.current_eq, hnamed,
    altered.owned, hidentifier, ?_, notNull, ?_⟩
  · intro before
    rw [altered.restates.definitionAfter_eq, List.getLastD_eq_getLast?, last]
    rfl
  · rw [notNull]
    cases a.field.isMandatory <;> cases found.admitsNull <;> decide

end AlteredPlan

def title : Attribute :=
  .plain { name := "title", type := ⟨"java.lang.String", "String"⟩, length := .int 100
           isMandatory := true } []

def fee : Attribute :=
  .plain { name := "fee", type := ⟨"java.math.BigDecimal", "BigDecimal"⟩
           precision := .int 19, scale := .int 2 } []

def member : Entity where
  name := "Member"
  table := "MEMBER"
  attributes := [title, fee]

theorem identify_member : filePlanner.composer.identify member.table = .ok ⟨"MEMBER"⟩ := by
  decide +kernel

def shortTitle (nullable : Bool) : Column :=
  { type := "varchar", length := .int 50, nullable := .bool nullable }

/-- A title that was required and is made longer may be missing afterwards. -/
theorem planChange_leaves_required_lost :
    ((filePlanner.planChange Inventory.provider member title (some (shortTitle false)) .null
        false).start {}).1.toOption.map (fun plan =>
          (plan.kind, plan.statements.map (·.text),
            Statement.definitionAfter ⟨"MEMBER"⟩ ⟨"TITLE"⟩
              (some ⟨"varchar", ⟨.length (.int 50), true⟩⟩) plan.statements)) =
      some (.alter, ["alter table MEMBER alter column TITLE varchar(100) ^"],
        some ⟨"varchar", ⟨.length (.int 100), false⟩⟩) ∧
    title.field.isMandatory = true := by
  decide +kernel

theorem planChange_leaves_required_title :
    ∃ plan trail spec,
      (filePlanner.planChange Inventory.provider member title (some (shortTitle true)) .null
        true).Returns { source := {} } plan trail ∧ plan.kind = .alter ∧
      (∀ before, Statement.definitionAfter ⟨"MEMBER"⟩ ⟨"TITLE"⟩ (some before) plan.statements =
        some spec) ∧
      spec.suffix.notNull = true := by
  obtain ⟨plan, trail, returned, alter⟩ := Session.exists_returns_of_map
    (s := filePlanner.planChange Inventory.provider member title (some (shortTitle true)) .null
      true) (t := { source := {} }) (f := Plan.kind) (b := .alter) (by decide +kernel)
  obtain ⟨found, named, owner, identifier, spec, hfound, hnamed, howner, hidentifier, after,
    notNull, -⟩ := planChange_leaves_required_iff returned alter
  have column : Composer.columnOr .null title = .ok "TITLE" := by decide +kernel
  have written : filePlanner.composer.identify "TITLE" = .ok ⟨"TITLE"⟩ := by decide +kernel
  rw [identify_member] at howner
  rw [column] at hnamed
  cases howner
  cases hnamed
  rw [written] at hidentifier
  cases hidentifier
  cases hfound
  exact ⟨plan, trail, spec, returned, alter, after, notNull.trans (by decide)⟩

section AlteredPlan

variable {d : Difference} {desired found : Column} {type foundType : String}
  {owner identifier : Identifier}

theorem parameters_of_parametric {f : Field} (parametric : isParametric f = true) :
    (p.composer.createdSuffix e f type).parameters =
      if p.composer.catalog.takesNoParameters type then .none else p.composer.parameters f := by
  have own : ¬(f.isId || f.isReference) = true := by
    rw [isParametric] at parametric
    simpa using parametric
  rw [Composer.createdSuffix, if_neg own]

theorem createdSpec_of_comparesLength {f : Field}
    (compared : p.comparesLength f type (p.desiredLength f) = true) :
    p.composer.createdSpec e f type false =
      ⟨type, { parameters := .ofLength (p.composer.textLength f) }⟩ := by
  rw [comparesLength, Bool.and_eq_true, Bool.and_eq_true] at compared
  obtain ⟨⟨parametric, text⟩, parametrized⟩ := compared
  -- What is neither a text nor an enumeration by name wants no length, and none is compared.
  have named : (f.type.isText || f.isNamedEnum) = true := by
    cases named : f.type.isText || f.isNamedEnum with
    | true => rfl
    | false =>
      have unlimited : p.desiredLength f = .null := by
        rw [desiredLength, named, Bool.and_false]
        rfl
      rw [Bool.or_eq_false_iff] at named
      rw [named.1, unlimited] at text
      simp at text
  have stated : (p.composer.createdSuffix e f type).parameters =
      .ofLength (p.composer.textLength f) := by
    rw [parameters_of_parametric parametric, if_neg (by simpa using parametrized),
      Composer.parameters, if_pos named]
  rw [Composer.createdSpec, stated]
  rfl

theorem createdSpec_of_comparesDecimal {f : Field} (compared : comparesDecimal f = true)
    (parametrized : p.composer.catalog.takesNoParameters type = false) :
    p.composer.createdSpec e f type false =
      ⟨type, { parameters := .decimal (p.composer.conventions.decimalParameters f).1
                 (p.composer.conventions.decimalParameters f).2 }⟩ := by
  have number : ¬(f.type.isText || f.isNamedEnum) = true := by
    intro text
    rw [comparesDecimal_of_text text] at compared
    cases compared
  rw [comparesDecimal, Bool.and_eq_true, Bool.and_eq_true] at compared
  obtain ⟨⟨decimal, parametric⟩, -⟩ := compared
  have stated : (p.composer.createdSuffix e f type).parameters =
      .decimal (p.composer.conventions.decimalParameters f).1
        (p.composer.conventions.decimalParameters f).2 := by
    rw [parameters_of_parametric parametric, if_neg (by simp [parametrized]), Composer.parameters,
      if_neg number, if_pos decimal]
  rw [Composer.createdSpec, stated]
  rfl

theorem mem_alteredSpecs {f : Field} {c : Changes} {spec : ColumnSpec} :
    spec ∈ p.alteredSpecs e f type c ↔
      (c.length = true ∧ spec = ⟨type, { parameters := .ofLength (p.composer.textLength f) }⟩) ∨
      (c.decimal = true ∧
        spec = ⟨type, { parameters := .decimal (p.composer.conventions.decimalParameters f).1
                          (p.composer.conventions.decimalParameters f).2 }⟩) ∨
      (c.mandatory = true ∧ spec = p.composer.createdSpec e f type true) := by
  rw [alteredSpecs, List.mem_append, List.mem_append, or_assoc]
  cases c.length <;> cases c.decimal <;> cases c.mandatory <;> simp

/-- What is stated is what is created, but for amounts behind a type that takes none. -/
theorem AlteredPlan.exists_createdSpec {spec : ColumnSpec}
    (h : p.AlteredPlan e a current column plan d desired found type foundType owner identifier)
    (bearable : ¬(d.changes.decimal = true ∧ p.composer.catalog.takesNoParameters type = true))
    (hspec : spec ∈ p.alteredSpecs e a.field type d.changes) :
    ∃ notNull, spec = p.composer.createdSpec e a.field type notNull := by
  have parametric := h.parametric
  rcases mem_alteredSpecs.1 hspec with ⟨length, rfl⟩ | ⟨decimal, rfl⟩ | ⟨-, rfl⟩
  · have compared := parametric.length_eq.symm.trans length
    rw [(type_of_desiredOfType h.comparison.wanted).2.1, Bool.and_eq_true] at compared
    exact ⟨false, (createdSpec_of_comparesLength compared.1).symm⟩
  · have parametrized : p.composer.catalog.takesNoParameters type = false :=
      Bool.eq_false_iff.2 fun bare => bearable ⟨decimal, bare⟩
    have compared := parametric.comparesDecimal_of decimal
    exact ⟨false, (createdSpec_of_comparesDecimal compared parametrized).symm⟩
  · exact ⟨true, rfl⟩

/-- Behind a type that takes no parameters nothing is created that begins with a bracket. -/
theorem render_createdSpec_ne {f : Field} {precision scale : Value} (notNull : Bool)
    (parametric : isParametric f = true)
    (bare : p.composer.catalog.takesNoParameters type = true) :
    (⟨type, { parameters := .decimal precision scale }⟩ : ColumnSpec).render ≠
      (p.composer.createdSpec e f type notNull).render := by
  have stated : (p.composer.createdSuffix e f type).parameters = .none := by
    rw [parameters_of_parametric parametric, if_pos bare]
  rw [Composer.createdSpec, stated, ColumnSpec.render, ColumnSpec.render]
  intro same
  have behind := congrArg String.toList ((String.append_right_inj type).1 same)
  cases required : notNull && (f.isMandatory || f.isId) <;>
    simp [Suffix.render, Parameters.render, required] at behind

/--
What a plan that alters a column states of it is what is created for its attribute, required or not,
unless precision or scale are altered of a type that takes no parameters: these are stated then, and
never created.
-/
theorem planChange_restates_created_iff
    (h : (p.planChange provider e a current column tableHasRows).Returns t plan t')
    (alter : plan.kind = .alter) :
    ∃ d type owner required free, plan.differences = [d] ∧
      p.composer.columnType e a = .ok (.text type) ∧
      p.composer.identify e.table = .ok owner ∧
      p.composer.columnDefinition e a column true = .ok required ∧
      p.composer.columnDefinition e a column false = .ok free ∧
      ((∀ s ∈ plan.statements, ∀ written, s.text = "alter table " ++ owner.text ++
          " alter column " ++ written ++ " " ++ p.composer.catalog.delimiter.display →
        written = required.render ∨ written = free.render) ↔
      ¬(d.changes.decimal = true ∧ p.composer.catalog.takesNoParameters type = true)) := by
  obtain ⟨d, desired, found, type, foundType, owner, identifier, altered⟩ :=
    alteredPlan_of_returns h alter
  obtain ⟨named, hnamed, hidentifier⟩ := altered.named
  have typed := altered.comparison.typed
  refine ⟨d, type, owner, _, _, altered.differences, typed, altered.owned,
    Composer.columnDefinition_of_columnType typed hnamed hidentifier true,
    Composer.columnDefinition_of_columnType typed hnamed hidentifier false, ?_⟩
  constructor
  · rintro created ⟨decimal, bare⟩
    have parametric : isParametric a.field = true := by
      have compared := altered.parametric.comparesDecimal_of decimal
      rw [comparesDecimal, Bool.and_eq_true, Bool.and_eq_true] at compared
      exact compared.1.2
    obtain ⟨s, hs, text⟩ := altered.restates.exists_text_iff.2
      ⟨_, mem_alteredSpecs.2 (.inr (.inl ⟨decimal, rfl⟩)), rfl⟩
    have written := created s hs _ text
    simp only [ColumnDefinition.render, String.append_right_inj] at written
    rcases written with required | free
    · exact render_createdSpec_ne true parametric bare required
    · exact render_createdSpec_ne false parametric bare free
  · intro bearable s hs written text
    obtain ⟨spec, hspec, rfl⟩ := altered.restates.exists_text_iff.1 ⟨s, hs, text⟩
    obtain ⟨notNull, rfl⟩ := altered.exists_createdSpec bearable hspec
    cases notNull
    · exact .inr rfl
    · exact .inl rfl

end AlteredPlan

/-- A fee is created without its precision, which an alteration of its column states. -/
theorem planChange_restates_created_fee :
    ((filePlanner.planChange Inventory.provider member fee
        (some { type := "decimal", precision := .int 18, scale := .int 0 }) .null
        false).start {}).1.toOption.map (fun plan => (plan.kind, plan.statements.map (·.text))) =
      some (.alter, ["alter table MEMBER alter column FEE decimal(19, 2) ^"]) ∧
    ([true, false].map fun notNull =>
        (filePlanner.composer.columnDefinition member fee .null notNull).toOption.map (·.render)) =
      [some "FEE decimal", some "FEE decimal"] := by
  decide +kernel

theorem planChange_restates_created_title :
    ∃ plan trail,
      (filePlanner.planChange Inventory.provider member title (some (shortTitle true)) .null
        true).Returns { source := {} } plan trail ∧
      plan.statements.map (·.text) = [
        "alter table MEMBER alter column TITLE varchar(100) ^",
        "update MEMBER set TITLE = '' where TITLE is null ^",
        "alter table MEMBER alter column TITLE varchar(100) not null ^"] ∧
      (∀ s ∈ plan.statements, ∀ written,
        s.text = "alter table MEMBER alter column " ++ written ++ " ^" →
        written = "TITLE varchar(100) not null" ∨ written = "TITLE varchar(100)") := by
  obtain ⟨plan, trail, returned, planned⟩ := Session.exists_returns_of_map
    (s := filePlanner.planChange Inventory.provider member title (some (shortTitle true)) .null
      true) (t := { source := {} })
    (f := fun plan => (plan.kind, plan.statements.map (·.text))) (b := (.alter, [
      "alter table MEMBER alter column TITLE varchar(100) ^",
      "update MEMBER set TITLE = '' where TITLE is null ^",
      "alter table MEMBER alter column TITLE varchar(100) not null ^"])) (by decide +kernel)
  obtain ⟨alter, texts⟩ := Prod.mk.inj planned
  obtain ⟨d, type, owner, required, free, -, typed, howner, hrequired, hfree, created⟩ :=
    planChange_restates_created_iff returned alter
  have column : filePlanner.composer.columnType member title = .ok "varchar" := by decide +kernel
  have definitions (notNull : Bool) :
      filePlanner.composer.columnDefinition member title .null notNull =
        .ok ⟨⟨"TITLE"⟩, ⟨"varchar", ⟨.length (.int 100), notNull⟩⟩⟩ := by
    cases notNull <;> decide +kernel
  rw [identify_member] at howner
  rw [column] at typed
  rw [definitions] at hrequired hfree
  cases howner
  cases typed
  cases hrequired
  cases hfree
  have parametrized : filePlanner.composer.catalog.takesNoParameters "varchar" = false := by
    decide +kernel
  refine ⟨plan, trail, returned, texts, fun s hs written text => ?_⟩
  have states := created.2 (by simp [parametrized]) s hs written
  have mark : filePlanner.composer.catalog.delimiter.display = "^" := by decide +kernel
  rw [mark] at states
  have ends : "alter table " ++ "MEMBER" ++ " alter column " ++ written ++ " " ++ "^" =
      "alter table MEMBER alter column " ++ written ++ " ^" := by
    rw [String.append_assoc]
    rfl
  exact states (text.trans ends.symm)

end Planner

end SchemaDrift
