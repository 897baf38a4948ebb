import SchemaDrift.Metadata.Inventory
import SchemaDrift.Proofs.Planner.Created

/-!
# Settling

A column is made as its attribute describes it, read back, and compared with the attribute again.
Type, length and obligation are always found as they are wanted. Precision and scale are not where
the attribute states them for a type that takes no parameters, or for a currency whose own are
different: then every comparison asks for the same alteration.
-/

namespace SchemaDrift

open Document (Value)

namespace Planner

/-- Whether the precision that is wanted of a type is one that its columns cannot have. -/
def missesPrecision (c : Catalog) (type : String) (wanted : Value) : Bool :=
  match c.currencyPrecision? type with
  | some fixed => !(Catalog.amount wanted).equals fixed
  | none => c.takesNoParameters type && !(Catalog.amount wanted).equals (.int 0)

/-- Whether the scale that is wanted of a type is one that its columns cannot have. -/
def missesScale (c : Catalog) (type : String) (wanted : Value) : Bool :=
  if c.isCurrency type then !(Catalog.amount wanted).equals c.numeric.currencyScale
  else c.takesNoParameters type && !(Catalog.amount wanted).equals (.int 0)

/-- What the column of an attribute keeps lacking: amounts that a column of its type cannot have. -/
def lacking (p : Planner) (f : Field) (type : String) : Changes where
  precision := comparesDecimal f && missesPrecision p.comparison type (p.desiredDecimal f type).1
  scale := comparesDecimal f && missesScale p.comparison type (p.desiredDecimal f type).2

section Compared

variable {c : Catalog} {f : Field} {type : String}

theorem exists_exceedsOne {length : Value} (h : length.IsAmount) :
    ∃ above, Catalog.exceedsOne length = .ok above := by
  have whole : ∃ n, length.statedOr (.int 0) = .int n :=
    Document.Value.exists_statedOr h ⟨0, rfl⟩
  obtain ⟨n, hn⟩ := whole
  rw [Catalog.exceedsOne, hn]
  exact ⟨_, rfl⟩

theorem exists_widensFixedText (c : Catalog) (wanted found : String) {length : Value}
    (h : ∃ above, Catalog.exceedsOne length = .ok above) :
    ∃ widens, c.widensFixedText wanted found length = .ok widens := by
  rw [Catalog.widensFixedText]
  split
  · exact h
  · exact ⟨_, rfl⟩

theorem typeDiffers_self (c : Catalog) (type : String) {length : Value} (h : length.IsAmount) :
    c.typeDiffers type type length = .ok false := by
  obtain ⟨widens, hwidens⟩ := exists_widensFixedText c type type (exists_exceedsOne h)
  rw [Catalog.typeDiffers, hwidens, ok_bind, Catalog.typesEquivalent_self, Bool.not_true,
    Bool.and_false]
  rfl

/-- Where nothing was written zero is read, so that only a wish for zero is met. -/
theorem equals_created {wanted found : Value} (number : found ≠ .real .nan)
    (read : found = if c.takesNoParameters type then .null else wanted) :
    (Catalog.amount found).equals (Catalog.amount wanted) =
      (!c.takesNoParameters type || (Catalog.amount wanted).equals (.int 0)) := by
  cases bare : c.takesNoParameters type with
  | true =>
    obtain rfl : found = .null := read.trans (if_pos bare)
    exact Value.equals_comm ..
  | false =>
    obtain rfl : wanted = found := (read.trans (if_neg (Bool.eq_false_iff.1 bare))).symm
    exact Value.equals_self_iff.2 (Catalog.amount_ne_nan number)

theorem precisionDiffers_created {wanted found : Value} (number : found ≠ .real .nan)
    (read : found = if c.takesNoParameters type then .null else wanted) :
    c.precisionDiffers wanted found type = missesPrecision c type wanted := by
  rw [Catalog.precisionDiffers, missesPrecision, equals_created number read]
  cases c.currencyPrecision? type with
  | some fixed => rfl
  | none =>
    cases c.takesNoParameters type <;> cases (Catalog.amount wanted).equals (.int 0) <;> rfl

theorem scaleDiffers_created {wanted found : Value} (number : found ≠ .real .nan)
    (read : found = if c.takesNoParameters type then .null else wanted) :
    c.scaleDiffers wanted found type = .ok (missesScale c type wanted) := by
  rw [Catalog.scaleDiffers, missesScale, equals_created number read]
  cases c.isCurrency type with
  | true => rfl
  | false =>
    cases c.takesNoParameters type <;> cases (Catalog.amount wanted).equals (.int 0) <;> rfl

end Compared

section Settling

variable {p : Planner} {f : Field} {type : String} {found : Column}

theorem Created.amounts_eq (created : p.Created f type found) (compared : comparesDecimal f = true) :
    (found.precision, found.scale) =
      if p.composer.catalog.takesNoParameters type then (.null, .null)
      else p.desiredDecimal f type := by
  rw [created.decimal_eq compared, desiredDecimal]
  split
  · rfl
  · rfl

theorem desiredAmounts_text (p : Planner) (f : Field) (type : String) :
    ∃ amounts, p.desiredAmounts f (.text type) = .ok amounts ∧
      (comparesDecimal f = true → amounts = p.desiredDecimal f type) := by
  rw [desiredAmounts]
  split
  · exact ⟨_, rfl, fun _ => rfl⟩
  · next unwanted =>
    refine ⟨_, rfl, fun compared => absurd ?_ unwanted⟩
    have number : (f.type.isText || f.isNamedEnum) = false := by
      cases text : f.type.isText || f.isNamedEnum with
      | false => rfl
      | true =>
        rw [comparesDecimal_of_text text] at compared
        cases compared
    rw [comparesDecimal, Bool.and_eq_true, Bool.and_eq_true] at compared
    obtain ⟨⟨decimal, parametric⟩, -⟩ := compared
    rw [parametric, number, decimal]
    rfl

theorem Created.length_settles (created : p.Created f type found) :
    (p.comparesLength f type (p.desiredLength f) &&
      p.comparison.lengthDiffers (p.desiredLength f) found.length type) = false := by
  cases compared : p.comparesLength f type (p.desiredLength f) with
  | false => rfl
  | true =>
    have stated : found.length.statedOr (.int (p.comparison.maxLength type)) ≠ .real .nan :=
      Document.Value.statedOr_ne_nan created.amounts.length.ne_nan nofun
    rw [Catalog.lengthDiffers, Catalog.lengthOr, Catalog.lengthOr, ← created.length_eq compared,
      Document.Value.equals_self_iff.2 stated]
    rfl

theorem Created.obligation_settles (created : p.Created f type found) :
    Catalog.obligationDiffers f.isMandatory found.admitsNull f.isId = false :=
  Catalog.obligationDiffers_eq_false created.nullable_eq

theorem Created.parameterChanges_eq {desired : Column} (created : p.Created f type found)
    (same : p.comparison = p.composer.catalog) (length : desired.length = p.desiredLength f)
    (amounts : comparesDecimal f = true →
      (desired.precision, desired.scale) = p.desiredDecimal f type) :
    p.parameterChanges f desired found type type = .ok (p.lacking f type) := by
  rw [parameterChanges, length, created.length_settles, created.obligation_settles, lacking]
  cases compared : comparesDecimal f with
  | false => rfl
  | true =>
    have precision : desired.precision = (p.desiredDecimal f type).1 :=
      congrArg Prod.fst (amounts compared)
    have scale : desired.scale = (p.desiredDecimal f type).2 :=
      congrArg Prod.snd (amounts compared)
    have read := created.amounts_eq compared
    rw [← same] at read
    have precisionRead := congrArg Prod.fst read
    have scaleRead := congrArg Prod.snd read
    rw [apply_ite Prod.fst] at precisionRead
    rw [apply_ite Prod.snd] at scaleRead
    rw [if_pos rfl, precision, scale,
      precisionDiffers_created created.amounts.precision.ne_nan precisionRead,
      scaleDiffers_created created.amounts.scale.ne_nan scaleRead]
    rfl

/-- A column that was made as its attribute describes it lacks only what it keeps lacking. -/
theorem Created.changes_eq (created : p.Created f type found)
    (same : p.comparison = p.composer.catalog) :
    ∃ desired, p.desiredOfType f (.text type) = .ok desired ∧
      p.changes f desired found = .ok (p.lacking f type) := by
  obtain ⟨amounts, hamounts, wanted⟩ := desiredAmounts_text p f type
  rw [desiredOfType, hamounts, ok_bind]
  refine ⟨_, rfl, ?_⟩
  simp only [changes, created.type_eq]
  rw [same, typeDiffers_self _ _ created.amounts.length, ok_bind]
  exact created.parameterChanges_eq same rfl wanted

end Settling

section Planned

variable {catalog : Catalog} {config : Config} {e : Entity} {a : Attribute} {column : Value}
  {definition : ColumnDefinition}

theorem exists_difference {p : Planner} {type : String} {named : Value} {name : String}
    {desired found : Column} {changes : Changes}
    (typed : p.composer.columnType e a = .ok (.text type))
    (wanted : p.desiredOfType a.field (.text type) = .ok desired)
    (hnamed : Composer.columnOr column a = .ok named) (text : Document.textOf named = .ok name)
    (compared : p.changes a.field desired found = .ok changes) :
    ∃ d, p.difference e a (some found) column = .ok d ∧ d.changes = changes := by
  rw [difference, desiredColumn, typed, ok_bind, wanted, ok_bind, hnamed, ok_bind, text, ok_bind]
  show ∃ d, (p.changes a.field desired found >>= fun _ => _) = .ok d ∧ _
  rw [compared, ok_bind]
  exact ⟨_, rfl, rfl⟩

theorem kind_lacking (p : Planner) (f : Field) (type : String) :
    (p.lacking f type).kind = if p.lacking f type = {} then .keep else .alter := by
  have amounts : ∀ precision scale : Bool, ({ precision, scale } : Changes).kind =
      if ({ precision, scale } : Changes) = {} then .keep else .alter := by decide
  exact amounts _ _

theorem decimal_lacking {p : Planner} {f : Field} {type : String}
    (unsettled : p.lacking f type ≠ {}) : (p.lacking f type).decimal = true := by
  have amounts : ∀ precision scale : Bool, ({ precision, scale } : Changes) ≠ {} →
      ({ precision, scale } : Changes).decimal = true := by decide
  exact amounts _ _ unsettled

theorem onlyIf_ne_nil {s : Except Fault Statement} {ss : List Statement}
    (h : onlyIf true s = .ok ss) : ss ≠ [] := by
  cases s with
  | error fault => cases h
  | ok s' =>
    cases h
    exact List.cons_ne_nil _ _

theorem statements_of_alterations {p : Planner} {d : Difference} {type : String}
    {tableHasRows : Bool} {plan : Plan}
    (h : p.alterations e a d type column tableHasRows = .ok plan)
    (decimal : d.changes.decimal = true) : plan.statements ≠ [] := by
  obtain ⟨length, -, h⟩ := bind_eq_ok.1 h
  obtain ⟨restated, hrestated, h⟩ := bind_eq_ok.1 h
  rw [decimal] at hrestated
  have present (rest : List Statement) : length ++ restated ++ rest ≠ [] := by
    intro empty
    obtain ⟨front, -⟩ := List.append_eq_nil_iff.1 empty
    exact onlyIf_ne_nil hrestated (List.append_eq_nil_iff.1 front).2
  simp only at h
  split at h
  · obtain ⟨obligation, -, h⟩ := bind_eq_ok.1 h
    obtain rfl := pure_eq_ok.1 h
    exact present _
  · obtain rfl := pure_eq_ok.1 h
    exact present _

theorem returns_planChange_of_keep {σ : Type} {p : Planner} {provider : Provider σ}
    {current : Option Column} {d : Difference} {named : Value} {tableHasRows : Bool}
    {t : Trail σ} (hnamed : Composer.columnOr column a = .ok named)
    (compared : p.difference e a current column = .ok d) (kind : d.kind = .keep) :
    (p.planChange provider e a current column tableHasRows).Returns t
      { table := e.table, differences := [d] } t := by
  rw [← difference_columnOr hnamed] at compared
  refine Session.returns_lift_bind.2 ⟨named, hnamed, ?_⟩
  refine Session.returns_lift_bind.2 ⟨d, compared, ?_⟩
  rw [kind]
  exact Session.returns_pure.2 ⟨rfl, rfl⟩

theorem statements_of_returns_planChange {σ : Type} {p : Planner} {provider : Provider σ}
    {current : Option Column} {d : Difference} {named : Value} {tableHasRows : Bool}
    {t t' : Trail σ} {plan : Plan} (hnamed : Composer.columnOr column a = .ok named)
    (compared : p.difference e a current column = .ok d) (kind : d.kind = .alter)
    (decimal : d.changes.decimal = true)
    (h : (p.planChange provider e a current column tableHasRows).Returns t plan t') :
    plan.statements ≠ [] := by
  obtain ⟨named', hnamed', change⟩ := changePlan_of_returns h
  rw [hnamed] at hnamed'
  cases hnamed'
  rw [← difference_columnOr hnamed] at compared
  cases change with
  | kept compared' kept =>
    rw [compared] at compared'
    cases compared'
    rw [kind] at kept
    cases kept
  | altered compared' _ _ alters =>
    rw [compared] at compared'
    cases compared'
    exact statements_of_alterations alters decimal
  | rebuilt compared' severe =>
    rw [compared] at compared'
    cases compared'
    rw [kind] at severe
    cases severe

/--
A column that was made as its attribute describes it is read back in one way. It then differs from
what the attribute wants in nothing but amounts that its type cannot have, so that there is nothing
to plan exactly where there are no such amounts.
-/
theorem difference_of_created (configured : config.HasWholeAmounts)
    (stated : a.field.HasWholeAmounts)
    (h : (ofConfig catalog config).composer.columnDefinition e a column true = .ok definition) :
    ∃ current d,
      (∀ c, ReadsBack (.text definition.spec.type) definition.spec.suffix.render c ↔
        c = current) ∧
      (ofConfig catalog config).difference e a (some current) column = .ok d ∧
      d.changes = (ofConfig catalog config).lacking a.field definition.spec.type ∧
      d.kind = (if (ofConfig catalog config).lacking a.field definition.spec.type = {} then .keep
        else .alter) ∧
      ∀ {σ : Type} (provider : Provider σ) (tableHasRows : Bool) (t : Trail σ),
        ((ofConfig catalog config).lacking a.field definition.spec.type = {} →
          ((ofConfig catalog config).planChange provider e a (some current) column
            tableHasRows).Returns t { table := e.table, differences := [d] } t) ∧
        ((ofConfig catalog config).lacking a.field definition.spec.type ≠ {} → ∀ plan t',
          ((ofConfig catalog config).planChange provider e a (some current) column
            tableHasRows).Returns t plan t' → plan.statements ≠ []) := by
  obtain ⟨type, typed, spec⟩ := Composer.spec_of_columnDefinition h
  obtain ⟨named, hnamed, identified⟩ := Composer.identify_of_columnDefinition h
  obtain ⟨name, rfl, -⟩ := Quoter.exists_text_of_identify identified
  obtain ⟨clause, hclause, created⟩ := exists_created catalog configured stated e type
  obtain ⟨desired, wanted, compared⟩ := created.changes_eq rfl
  obtain ⟨d, hd, changes⟩ := exists_difference typed wanted hnamed rfl compared
  have kind : d.kind =
      if (ofConfig catalog config).lacking a.field type = {} then .keep else .alter := by
    rw [← kind_lacking, ← changes]
    rfl
  rw [spec]
  refine ⟨_, d, fun c => readsBack_iff hclause, hd, changes, kind, ?_⟩
  intro σ provider tableHasRows t
  constructor
  · intro settled
    rw [if_pos settled] at kind
    exact returns_planChange_of_keep hnamed hd kind
  · intro unsettled plan t' returned
    rw [if_neg unsettled] at kind
    have decimal := decimal_lacking unsettled
    rw [← changes] at decimal
    exact statements_of_returns_planChange hnamed hd kind decimal returned

end Planned

def note : Attribute :=
  .plain { name := "note", type := ⟨"java.lang.String", "String"⟩, length := .int 20 } []

def price : Attribute :=
  .plain { name := "price", type := ⟨"java.math.BigDecimal", "BigDecimal"⟩
           precision := .int 19, scale := .int 2 } []

def invoice : Entity where
  name := "Invoice"
  table := "INVOICE"
  attributes := [note, price]

/-- A price is made without its precision, and given it again whenever it is compared. -/
theorem difference_of_created_price :
    ∃ definition d,
      filePlanner.composer.columnDefinition invoice price .null true = .ok definition ∧
      definition.render = "PRICE decimal" ∧
      (∀ c, ReadsBack (.text definition.spec.type) definition.spec.suffix.render c ↔
        c = { type := "decimal" }) ∧
      filePlanner.difference invoice price (some { type := "decimal" }) .null = .ok d ∧
      d.kind = .alter ∧
      ((filePlanner.planChange Inventory.provider invoice price (some { type := "decimal" }) .null
        false).start {}).1.toOption.map (fun plan => plan.statements.map (·.text)) =
        some ["alter table INVOICE alter column PRICE decimal(19, 2) ^"] := by
  refine ⟨⟨⟨"PRICE"⟩, ⟨"decimal", {}⟩⟩, ⟨"INVOICE", "PRICE",
    some { type := "decimal", precision := .int 19, scale := .int 2 },
    some { type := "decimal" }, .ofChanges { precision := true, scale := true }⟩, ?_⟩
  refine ⟨?_, by decide +kernel, ?_, ?_, rfl, ?_⟩
  · decide +kernel
  · intro c
    have silent : ({} : Suffix).parameters.clause? = some .empty := rfl
    exact readsBack_iff silent
  · decide +kernel
  · decide +kernel

theorem difference_of_created_note :
    ∃ definition current d,
      filePlanner.composer.columnDefinition invoice note .null true = .ok definition ∧
      definition.render = "NOTE varchar(20)" ∧
      (∀ c, ReadsBack (.text definition.spec.type) definition.spec.suffix.render c ↔
        c = current) ∧
      filePlanner.difference invoice note (some current) .null = .ok d ∧ d.kind = .keep := by
  have configured : (default : Config).HasWholeAmounts :=
    ⟨.inl rfl, ⟨50, rfl⟩, ⟨19, rfl⟩, ⟨2, rfl⟩⟩
  have stated : note.field.HasWholeAmounts := ⟨.inr ⟨20, rfl⟩, .inl rfl, .inl rfl⟩
  have defined : filePlanner.composer.columnDefinition invoice note .null true =
      .ok ⟨⟨"NOTE"⟩, ⟨"varchar", { parameters := .length (.int 20) }⟩⟩ := by decide +kernel
  have settled : filePlanner.lacking note.field "varchar" = {} := by decide +kernel
  obtain ⟨current, d, reads, compared, -, kind, -⟩ :=
    difference_of_created configured stated defined
  refine ⟨_, current, d, defined, by decide +kernel, reads, compared, ?_⟩
  rw [kind]
  exact if_pos settled

end Planner

end SchemaDrift
