import SchemaDrift.Proofs.Catalog.Synonyms
import SchemaDrift.Proofs.Session.Returns

/-!
# The spelling of type names

Two declarations are spelt alike if they write the names of column types with capital or small
letters of ASCII as they like, and agree in all else that counts for types. The catalogues made from
them give the same answers about types that are written alike, but for one: the type of varying
length is kept as it was declared, so a type that is asked about in lower case is that type only if
it was declared in lower case. Where one of the two declarations does so, the other one does not see
that a text of fixed length is only widened.
-/

namespace SchemaDrift

open Document (Value)

namespace Text

/-- Each of the lists has every text of the other, up to the case of letters of ASCII. -/
def SameNames (xs ys : List String) : Prop :=
  (∀ x ∈ xs, ∃ y ∈ ys, AsciiAlike x y) ∧ ∀ y ∈ ys, ∃ x ∈ xs, AsciiAlike x y

instance (xs ys : List String) : Decidable (SameNames xs ys) := inferInstanceAs (Decidable (_ ∧ _))

theorem SameNames.mem_iff {xs ys : List String} (h : SameNames xs ys) (name : String) :
    name ∈ xs.map lower ↔ name ∈ ys.map lower := by
  constructor
  · intro hn
    obtain ⟨x, hx, rfl⟩ := List.mem_map.1 hn
    obtain ⟨y, hy, alike⟩ := h.1 x hx
    exact List.mem_map.2 ⟨y, hy, alike.lower_eq.symm⟩
  · intro hn
    obtain ⟨y, hy, rfl⟩ := List.mem_map.1 hn
    obtain ⟨x, hx, alike⟩ := h.2 y hy
    exact List.mem_map.2 ⟨x, hx, alike.lower_eq⟩

end Text

open Text (AsciiAlike SameNames)

theorem map_eq_of_forall₂ {α β γ : Type} {R : α → β → Prop} {f : α → γ} {g : β → γ} {xs : List α}
    {ys : List β} (h : List.Forall₂ R xs ys) (same : ∀ x y, R x y → f x = g y) :
    xs.map f = ys.map g := by
  induction h with
  | nil => rfl
  | cons first _ ih => rw [List.map_cons, List.map_cons, same _ _ first, ih]

/-- The two are one value, or texts that are alike. -/
def Document.Value.SpeltAlike (v w : Value) : Prop :=
  v = w ∨ ∃ s t, v = .text s ∧ w = .text t ∧ AsciiAlike s t

/-- The declarations differ at most in the case of letters of ASCII in names of column types. -/
structure Declaration.SpeltAlike (d d' : Declaration) : Prop where
  synonymClasses : List.Forall₂ (List.Forall₂ AsciiAlike) d.synonymClasses d'.synonymClasses
  noParameterTypes : SameNames d.noParameterTypes d'.noParameterTypes
  autoGeneratedTypes : SameNames d.autoGeneratedTypes d'.autoGeneratedTypes
  wideCharTypes : SameNames d.wideCharTypes d'.wideCharTypes
  fixedCharTypes : SameNames d.fixedCharTypes d'.fixedCharTypes
  varcharType : d.varcharType.SpeltAlike d'.varcharType
  temporalTypes : List.Forall₂ (fun e e' => e.1 = e'.1 ∧ AsciiAlike e.2 e'.2)
    d.temporalTypes.entries d'.temporalTypes.entries
  currencies : List.Forall₂ (fun e e' => AsciiAlike e.1 e'.1 ∧ e.2 = e'.2)
    d.numeric.currencyPrecisions.entries d'.numeric.currencyPrecisions.entries
  rest : { d' with
    synonymClasses := d.synonymClasses
    noParameterTypes := d.noParameterTypes
    autoGeneratedTypes := d.autoGeneratedTypes
    wideCharTypes := d.wideCharTypes
    fixedCharTypes := d.fixedCharTypes
    varcharType := d.varcharType
    temporalTypes := d.temporalTypes
    numeric := { d'.numeric with currencyPrecisions := d.numeric.currencyPrecisions } } = d

namespace Declaration.SpeltAlike

variable {d d' : Declaration} (alike : d.SpeltAlike d')
include alike

theorem loweredClasses_eq : d.loweredClasses = d'.loweredClasses := by
  apply map_eq_of_forall₂ alike.synonymClasses
  intro members members' same
  exact map_eq_of_forall₂ same fun _ _ h => h.lower_eq

theorem knownTemporalTypes_eq : d.knownTemporalTypes = d'.knownTemporalTypes := by
  have entries : (d.temporalTypes.entries.map fun e => (Text.upper e.1, Text.lower e.2)) =
      d'.temporalTypes.entries.map fun e => (Text.upper e.1, Text.lower e.2) := by
    apply map_eq_of_forall₂ alike.temporalTypes
    intro e e' same
    rw [same.1, same.2.lower_eq]
  rw [knownTemporalTypes, temporalEntries, entries, knownTemporalTypes, temporalEntries]

theorem normalized_eq : d.numeric.normalized = d'.numeric.normalized := by
  have entries : (d.numeric.currencyPrecisions.entries.map fun e => (Text.lower e.1, e.2)) =
      d'.numeric.currencyPrecisions.entries.map fun e => (Text.lower e.1, e.2) := by
    apply map_eq_of_forall₂ alike.currencies
    intro e e' same
    rw [same.1.lower_eq, same.2]
  have others := congrArg Declaration.numeric alike.rest
  have scale := congrArg NumericRules.currencyScale others
  have default := congrArg NumericRules.defaultDecimalPrecision others
  have least := congrArg NumericRules.minColumnScale others
  simp only at scale default least
  rw [NumericRules.normalized, NumericRules.normalized, entries, scale, default, least]

end Declaration.SpeltAlike

namespace Catalog

variable {d d' : Declaration} {c c' : Catalog} {type type' other other' : String}

/-- The catalogues know the same of column types, the type of varying length apart. -/
structure SameTypes (c c' : Catalog) : Prop where
  synonymClasses : c.synonymClasses = c'.synonymClasses
  temporalTypes : c.temporalTypes = c'.temporalTypes
  numeric : c.numeric = c'.numeric
  noParameterTypes : ∀ name, name ∈ c.noParameterTypes ↔ name ∈ c'.noParameterTypes
  autoGeneratedTypes : ∀ name, name ∈ c.autoGeneratedTypes ↔ name ∈ c'.autoGeneratedTypes
  wideCharTypes : ∀ name, name ∈ c.wideCharTypes ↔ name ∈ c'.wideCharTypes
  fixedCharTypes : ∀ name, name ∈ c.fixedCharTypes ↔ name ∈ c'.fixedCharTypes

theorem sameTypes_of_speltAlike (alike : d.SpeltAlike d') (made : ofDeclaration d = .ok c)
    (made' : ofDeclaration d' = .ok c') : c.SameTypes c' := by
  have describes := (ofDeclaration_eq_ok_iff.1 made).2
  have describes' := (ofDeclaration_eq_ok_iff.1 made').2
  exact {
    synonymClasses := by
      rw [describes.synonymClasses, describes'.synonymClasses, alike.loweredClasses_eq]
    temporalTypes := by
      rw [describes.temporalTypes, describes'.temporalTypes, alike.knownTemporalTypes_eq]
    numeric := by
      rw [describes.numeric, describes'.numeric, alike.normalized_eq]
    noParameterTypes := by
      rw [describes.noParameterTypes, describes'.noParameterTypes]
      exact alike.noParameterTypes.mem_iff
    autoGeneratedTypes := by
      rw [describes.autoGeneratedTypes, describes'.autoGeneratedTypes]
      exact alike.autoGeneratedTypes.mem_iff
    wideCharTypes := by
      rw [describes.wideCharTypes, describes'.wideCharTypes]
      exact alike.wideCharTypes.mem_iff
    fixedCharTypes := by
      rw [describes.fixedCharTypes, describes'.fixedCharTypes]
      exact alike.fixedCharTypes.mem_iff }

/-- The catalogues answer alike about types that are written alike, differences of type apart. -/
structure AnswersAlike (c c' : Catalog) : Prop where
  synonymClass? : ∀ {type type'}, AsciiAlike type type' →
    c.synonymClass? type = c'.synonymClass? type'
  synonyms : ∀ {type type'}, AsciiAlike type type' → c.synonyms type = c'.synonyms type'
  temporalCategory? : ∀ {type type'}, AsciiAlike type type' →
    c.temporalCategory? type = c'.temporalCategory? type'
  takesNoParameters : ∀ {type type'}, AsciiAlike type type' →
    c.takesNoParameters type = c'.takesNoParameters type'
  isAutoGenerated : ∀ {type type'}, AsciiAlike type type' →
    c.isAutoGenerated type = c'.isAutoGenerated type'
  isCurrency : ∀ {type type'}, AsciiAlike type type' → c.isCurrency type = c'.isCurrency type'
  currencyPrecision? : ∀ {type type'}, AsciiAlike type type' →
    c.currencyPrecision? type = c'.currencyPrecision? type'
  maxLength : ∀ {type type'}, AsciiAlike type type' → c.maxLength type = c'.maxLength type'
  timestampType : c.timestampType = c'.timestampType
  typesEquivalent : ∀ {type type' other other'}, AsciiAlike type type' → AsciiAlike other other' →
    c.typesEquivalent type other = c'.typesEquivalent type' other'
  lengthDiffers : ∀ (wanted current : Value) {found found'}, AsciiAlike found found' →
    c.lengthDiffers wanted current found = c'.lengthDiffers wanted current found'
  precisionDiffers : ∀ (wanted current : Value) {found found'}, AsciiAlike found found' →
    c.precisionDiffers wanted current found = c'.precisionDiffers wanted current found'
  scaleDiffers : ∀ (wanted current : Value) {found found'}, AsciiAlike found found' →
    c.scaleDiffers wanted current found = c'.scaleDiffers wanted current found'

namespace SameTypes

variable (same : c.SameTypes c')
include same

theorem synonymClass?_eq (h : AsciiAlike type type') :
    c.synonymClass? type = c'.synonymClass? type' := by
  rw [synonymClass?, synonymClass?, classWith?, classWith?, same.synonymClasses, h.lower_eq]

theorem synonyms_eq (h : AsciiAlike type type') : c.synonyms type = c'.synonyms type' := by
  rw [synonyms, synonyms, same.synonymClass?_eq h]

theorem temporalCategory?_eq (h : AsciiAlike type type') :
    c.temporalCategory? type = c'.temporalCategory? type' := by
  have byValue : c.categoryOfValue? = c'.categoryOfValue? := by
    funext name
    rw [categoryOfValue?, categoryOfValue?, same.temporalTypes]
  rw [temporalCategory?, temporalCategory?, byValue, classWith?, classWith?, same.synonymClasses,
    h.lower_eq]

theorem currencyPrecision?_eq (h : AsciiAlike type type') :
    c.currencyPrecision? type = c'.currencyPrecision? type' := by
  rw [currencyPrecision?, currencyPrecision?, same.numeric, h.lower_eq]

theorem isCurrency_eq (h : AsciiAlike type type') : c.isCurrency type = c'.isCurrency type' := by
  rw [isCurrency, isCurrency, same.numeric, h.lower_eq]

theorem maxLength_eq (h : AsciiAlike type type') : c.maxLength type = c'.maxLength type' := by
  simp only [maxLength, List.contains_iff_mem, same.wideCharTypes, h.lower_eq]

theorem typesEquivalent_eq (h : AsciiAlike type type') (h' : AsciiAlike other other') :
    c.typesEquivalent type other = c'.typesEquivalent type' other' := by
  rw [typesEquivalent, typesEquivalent, h.strip.lower_eq, h'.strip.lower_eq,
    same.synonyms_eq h.strip]

theorem answersAlike : c.AnswersAlike c' where
  synonymClass? := same.synonymClass?_eq
  synonyms := same.synonyms_eq
  temporalCategory? := same.temporalCategory?_eq
  takesNoParameters := by
    intro type type' h
    rw [takesNoParameters, takesNoParameters, Bool.eq_iff_iff, List.contains_iff_mem,
      List.contains_iff_mem, same.noParameterTypes, h.lower_eq]
  isAutoGenerated := by
    intro type type' h
    rw [isAutoGenerated, isAutoGenerated, Bool.eq_iff_iff, List.contains_iff_mem,
      List.contains_iff_mem, same.autoGeneratedTypes, h.lower_eq]
  isCurrency := same.isCurrency_eq
  currencyPrecision? := same.currencyPrecision?_eq
  maxLength := same.maxLength_eq
  timestampType := by rw [timestampType, timestampType, same.temporalTypes]
  typesEquivalent := same.typesEquivalent_eq
  lengthDiffers := by
    intro wanted current found found' h
    rw [lengthDiffers, lengthDiffers, lengthOr, lengthOr, lengthOr, lengthOr, same.maxLength_eq h]
  precisionDiffers := by
    intro wanted current found found' h
    rw [precisionDiffers, precisionDiffers, same.currencyPrecision?_eq h, same.numeric]
  scaleDiffers := by
    intro wanted current found found' h
    rw [scaleDiffers, scaleDiffers, same.isCurrency_eq h, same.numeric]

end SameTypes

theorem typeDiffers_eq (c : Catalog) (wanted found : String) (length : Value) :
    c.typeDiffers wanted found length =
      if Text.lower found ∈ c.fixedCharTypes ∧ .text (Text.lower wanted) = c.varcharType then
        (exceedsOne length).map fun above => !above && !c.typesEquivalent wanted found
      else .ok !c.typesEquivalent wanted found := by
  have asked : (c.fixedCharTypes.contains (Text.lower found) &&
      .text (Text.lower wanted) == c.varcharType) = true ↔
        Text.lower found ∈ c.fixedCharTypes ∧ .text (Text.lower wanted) = c.varcharType := by
    rw [Bool.and_eq_true, List.contains_iff_mem, beq_iff_eq]
  simp only [typeDiffers, widensFixedText, asked]
  split
  · cases exceedsOne length with
    | ok above => rw [ok_bind, Except.map, pure_eq_ok]
    | error fault => rfl
  · rw [ok_bind, pure_eq_ok, Bool.not_false, Bool.true_and]

/-- Two answers are the same if both ask for a widening, or neither, or if it makes no odds. -/
theorem widened_eq_iff {fixed varying varying' : Prop} [Decidable fixed] [Decidable varying]
    [Decidable varying'] {above : Except Fault Bool} {equivalent : Bool} :
    ((if fixed ∧ varying then above.map fun above => !above && !equivalent else .ok !equivalent) =
        if fixed ∧ varying' then above.map fun above => !above && !equivalent
        else .ok !equivalent) ↔
      (varying ↔ varying') ∨ ¬fixed ∨ above = .ok false ∨ (above = .ok true ∧ equivalent = true) := by
  have noOdds : (above.map fun above => !above && !equivalent) = .ok !equivalent ↔
      above = .ok false ∨ (above = .ok true ∧ equivalent = true) := by
    cases above with
    | error fault => simp [Except.map]
    | ok above => cases above <;> cases equivalent <;> simp [Except.map]
  by_cases isFixed : fixed
  · by_cases first : varying
    · by_cases second : varying'
      · simp [first, second]
      · simp [isFixed, first, second, noOdds]
    · by_cases second : varying'
      · rw [eq_comm]
        simp [isFixed, first, second, noOdds]
      · simp [first, second]
  · simp [isFixed]

/--
Catalogues whose declarations are spelt alike answer alike about types that are written alike. A
difference of type is told alike but where a text of fixed length above one is widened to another
type that, in lower case, is the type of varying length of one declaration and not of the other.
-/
theorem answersAlike_of_speltAlike (alike : d.SpeltAlike d') (made : ofDeclaration d = .ok c)
    (made' : ofDeclaration d' = .ok c') :
    c.AnswersAlike c' ∧
      ∀ {wanted wanted' found found' : String} (length : Value), AsciiAlike wanted wanted' →
        AsciiAlike found found' →
        (c.typeDiffers wanted found length = c'.typeDiffers wanted' found' length ↔
          (.text (Text.lower wanted) = d.varcharType ↔
            .text (Text.lower wanted) = d'.varcharType) ∨
          Text.lower found ∉ c.fixedCharTypes ∨
          exceedsOne length = .ok false ∨
          (exceedsOne length = .ok true ∧ c.typesEquivalent wanted found = true)) := by
  have same := sameTypes_of_speltAlike alike made made'
  refine ⟨same.answersAlike, ?_⟩
  intro wanted wanted' found found' length hw hf
  have varying := (ofDeclaration_eq_ok_iff.1 made).2.varcharType
  have varying' := (ofDeclaration_eq_ok_iff.1 made').2.varcharType
  have other : c'.typeDiffers wanted' found' length =
      if Text.lower found ∈ c.fixedCharTypes ∧ .text (Text.lower wanted) = d'.varcharType then
        (exceedsOne length).map fun above => !above && !c.typesEquivalent wanted found
      else .ok !c.typesEquivalent wanted found := by
    simp only [typeDiffers_eq, same.fixedCharTypes, hf.lower_eq, hw.lower_eq, varying',
      same.typesEquivalent_eq hw hf]
  rw [other, typeDiffers_eq, varying]
  exact widened_eq_iff

/-- A dialect that writes its text types in capitals. -/
def inCapitals : Declaration where
  name := "capitals"
  types := .ofEntries [("String", "VARCHAR")]
  temporalTypes := .ofList [("TIMESTAMP", "DATETIME")]
  synonymClasses := [["VARCHAR", "TEXT"]]
  fixedCharTypes := ["CHAR", "NCHAR"]
  varcharType := "VARCHAR"

def inSmallLetters : Declaration :=
  { inCapitals with
    temporalTypes := .ofList [("TIMESTAMP", "datetime")]
    synonymClasses := [["varchar", "text"]]
    fixedCharTypes := ["char", "nchar"]
    varcharType := "varchar" }

theorem inCapitals_speltAlike : inCapitals.SpeltAlike inSmallLetters where
  synonymClasses := by decide +kernel
  noParameterTypes := by decide +kernel
  autoGeneratedTypes := by decide +kernel
  wideCharTypes := by decide +kernel
  fixedCharTypes := by decide +kernel
  varcharType := .inr ⟨"VARCHAR", "varchar", rfl, rfl, by decide +kernel⟩
  temporalTypes := by decide +kernel
  currencies := by decide +kernel
  rest := rfl

theorem answersAlike_of_speltAlike_capitals :
    inCapitals.SpeltAlike inSmallLetters ∧
      ∃ c c', ofDeclaration inCapitals = .ok c ∧ ofDeclaration inSmallLetters = .ok c' ∧
        c.AnswersAlike c' ∧
        AsciiAlike "INT" "int" ∧ AsciiAlike "CHAR" "char" ∧
        c.typeDiffers "INT" "CHAR" (.int 10) = c'.typeDiffers "int" "char" (.int 10) := by
  obtain ⟨c, made⟩ := (exists_ofDeclaration_iff (d := inCapitals) (by decide +kernel)).2
    (by decide +kernel)
  obtain ⟨c', made'⟩ := (exists_ofDeclaration_iff (d := inSmallLetters) (by decide +kernel)).2
    (by decide +kernel)
  have wanted : AsciiAlike "INT" "int" := by decide
  have found : AsciiAlike "CHAR" "char" := by decide
  obtain ⟨answers, types⟩ := answersAlike_of_speltAlike inCapitals_speltAlike made made'
  refine ⟨inCapitals_speltAlike, c, c', made, made', answers, wanted, found, ?_⟩
  exact (types (.int 10) wanted found).2 (.inl (by decide +kernel))

/-- The dialect in capitals does not see that a text of fixed length is only widened. -/
theorem typeDiffers_inCapitals :
    inCapitals.SpeltAlike inSmallLetters ∧ AsciiAlike "VARCHAR" "varchar" ∧
      AsciiAlike "CHAR" "char" ∧
      (do (← ofDeclaration inCapitals).typeDiffers "VARCHAR" "CHAR" (.int 10)) = .ok true ∧
      (do (← ofDeclaration inSmallLetters).typeDiffers "varchar" "char" (.int 10)) = .ok false := by
  refine ⟨inCapitals_speltAlike, ?_, ?_, ?_, ?_⟩ <;> decide +kernel

end Catalog

end SchemaDrift
