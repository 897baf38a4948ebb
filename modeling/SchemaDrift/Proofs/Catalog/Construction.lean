import Mathlib.Data.List.Nodup
import SchemaDrift.Catalog.Basic
import SchemaDrift.Proofs.Text.LowerCase
import SchemaDrift.Proofs.Text.UpperCase

/-!
# Catalogues from declarations

A declaration makes a catalogue just if its temporal categories are known and no name stands twice
among the members of its synonym classes in lower case (`ofDeclaration_eq_ok_iff`). Otherwise the
fault names the first member that repeats one before it (`ofDeclaration_of_not_nodup`).

What is made is in normal form, type names in lower and reserved words in upper case
(`isNormal_of_ofDeclaration`). A catalogue in normal form that is written down again makes itself
(`ofDeclaration_restated`).
-/

namespace SchemaDrift

theorem exists_of_firstRepeat {seen xs : List String} {x : String}
    (h : firstRepeat seen xs = some x) :
    ∃ earlier later, xs = earlier ++ x :: later ∧ earlier.Nodup ∧ (∀ y ∈ earlier, y ∉ seen) ∧
      (x ∈ seen ∨ x ∈ earlier) := by
  induction xs generalizing seen with
  | nil => cases h
  | cons y ys ih =>
    rw [firstRepeat] at h
    by_cases hy : y ∈ seen
    · rw [if_pos hy, Option.some.injEq] at h
      subst h
      exact ⟨[], ys, rfl, List.nodup_nil, by simp, .inl hy⟩
    · rw [if_neg hy] at h
      obtain ⟨earlier, later, rfl, nodup, new, old⟩ := ih h
      have notEarlier : y ∉ earlier := by
        intro hmem
        exact new y hmem (List.mem_cons_self ..)
      refine ⟨y :: earlier, later, rfl, List.nodup_cons.2 ⟨notEarlier, nodup⟩, ?_, ?_⟩
      · intro z hz
        rcases List.mem_cons.1 hz with rfl | hz
        · exact hy
        · intro hs
          exact new z hz (List.mem_cons_of_mem _ hs)
      · rcases old with old | old
        · rcases List.mem_cons.1 old with rfl | old
          · exact .inr (List.mem_cons_self ..)
          · exact .inl old
        · exact .inr (List.mem_cons_of_mem _ old)

namespace Declaration

/-- The members of the synonym classes in lower case, class after class. -/
def members (d : Declaration) : List String := d.synonymClasses.flatten.map Text.lower

theorem flatten_loweredClasses (d : Declaration) : d.loweredClasses.flatten = d.members := by
  rw [loweredClasses, members, List.map_flatten]

/-- The catalogue has what the declaration says, its names brought to one case. -/
structure Describes (d : Declaration) (c : Catalog) : Prop where
  name : c.name = d.name
  types : c.types = d.types
  defaultValues : c.defaultValues = d.defaultValues
  temporalTypes : c.temporalTypes = d.knownTemporalTypes
  synonymClasses : c.synonymClasses = d.loweredClasses
  reservedWords : c.reservedWords = d.reservedWords.map Text.upper
  noParameterTypes : c.noParameterTypes = d.noParameterTypes.map Text.lower
  autoGeneratedTypes : c.autoGeneratedTypes = d.autoGeneratedTypes.map Text.lower
  wideCharTypes : c.wideCharTypes = d.wideCharTypes.map Text.lower
  fixedCharTypes : c.fixedCharTypes = d.fixedCharTypes.map Text.lower
  varcharType : c.varcharType = d.varcharType
  numeric : c.numeric = d.numeric.normalized
  longIdentityType : c.longIdentityType = d.longIdentityType
  integerIdentityType : c.integerIdentityType = d.integerIdentityType
  delimiter : c.delimiter = d.delimiter
  sequenceTerminator : c.sequenceTerminator = d.sequenceTerminator
  quoteOpen : c.quoteOpen = d.quoteOpen
  quoteClose : c.quoteClose = d.quoteClose

theorem Describes.unique {d : Declaration} {c c' : Catalog} (h : d.Describes c)
    (h' : d.Describes c') : c = c' := by
  obtain ⟨⟩ := h
  obtain ⟨⟩ := h'
  cases c
  cases c'
  simp_all

end Declaration

namespace Catalog

variable {d : Declaration} {c : Catalog}

theorem ofDeclaration_of_nodup (known : d.unknownCategories = []) (h : d.members.Nodup) :
    ∃ c, ofDeclaration d = .ok c ∧ d.Describes c := by
  have none : firstRepeat [] d.loweredClasses.flatten = none := by
    rw [firstRepeat_eq_none_iff, Declaration.flatten_loweredClasses]
    exact ⟨h, fun _ _ => List.not_mem_nil⟩
  rw [ofDeclaration, if_neg (not_not_intro known)]
  split
  · next found =>
    rw [none] at found
    cases found
  · exact ⟨_, rfl, ⟨rfl, rfl, rfl, rfl, rfl, rfl, rfl, rfl, rfl, rfl, rfl, rfl, rfl, rfl, rfl, rfl,
      rfl, rfl⟩⟩

theorem ofDeclaration_of_not_nodup (known : d.unknownCategories = []) (h : ¬d.members.Nodup) :
    ∃ earlier member later, d.members = earlier ++ member :: later ∧ earlier.Nodup ∧
      member ∈ earlier ∧ ofDeclaration d = .error (.sharedSynonym d.name member) := by
  rw [ofDeclaration, if_neg (not_not_intro known)]
  split
  · next member found =>
    rw [Declaration.flatten_loweredClasses] at found
    obtain ⟨earlier, later, split, nodup, -, old⟩ := exists_of_firstRepeat found
    exact ⟨earlier, member, later, split, nodup, old.resolve_left List.not_mem_nil, rfl⟩
  · next found =>
    rw [Declaration.flatten_loweredClasses, firstRepeat_eq_none_iff] at found
    exact absurd found.1 h

theorem unknownCategories_of_ofDeclaration (h : ofDeclaration d = .ok c) :
    d.unknownCategories = [] := by
  by_contra unknown
  rw [ofDeclaration, if_pos unknown] at h
  cases h

theorem exists_ofDeclaration_iff (known : d.unknownCategories = []) :
    (∃ c, ofDeclaration d = .ok c) ↔ d.members.Nodup := by
  constructor
  · rintro ⟨c, hc⟩
    by_contra repeated
    obtain ⟨_, _, _, -, -, -, refused⟩ := ofDeclaration_of_not_nodup known repeated
    rw [hc] at refused
    cases refused
  · intro nodup
    obtain ⟨c, hc, -⟩ := ofDeclaration_of_nodup known nodup
    exact ⟨c, hc⟩

theorem ofDeclaration_eq_ok_iff :
    ofDeclaration d = .ok c ↔ d.unknownCategories = [] ∧ d.Describes c := by
  constructor
  · intro h
    have known := unknownCategories_of_ofDeclaration h
    have nodup := (exists_ofDeclaration_iff known).1 ⟨c, h⟩
    obtain ⟨made, hmade, describes⟩ := ofDeclaration_of_nodup known nodup
    rw [h, Except.ok.injEq] at hmade
    exact ⟨known, hmade ▸ describes⟩
  · rintro ⟨known, describes⟩
    have nodup : d.members.Nodup := by
      rw [← Declaration.flatten_loweredClasses, ← describes.synonymClasses]
      exact c.disjoint
    obtain ⟨made, hmade, describes'⟩ := ofDeclaration_of_nodup known nodup
    rw [hmade, describes.unique describes']

/-- Type names are in lower case and reserved words in upper case. -/
structure IsNormal (c : Catalog) : Prop where
  temporalTypes : ∀ e ∈ c.temporalTypes.entries, Text.lower e.2 = e.2
  synonymClasses : ∀ members ∈ c.synonymClasses, ∀ type ∈ members, Text.lower type = type
  reservedWords : ∀ word ∈ c.reservedWords, Text.upper word = word
  noParameterTypes : ∀ type ∈ c.noParameterTypes, Text.lower type = type
  autoGeneratedTypes : ∀ type ∈ c.autoGeneratedTypes, Text.lower type = type
  wideCharTypes : ∀ type ∈ c.wideCharTypes, Text.lower type = type
  fixedCharTypes : ∀ type ∈ c.fixedCharTypes, Text.lower type = type
  currencies : ∀ e ∈ c.numeric.currencyPrecisions.entries, Text.lower e.1 = e.1

theorem lower_of_mem_map {types : List String} : ∀ type ∈ types.map Text.lower,
    Text.lower type = type := by
  intro type h
  obtain ⟨written, -, rfl⟩ := List.mem_map.1 h
  exact Text.lower_lower written

theorem lower_of_mem_knownTemporalTypes {e : TemporalCategory × String}
    (h : e ∈ d.knownTemporalTypes.entries) : Text.lower e.2 = e.2 := by
  obtain ⟨known, hknown, some⟩ := List.mem_filterMap.1 (OrderedMap.mem_of_mem_ofList h)
  obtain ⟨category, -, rfl⟩ := Option.map_eq_some_iff.1 some
  obtain ⟨written, -, rfl⟩ := List.mem_map.1 (OrderedMap.mem_of_mem_ofList hknown)
  exact Text.lower_lower written.2

theorem isNormal_of_ofDeclaration (h : ofDeclaration d = .ok c) : c.IsNormal := by
  have describes := (ofDeclaration_eq_ok_iff.1 h).2
  exact {
    temporalTypes := by
      intro e he
      rw [describes.temporalTypes] at he
      exact lower_of_mem_knownTemporalTypes he
    synonymClasses := by
      intro members hm
      rw [describes.synonymClasses] at hm
      obtain ⟨written, -, rfl⟩ := List.mem_map.1 hm
      exact lower_of_mem_map
    reservedWords := by
      intro word hw
      rw [describes.reservedWords] at hw
      obtain ⟨written, -, rfl⟩ := List.mem_map.1 hw
      exact Text.upper_upper written
    noParameterTypes := describes.noParameterTypes ▸ lower_of_mem_map
    autoGeneratedTypes := describes.autoGeneratedTypes ▸ lower_of_mem_map
    wideCharTypes := describes.wideCharTypes ▸ lower_of_mem_map
    fixedCharTypes := describes.fixedCharTypes ▸ lower_of_mem_map
    currencies := by
      intro e he
      rw [describes.numeric] at he
      obtain ⟨written, -, rfl⟩ := List.mem_map.1 (OrderedMap.mem_of_mem_ofList he)
      exact Text.lower_lower written.1 }

/-- The catalogue as a declaration of its own parts. -/
def restated (c : Catalog) : Declaration where
  name := c.name
  types := c.types
  temporalTypes := .ofList (c.temporalTypes.entries.map fun e => (e.1.word, e.2))
  synonymClasses := c.synonymClasses
  defaultValues := c.defaultValues
  reservedWords := c.reservedWords
  noParameterTypes := c.noParameterTypes
  autoGeneratedTypes := c.autoGeneratedTypes
  wideCharTypes := c.wideCharTypes
  fixedCharTypes := c.fixedCharTypes
  varcharType := c.varcharType
  numeric := c.numeric
  longIdentityType := c.longIdentityType
  integerIdentityType := c.integerIdentityType
  delimiter := c.delimiter
  sequenceTerminator := c.sequenceTerminator
  quoteOpen := c.quoteOpen
  quoteClose := c.quoteClose

theorem upper_word (category : TemporalCategory) : Text.upper category.word = category.word := by
  cases category <;> decide

theorem ofWord?_word (category : TemporalCategory) :
    TemporalCategory.ofWord? category.word = some category := by
  cases category <;> decide

theorem word_injective : Function.Injective TemporalCategory.word := by
  intro category other h
  have same := congrArg TemporalCategory.ofWord? h
  rwa [ofWord?_word, ofWord?_word, Option.some.injEq] at same

theorem map_eq_self {α : Type} {f : α → α} {xs : List α} (h : ∀ x ∈ xs, f x = x) : xs.map f = xs :=
  (List.map_congr_left h).trans (List.map_id xs)

namespace IsNormal

variable (normal : c.IsNormal)
include normal

theorem entries_restated :
    c.restated.temporalEntries.entries = c.temporalTypes.entries.map fun e => (e.1.word, e.2) := by
  have nodup : ((c.temporalTypes.entries.map fun e => (e.1.word, e.2)).map Prod.fst).Nodup := by
    rw [List.map_map]
    have words := List.Nodup.map word_injective c.temporalTypes.nodup
    rwa [List.map_map] at words
  have written : c.restated.temporalTypes.entries =
      c.temporalTypes.entries.map fun e => (e.1.word, e.2) := OrderedMap.entries_ofList nodup
  have again : (c.restated.temporalTypes.entries.map fun e => (Text.upper e.1, Text.lower e.2)) =
      c.temporalTypes.entries.map fun e => (e.1.word, e.2) := by
    rw [written, List.map_map]
    apply List.map_congr_left
    intro e he
    simp only [Function.comp_apply, upper_word, normal.temporalTypes e he]
  rw [Declaration.temporalEntries, again, OrderedMap.entries_ofList nodup]

theorem unknownCategories_restated : c.restated.unknownCategories = [] := by
  have none : (c.restated.temporalEntries.keys.filter fun w =>
      (TemporalCategory.ofWord? w).isNone) = [] := by
    rw [OrderedMap.keys, normal.entries_restated, List.filter_eq_nil_iff]
    intro w hw
    rw [List.map_map] at hw
    obtain ⟨e, -, rfl⟩ := List.mem_map.1 hw
    simp [ofWord?_word]
  rw [Declaration.unknownCategories, none, List.mergeSort_nil]

theorem knownTemporalTypes_restated : c.restated.knownTemporalTypes = c.temporalTypes := by
  have entries : c.restated.temporalEntries.entries.filterMap (fun e =>
      (TemporalCategory.ofWord? e.1).map fun category => (category, e.2)) =
        c.temporalTypes.entries := by
    rw [normal.entries_restated, List.filterMap_map]
    have back : ((fun e : String × String => (TemporalCategory.ofWord? e.1).map fun category =>
        (category, e.2)) ∘ fun e : TemporalCategory × String => (e.1.word, e.2)) = some := by
      funext e
      simp [ofWord?_word]
    rw [back, List.filterMap_some]
  rw [Declaration.knownTemporalTypes, entries, OrderedMap.ofList_entries]

theorem normalized_numeric : c.numeric.normalized = c.numeric := by
  have entries : (c.numeric.currencyPrecisions.entries.map fun e => (Text.lower e.1, e.2)) =
      c.numeric.currencyPrecisions.entries := by
    apply map_eq_self
    intro e he
    rw [normal.currencies e he]
  rw [NumericRules.normalized, entries, OrderedMap.ofList_entries]

theorem loweredClasses_restated : c.restated.loweredClasses = c.synonymClasses := by
  apply map_eq_self
  intro members hm
  exact map_eq_self (normal.synonymClasses members hm)

theorem ofDeclaration_restated : ofDeclaration c.restated = .ok c := by
  rw [ofDeclaration_eq_ok_iff]
  refine ⟨normal.unknownCategories_restated, ?_⟩
  exact {
    name := rfl
    types := rfl
    defaultValues := rfl
    temporalTypes := normal.knownTemporalTypes_restated.symm
    synonymClasses := normal.loweredClasses_restated.symm
    reservedWords := (map_eq_self normal.reservedWords).symm
    noParameterTypes := (map_eq_self normal.noParameterTypes).symm
    autoGeneratedTypes := (map_eq_self normal.autoGeneratedTypes).symm
    wideCharTypes := (map_eq_self normal.wideCharTypes).symm
    fixedCharTypes := (map_eq_self normal.fixedCharTypes).symm
    varcharType := rfl
    numeric := normal.normalized_numeric.symm
    longIdentityType := rfl
    integerIdentityType := rfl
    delimiter := rfl
    sequenceTerminator := rfl
    quoteOpen := rfl
    quoteClose := rfl }

end IsNormal

end Catalog

end SchemaDrift
