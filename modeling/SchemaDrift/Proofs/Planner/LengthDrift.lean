import Mathlib.Data.Rat.Defs
import SchemaDrift.Proofs.Planner.Settling

/-!
# Lengths that drift

A column whose definition says a length is compared with one of another length. The difference shows
wherever the length is one of a text or of an enumeration; the length of a key is written and never
compared, so that only a change of type, or of the obligation of a reference, shows there
(`length_drift_shows_iff`).
-/

namespace SchemaDrift

open Document (Value)

/-- Characters of which one is in whatever is shown of a truth value or of a fractional number. -/
def numeralMarks : List Char := ['.', 'e', 'n']

theorem not_mem_toString_of_mark {n : Int} {c : Char} (h : c ∈ numeralMarks) :
    c ∉ (toString n).toList := by
  intro written
  have marks : ∀ c ∈ numeralMarks, c ≠ '-' ∧ c.isDigit = false := by simp [numeralMarks]
  obtain ⟨noSign, noDigit⟩ := marks c h
  rcases char_of_mem_toString written with sign | digit
  · exact noSign sign
  · rw [noDigit] at digit
    cases digit

theorem Decimal.exists_mark (d : Decimal) : ∃ c ∈ numeralMarks, c ∈ d.render := by
  unfold Decimal.render
  simp only
  split
  · refine ⟨'.', by decide, ?_⟩
    rw [Decimal.positional]
    split <;> simp
  · exact ⟨'e', by decide, by simp [Decimal.scientific]⟩

theorem Double.exists_mark (x : Double) : ∃ c ∈ numeralMarks, c ∈ x.shown.toList := by
  cases x with
  | nan => exact ⟨'n', by decide, by decide⟩
  | infinite negative => exact ⟨'n', by decide, by cases negative <;> decide⟩
  | finite negative m q =>
    have size : ∃ c ∈ numeralMarks,
        c ∈ if m = 0 then ['0', '.', '0'] else (Decimal.shortest m q).render := by
      split
      · exact ⟨'.', by decide, by decide⟩
      · exact Decimal.exists_mark _
    obtain ⟨c, mark, mem⟩ := size
    refine ⟨c, mark, ?_⟩
    rw [Double.shown, String.toList_ofList]
    split
    · exact List.mem_cons_of_mem _ mem
    · exact mem

namespace Document.Value

variable {v w : Value} {n : Int} {r : Rat}

theorem canonical_of_asRat? (number : w.asRat? = some r) :
    (∃ m : Int, r = m ∧ w.canonical = .int m) ∨ ∃ x, w.canonical = .real x := by
  cases w with
  | int m =>
    cases number
    exact .inl ⟨m, rfl, rfl⟩
  | bool b =>
    cases number
    exact .inl ⟨if b then 1 else 0, rfl, rfl⟩
  | real x =>
    rw [asRat?] at number
    rw [canonical, number]
    by_cases whole : r.den = 1
    · exact .inl ⟨r.num, ((Rat.den_eq_one_iff r).1 whole).symm, if_pos whole⟩
    · exact .inr ⟨x, if_neg whole⟩
  | null | moment _ | text _ | bytes _ | list _ | map _ => cases number

theorem isTruthy_of_asRat? (number : w.asRat? = some r) (nonzero : r ≠ 0) : w.isTruthy = true := by
  cases w with
  | int m =>
    cases number
    simpa [isTruthy] using nonzero
  | bool b =>
    cases number
    cases b with
    | false => exact absurd rfl nonzero
    | true => rfl
  | real x =>
    rw [asRat?] at number
    simpa [isTruthy, Double.isNonzero, number] using nonzero
  | null | moment _ | text _ | bytes _ | list _ | map _ => cases number

theorem position?_of_asRat? (number : w.asRat? = some r) : w.position? = some (.exactly r) := by
  cases w with
  | int _ | bool _ =>
    cases number
    rfl
  | real x => exact congrArg some (Double.position_of_toRat? number)
  | null | moment _ | text _ | bytes _ | list _ | map _ => cases number

theorem eq_of_display_of_agrees (written : v.display = toString n) (number : w.asRat? = some r)
    (agree : v.agrees w = true) : r = n := by
  have unmarked : ¬ ∃ c ∈ numeralMarks, c ∈ v.display.toList := by
    rintro ⟨c, mark, mem⟩
    rw [written] at mem
    exact not_mem_toString_of_mark mark mem
  have same : v.canonical = w.canonical := by
    rwa [agrees, beq_iff_eq] at agree
  cases v with
  | int k =>
    obtain rfl : k = n := toString_injective written
    rcases canonical_of_asRat? number with ⟨m, rfl, whole⟩ | ⟨x, fraction⟩
    · cases same.trans whole
      rfl
    · cases same.trans fraction
  | bool b =>
    refine absurd ⟨'e', by decide, ?_⟩ unmarked
    cases b <;> decide
  | real x => exact absurd x.exists_mark unmarked
  | null | moment _ | text _ | bytes _ | list _ | map _ =>
    rcases canonical_of_asRat? number with ⟨m, -, whole⟩ | ⟨x, fraction⟩
    · cases same.trans whole
    · cases same.trans fraction

end Document.Value

theorem eq_of_enclosed {s u : String} {r r' : Bool}
    (h : "(" ++ s ++ ")" ++ requirement r = "(" ++ u ++ ")" ++ requirement r') : s = u := by
  have required (s : String) : ("(" ++ s ++ ")" ++ requirement true).toList.getLast? = some 'l' := by
    rw [String.toList_append, List.getLast?_append]
    rfl
  have bare (s : String) : ("(" ++ s ++ ")" ++ requirement false).toList.getLast? = some ')' := by
    rw [requirement, if_neg (by decide), String.append_empty, String.toList_append]
    exact List.getLast?_concat
  have split : r = r' := by
    have last := congrArg (fun t : String => t.toList.getLast?) h
    cases r <;> cases r'
    · rfl
    · rw [bare, required] at last
      cases last
    · rw [bare, required] at last
      cases last
    · rfl
  subst split
  rwa [String.append_left_inj, String.append_left_inj, String.append_right_inj] at h

theorem Suffix.exists_length {s : Suffix} {n : Int} {required : Bool}
    (h : s.render = (Clause.length n).text ++ requirement required) :
    ∃ v, s.parameters = .length v ∧ v.display = toString n := by
  obtain ⟨parameters, notNull⟩ := s
  have written : parameters.render ++ requirement notNull =
      (Clause.length n).text ++ requirement required := h
  cases parameters with
  | none => cases (Clause.text_requirement_injective (c := .empty) written).1
  | maxLength => cases (Clause.text_requirement_injective (c := .unlimited) written).1
  | length v => exact ⟨v, rfl, eq_of_enclosed written⟩
  | decimal precision scale =>
    have pair : precision.display ++ ", " ++ scale.display = toString n := eq_of_enclosed written
    have comma : ',' ∈ (toString n).toList := by simp [← pair]
    exact absurd comma (comma_not_mem n)

namespace Composer

variable {b : Composer} {e : Entity} {f : Field} {type : String} {notNull : Bool} {v : Value}

theorem textLength_of_createdSpec (noKey : (f.isId || f.isReference) = false)
    (h : (b.createdSpec e f type notNull).suffix.parameters = .length v) :
    b.catalog.takesNoParameters type = false ∧ (f.type.isText || f.isNamedEnum) = true ∧
      b.textLength f = v ∧ v.isTruthy = true := by
  rw [createdSpec, createdSuffix, if_neg (by simp [noKey])] at h
  split at h
  · cases h
  · next parametrized =>
    rw [parameters] at h
    split at h
    · next text =>
      rw [Parameters.ofLength] at h
      split at h
      · next stated =>
        cases h
        exact ⟨Bool.eq_false_iff.2 parametrized, text, rfl, stated⟩
      · cases h
    · split at h <;> cases h

end Composer

namespace Planner

variable {p : Planner} {e : Entity} {a : Attribute} {f : Field} {column : Value}
  {current : Column} {wanted found : String} {n : Int} {r : Rat} {v : Value}

theorem exists_typeDiffers (c : Catalog) (wanted found : String) (number : v.asRat? = some r)
    (nonzero : r ≠ 0) : ∃ differs, c.typeDiffers wanted found v = .ok differs := by
  have above : ∃ above, Catalog.exceedsOne v = .ok above := by
    rw [Catalog.exceedsOne, Document.Value.statedOr,
      if_pos (Document.Value.isTruthy_of_asRat? number nonzero),
      Document.Value.position?_of_asRat? number]
    exact ⟨_, rfl⟩
  obtain ⟨widens, hwidens⟩ := exists_widensFixedText c wanted found above
  rw [Catalog.typeDiffers, hwidens, ok_bind]
  exact ⟨_, rfl⟩

theorem lengthDiffers_of_display (c : Catalog) (found : String) (written : v.display = toString n)
    (stated : v.isTruthy = true) {w : Value} (number : w.asRat? = some r) (nonzero : r ≠ 0)
    (other : r ≠ n) : c.lengthDiffers v w found = true := by
  rw [Catalog.lengthDiffers, Catalog.lengthOr, Catalog.lengthOr, Document.Value.statedOr,
    Document.Value.statedOr, if_pos stated,
    if_pos (Document.Value.isTruthy_of_asRat? number nonzero), Bool.not_eq_true']
  rw [Bool.eq_false_iff]
  intro equal
  obtain ⟨-, agree⟩ := Bool.and_eq_true_iff.1 equal
  exact other (Document.Value.eq_of_display_of_agrees written number agree)

/-- The length of a column that is no key's is compared, and nothing else of its parameters is. -/
theorem compares_of_length (noKey : isParametric f = true)
    (parametrized : p.composer.catalog.takesNoParameters wanted = false)
    (text : (f.type.isText || f.isNamedEnum) = true) (stated : (p.composer.textLength f).isTruthy) :
    p.desiredLength f = p.composer.textLength f ∧
      p.comparesLength f wanted (p.desiredLength f) = true := by
  have desired : p.desiredLength f = p.composer.textLength f := by
    rw [desiredLength, noKey, text]
    rfl
  refine ⟨desired, ?_⟩
  rw [desired, comparesLength, noKey, parametrized]
  rcases Bool.or_eq_true_iff.1 text with isText | named
  · rw [isText]
    rfl
  · have present : p.composer.textLength f ≠ .null := by
      intro absent
      rw [absent] at stated
      cases stated
    simp [isEnum_of_isNamedEnum named, present]

/-- What a comparison finds where a length is written and the column found has another one. -/
def driftOf (f : Field) (current : Column) (differs : Bool) : Changes :=
  if differs then { type := true }
  else {
    length := isParametric f
    mandatory := Catalog.obligationDiffers f.isMandatory current.admitsNull f.isId }

theorem parameterChanges_of_drift {notNull : Bool} {desired : Column}
    (written : (p.composer.createdSpec e f wanted notNull).suffix.parameters = .length v)
    (shown : v.display = toString n) (number : current.length.asRat? = some r) (nonzero : r ≠ 0)
    (other : r ≠ n) (length : desired.length = p.desiredLength f) :
    p.parameterChanges f desired current wanted found = .ok (driftOf f current false) := by
  have dimensions : comparesDecimal f = false ∧
      (p.comparesLength f wanted desired.length &&
        p.comparison.lengthDiffers desired.length current.length found) = isParametric f := by
    cases key : f.isId || f.isReference with
    | true =>
      have noParameters := isParametric_eq_false key
      refine ⟨comparesDecimal_of_key noParameters, ?_⟩
      rw [comparesLength_of_key noParameters, noParameters]
      rfl
    | false =>
      have own : isParametric f = true := by
        rw [isParametric, key]
        rfl
      obtain ⟨parametrized, text, rfl, stated⟩ := Composer.textLength_of_createdSpec key written
      obtain ⟨desired, compared⟩ := compares_of_length own parametrized text stated
      refine ⟨comparesDecimal_of_text text, ?_⟩
      rw [length, compared, desired, own,
        lengthDiffers_of_display p.comparison found shown stated number nonzero other]
      rfl
  rw [parameterChanges, dimensions.1, dimensions.2]
  rfl

theorem changes_of_drift {notNull differs : Bool}
    (written : (p.composer.createdSpec e f wanted notNull).suffix.parameters = .length v)
    (shown : v.display = toString n) (number : current.length.asRat? = some r) (nonzero : r ≠ 0)
    (other : r ≠ n) (foundType : current.type = .text found)
    (compared : p.comparison.typeDiffers wanted found current.length = .ok differs) :
    ∃ desired, p.desiredOfType f (.text wanted) = .ok desired ∧
      p.changes f desired current = .ok (driftOf f current differs) := by
  obtain ⟨amounts, hamounts, -⟩ := desiredAmounts_text p f wanted
  rw [desiredOfType, hamounts, ok_bind]
  refine ⟨_, rfl, ?_⟩
  simp only [changes, foundType]
  rw [compared, ok_bind]
  cases differs with
  | true => rfl
  | false => exact parameterChanges_of_drift written shown number nonzero other rfl

theorem kind_driftOf (f : Field) (current : Column) (differs : Bool) :
    (driftOf f current differs).kind ≠ .keep ↔ isParametric f = true ∨ differs = true ∨
      Catalog.obligationDiffers f.isMandatory current.admitsNull f.isId = true := by
  rw [ne_eq, Changes.kind_eq_keep_iff, driftOf]
  cases differs <;> cases isParametric f <;>
    cases Catalog.obligationDiffers f.isMandatory current.admitsNull f.isId <;> simp

/--
Where a definition says a length, and the column found has another one, the difference shows if the
attribute is no key: in the length, unless the type differs. A key whose column has the right type
shows none, but for the obligation of a reference.
-/
theorem length_drift_shows_iff {suffix : Suffix} {notNull required : Bool} {named : Value}
    {name : String} (typed : p.composer.columnType e a = .ok (.text wanted))
    (composed : p.composer.columnSuffix e a notNull = .ok suffix)
    (written : suffix.render = (Clause.length n).text ++ requirement required)
    (foundType : current.type = .text found) (number : current.length.asRat? = some r)
    (positive : 0 < r) (other : r ≠ n) (hnamed : Composer.columnOr column a = .ok named)
    (text : Document.textOf named = .ok name) :
    ∃ d differs, p.difference e a (some current) column = .ok d ∧
      p.comparison.typeDiffers wanted found current.length = .ok differs ∧
      d.changes = driftOf a.field current differs ∧
      (d.hasChanges = true ↔ isParametric a.field = true ∨ differs = true ∨
        Catalog.obligationDiffers a.field.isMandatory current.admitsNull a.field.isId = true) := by
  obtain ⟨v, parameters, shown⟩ := Suffix.exists_length written
  rw [Composer.columnSuffix_of_columnType typed] at composed
  cases composed
  have nonzero : r ≠ 0 := Rat.ne_of_gt positive
  obtain ⟨differs, compared⟩ := exists_typeDiffers p.comparison wanted found number nonzero
  obtain ⟨desired, hdesired, hchanges⟩ :=
    changes_of_drift parameters shown number nonzero other foundType compared
  obtain ⟨d, returned, changes⟩ := exists_difference typed hdesired hnamed text hchanges
  refine ⟨d, differs, returned, compared, changes, ?_⟩
  rw [Difference.hasChanges, bne_iff_ne, Difference.kind, changes, kind_driftOf]

/-- A key that is a text of two characters. -/
def countryCode : Attribute :=
  .plain {
    name := "code", type := ⟨"java.lang.String", "String"⟩, isId := true, length := .int 2 } []

def countryName : Attribute :=
  .plain { name := "name", type := ⟨"java.lang.String", "String"⟩, length := .int 40 } []

def country : Entity where
  name := "Country"
  table := "COUNTRY"
  keyType := .string
  attributes := [countryCode, countryName]

/-- The length of a key is written, and one of a hundred characters is taken for it. -/
theorem length_drift_of_key_unseen :
    ∃ suffix d,
      filePlanner.composer.columnSuffix country countryCode true = .ok suffix ∧
      suffix.render = "(2) not null" ∧
      filePlanner.difference country countryCode
        (some { type := "varchar", length := .int 100, nullable := .bool false }) .null = .ok d ∧
      d.hasChanges = false := by
  refine ⟨⟨.length (.int 2), true⟩, ⟨"COUNTRY", "CODE",
    some { type := "varchar", nullable := .bool false },
    some { type := "varchar", length := .int 100, nullable := .bool false }, .ofChanges {}⟩, ?_⟩
  exact ⟨by decide +kernel, by decide +kernel, by decide +kernel, by decide⟩

theorem length_drift_shows_name :
    filePlanner.composer.columnType country countryName = .ok (.text "varchar") ∧
      filePlanner.composer.columnSuffix country countryName true =
        .ok ⟨.length (.int 40), false⟩ ∧
      (⟨.length (.int 40), false⟩ : Suffix).render =
        (Clause.length 40).text ++ requirement false ∧
      ∃ d, filePlanner.difference country countryName
          (some { type := "varchar", length := .int 100 }) .null = .ok d ∧
        d.hasChanges = true := by
  have typed : filePlanner.composer.columnType country countryName = .ok (.text "varchar") := by
    decide +kernel
  have composed : filePlanner.composer.columnSuffix country countryName true =
      .ok ⟨.length (.int 40), false⟩ := by
    decide +kernel
  have drift : ∃ d differs, filePlanner.difference country countryName
      (some { type := "varchar", length := .int 100 }) .null = .ok d ∧ _ ∧ _ ∧ _ :=
    length_drift_shows_iff (n := 40) (r := 100) typed composed rfl rfl rfl (by decide) (by decide)
      rfl rfl
  obtain ⟨d, differs, returned, -, -, shows⟩ := drift
  exact ⟨typed, composed, rfl, d, returned, shows.2 (.inl rfl)⟩

end Planner

end SchemaDrift
