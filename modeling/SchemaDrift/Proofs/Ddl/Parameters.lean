import SchemaDrift.Catalog.Builtin
import SchemaDrift.Proofs.Ddl.Clause
import SchemaDrift.Proofs.Ddl.Definition

/-!
# Types without parameters

Behind a type that takes no parameters a column says at most that it is required. Only the column of
a key of texts, or of a reference to one, says a length whatever its type is: what stands behind the
type of a key is made without a look at the type (`parameters_absent_iff`).
-/

namespace SchemaDrift

open Document (Value)

namespace Composer

variable {b : Composer} {e : Entity} {a : Attribute} {f : Field} {type : String}

/-- Whether the attribute is a key of texts, or refers to one. -/
def isTextKey (e : Entity) (f : Field) : Bool :=
  (f.isId || f.isReference) && Conventions.keyType e f == .string

def textKeyLength (f : Field) : Value := f.length.statedOr (.int defaultKeyLength)

theorem createdSuffix_of_takesNoParameters (bare : b.catalog.takesNoParameters type = true) :
    (b.createdSuffix e f type).parameters =
      if isTextKey e f then .length (textKeyLength f) else .none := by
  rw [createdSuffix, isTextKey]
  by_cases key : (f.isId || f.isReference) = true
  · rw [if_pos key, key, Bool.true_and]
    simp only [beq_iff_eq]
    rfl
  · rw [if_neg key, if_pos bare, Bool.eq_false_iff.2 key, Bool.false_and]
    rfl

/-- The parameters of a column whose type takes none, as they are written. -/
def keptParameters (e : Entity) (f : Field) : String :=
  if isTextKey e f then "(" ++ (textKeyLength f).display ++ ")" else ""

theorem render_createdSpec_of_takesNoParameters (bare : b.catalog.takesNoParameters type = true)
    (notNull : Bool) : (b.createdSpec e f type notNull).suffix.render =
      keptParameters e f ++ requirement (notNull && (f.isMandatory || f.isId)) := by
  have written : (b.createdSpec e f type notNull).suffix.render =
      (b.createdSuffix e f type).parameters.render ++
        requirement (notNull && (f.isMandatory || f.isId)) := rfl
  rw [written, createdSuffix_of_takesNoParameters bare, keptParameters]
  cases isTextKey e f <;> rfl

theorem keptParameters_eq_empty_iff : keptParameters e f = "" ↔ isTextKey e f = false := by
  rw [keptParameters]
  cases isTextKey e f with
  | false => exact iff_of_true rfl rfl
  | true => simp

/--
A column of a type that takes no parameters is composed with nothing behind its type but, where it
is asked for, that it is required, exactly if its attribute is neither a key of texts nor a
reference to one. These say a length.
-/
theorem parameters_absent_iff (typed : b.columnType e a = .ok (.text type))
    (bare : b.catalog.takesNoParameters type = true) (notNull : Bool) :
    ∃ suffix, b.columnSuffix e a notNull = .ok suffix ∧
      suffix.render = keptParameters e a.field ++
        requirement (notNull && (a.field.isMandatory || a.field.isId)) ∧
      (suffix.render = requirement (notNull && (a.field.isMandatory || a.field.isId)) ↔
        isTextKey e a.field = false) := by
  have written := render_createdSpec_of_takesNoParameters (e := e) (f := a.field) bare notNull
  refine ⟨_, columnSuffix_of_columnType typed notNull, written, ?_⟩
  rw [written, String.append_eq_right_iff, keptParameters_eq_empty_iff]

/-- The dialect of the database server, with texts of any length for texts. -/
def longTexts : Composer :=
  ofConfig (Catalog.mssql.override (.ofEntries [("String", "text")]) .empty) default

def tagWord : Attribute :=
  .plain { name := "word", type := ⟨"java.lang.String", "String"⟩, isId := true } []

/-- A text of forty characters that is required. -/
def tagTitle : Attribute :=
  .plain {
    name := "title", type := ⟨"java.lang.String", "String"⟩, isMandatory := true
    length := .int 40 } []

def tag : Entity where
  name := "Tag"
  table := "TAG"
  keyType := .string
  attributes := [tagWord, tagTitle]

/-- The key says a length behind a type that takes none. -/
theorem parameters_kept_by_key :
    longTexts.columnType tag tagWord = .ok (.text "text") ∧
      longTexts.catalog.takesNoParameters "text" = true ∧
      ∃ suffix, longTexts.columnSuffix tag tagWord true = .ok suffix ∧
        suffix.render = "(255) not null" ∧ suffix.render ≠ " not null" := by
  refine ⟨by decide +kernel, by decide +kernel, ⟨.length (.int 255), true⟩, ?_⟩
  exact ⟨by decide +kernel, by decide +kernel, by decide +kernel⟩

theorem parameters_absent_title :
    longTexts.columnType tag tagTitle = .ok (.text "text") ∧
      longTexts.catalog.takesNoParameters "text" = true ∧
      ∃ suffix, longTexts.columnSuffix tag tagTitle true = .ok suffix ∧
        suffix.render = " not null" := by
  have typed : longTexts.columnType tag tagTitle = .ok (.text "text") := by decide +kernel
  have bare : longTexts.catalog.takesNoParameters "text" = true := by decide +kernel
  obtain ⟨suffix, composed, -, absent⟩ := parameters_absent_iff typed bare true
  exact ⟨typed, bare, suffix, composed, absent.2 (by decide)⟩

end Composer

end SchemaDrift
