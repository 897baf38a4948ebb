import Mathlib.Tactic.MkIffOfInductiveProp
import SchemaDrift.Proofs.Model.Declared

/-!
# Models and dialects in which names are texts

A model states names, and a dialect column types, that are texts; what a model may leave open is a
text or nothing. Every leaf of such an entity has a column, and in such a dialect every text is a
name.
-/

namespace SchemaDrift

open Document (Value)

def Document.Value.IsText (v : Value) : Prop := ∃ s, v = .text s

def Document.Value.IsTextOrNull (v : Value) : Prop := v = .null ∨ v.IsText

instance (v : Value) : Decidable v.IsText :=
  match v with
  | .text s => isTrue ⟨s, rfl⟩
  | .null | .bool _ | .int _ | .real _ | .moment _ | .bytes _ | .list _ | .map _ => isFalse nofun

instance (v : Value) : Decidable v.IsTextOrNull := inferInstanceAs (Decidable (_ ∨ _))

/-- What the model says of an attribute by name is said by texts. -/
@[mk_iff]
structure Field.IsTyped (f : Field) : Prop where
  name : f.name.IsText
  type : f.type.simple.IsText
  enumType : f.enumType.IsTextOrNull
  column : f.column.IsTextOrNull
  columnPrefix : f.columnPrefix.IsTextOrNull
  target : f.target.IsTextOrNull
  targetColumn : f.targetColumn.IsText

instance (f : Field) : Decidable f.IsTyped := decidable_of_iff _ f.isTyped_iff.symm

/-- The attribute and what it stands for are said by texts. -/
inductive Attribute.IsTyped : Attribute → Prop
  | plain {f : Field} {parts : List Attribute} (field : f.IsTyped) : IsTyped (.plain f parts)
  | embedded {f : Field} {first : Attribute} {rest : List Attribute} (field : f.IsTyped)
      (head : first.IsTyped) (tail : ∀ a ∈ rest, a.IsTyped) : IsTyped (.embedded f first rest)

/-- The table and the attributes of the entity are said by texts. -/
structure Entity.IsTyped (e : Entity) : Prop where
  table : e.table.IsText
  attributes : ∀ a ∈ e.attributes, a.IsTyped

/-- The column types and the quotes of the dialect are texts. -/
structure Catalog.IsTyped (c : Catalog) : Prop where
  types : ∀ logicalType type, c.types.find? logicalType = some type → type.IsText
  longIdentityType : c.longIdentityType.IsText
  integerIdentityType : c.integerIdentityType.IsText
  quoteOpen : c.quoteOpen.IsText
  quoteClose : c.quoteClose.IsText

namespace Document.Value

theorem IsText.isKey {v : Value} (h : v.IsText) : v.isKey = true := by
  obtain ⟨s, rfl⟩ := h
  rfl

theorem IsTextOrNull.isText_statedOr {v : Value} (h : v.IsTextOrNull) (s : String) :
    (v.statedOr (.text s)).IsText := by
  rw [statedOr]
  split
  · next stated =>
    rcases h with rfl | text
    · cases stated
    · exact text
  · exact ⟨s, rfl⟩

theorem IsTextOrNull.isText_of_stated? {v w : Value} (h : v.IsTextOrNull) (hw : v.stated? = some w) :
    w.IsText := by
  rw [stated?] at hw
  split at hw
  · next stated =>
    obtain rfl := Option.some.inj hw
    rcases h with rfl | text
    · cases stated
    · exact text
  · cases hw

end Document.Value

theorem Catalog.identify_of_marks {c : Catalog} (quoteOpen : c.quoteOpen.IsText)
    (quoteClose : c.quoteClose.IsText) (name : String) :
    c.quoter.identify (.text name) = .ok (c.quoter.identifier name) := by
  obtain ⟨o, ho⟩ := quoteOpen
  obtain ⟨cl, hcl⟩ := quoteClose
  have opens : c.quoter.opens = true := by rw [quoter, Quoter.ofMarks, ho]; rfl
  have closes : c.quoter.closes = true := by rw [quoter, Quoter.ofMarks, hcl]; rfl
  exact Quoter.identify_text opens closes name

theorem Catalog.IsTyped.identify_text {c : Catalog} (h : c.IsTyped) (name : String) :
    c.quoter.identify (.text name) = .ok (c.quoter.identifier name) :=
  identify_of_marks h.quoteOpen h.quoteClose name

theorem Field.IsTyped.exists_columnName {f : Field} (h : f.IsTyped) :
    ∃ c, f.columnName = .ok (.text c) := by
  obtain ⟨name, hname⟩ := h.name
  rw [columnName, hname]
  cases stated : f.column.stated? with
  | none => exact ⟨_, rfl⟩
  | some column =>
    obtain ⟨c, rfl⟩ := h.column.isText_of_stated? stated
    exact ⟨c, rfl⟩

namespace Attribute

theorem IsTyped.field {a : Attribute} (h : a.IsTyped) : a.field.IsTyped := by
  cases h with
  | plain field => exact field
  | embedded field _ _ => exact field

theorem IsTyped.leaf {a : Attribute} (h : a.IsTyped) (front : String) {leaf : Leaf}
    (mem : leaf ∈ a.expand (.ok (.text front))) :
    leaf.1.field.IsTyped ∧ ∃ c, leaf.2 = .ok (.text c) := by
  induction h generalizing front with
  | @plain f parts field =>
    rw [expand_plain, List.mem_singleton] at mem
    subst mem
    obtain ⟨c, hc⟩ := field.exists_columnName
    rw [hc]
    exact ⟨field, front ++ c, rfl⟩
  | @embedded f first rest field _ _ ihFirst ihRest =>
    obtain ⟨inner, hinner⟩ := field.columnPrefix.isText_statedOr ""
    rw [expand_embedded, hinner, joined_text, mem_expandAll] at mem
    obtain ⟨a, ha, mem⟩ := mem
    rcases List.mem_cons.1 ha with rfl | ha
    · exact ihFirst _ mem
    · exact ihRest a ha _ mem

end Attribute

theorem Entity.IsTyped.leaf {e : Entity} (h : e.IsTyped) {leaf : Attribute.Leaf}
    (mem : leaf ∈ e.leaves) : leaf.1.field.IsTyped ∧ ∃ c, leaf.2 = .ok (.text c) := by
  obtain ⟨a, ha, mem⟩ := Attribute.mem_expandAll.1 mem
  exact (h.attributes a ha).leaf "" mem

end SchemaDrift
