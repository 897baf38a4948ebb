import SchemaDrift.Model.Reading

/-!
# Writing columns

Columns as documents with every part stated. A column is read back from what is written of it.
-/

namespace SchemaDrift.Writing

open Document (Value)

def column (c : Column) : Value := .record [
  ("type", c.type), ("length", c.length), ("precision", c.precision), ("scale", c.scale),
  ("nullable", c.nullable), ("default", c.default)]

def description (c : Column) : Except Fault Value :=
  match c.description? with
  | some v => .ok v
  | none => .error .wrongShape

theorem read_column (c : Column) : Reading.column (column c) = .ok c := by
  simp [column, Value.record, Reading.column, Reading.part, Value.lookup?]

end SchemaDrift.Writing
