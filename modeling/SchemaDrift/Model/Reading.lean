import SchemaDrift.Model.Entity
import SchemaDrift.Model.Form
/-!
# Reading models

Entities and attributes as they are read from their forms, and columns as they are read from
documents. A mark is what counts as true; numbers and names are handed on as they are.
-/

namespace SchemaDrift.Reading

open Document (Value Entries)

/-- A part that counts as true. -/
def flag (entries : Entries) (key : String) : Bool :=
  ((Value.lookup? key entries).map Value.isTruthy).getD false

def part (entries : Entries) (key : String) : Value := (Value.lookup? key entries).getD .null

def typeName : Value → TypeName
  | .map entries => ⟨part entries "fqn", part entries "class_name"⟩
  | _ => ⟨.null, .null⟩

def field (entries : Entries) : Except Fault Field := do
  return {
    name := part entries "name"
    type := typeName (part entries "type")
    isId := flag entries "is_id"
    isMandatory := flag entries "is_mandatory"
    isReference := flag entries "is_class"
    enumMark := part entries "is_enum"
    enumType := part entries "enum_id_type"
    length := part entries "length"
    precision := part entries "precision"
    scale := part entries "scale"
    column := part entries "column"
    columnPrefix := part entries "column_prefix"
    target := part entries "references"
    targetColumn := part entries "reference_column"
    targetKey := ← Form.keyType (part entries "reference_id_type") }

mutual

def attr : Value → Except Fault Attribute
  | .map entries => do
    let f ← field entries
    let parts ← partsIn entries
    match flag entries "is_embedded", parts with
    | true, [] => throw (.emptyEmbedding f.name)
    | true, first :: rest => return .embedded f first rest
    | false, parts => return .plain f parts
  | _ => .error .wrongShape

def partsIn : Entries → Except Fault (List Attribute)
  | [] => .ok []
  | (key, v) :: rest =>
    match key.asText? with
    | some "embedded_attributes" => attrsOf v
    | _ => partsIn rest

def attrsOf : Value → Except Fault (List Attribute)
  | .list items => attrs items
  | _ => .error .wrongShape

def attrs : List Value → Except Fault (List Attribute)
  | [] => .ok []
  | v :: rest => do
    let a ← attr v
    let others ← attrs rest
    return a :: others

end

def entity : Value → Except Fault Entity
  | .map entries => do
    return {
      name := part entries "name"
      table := part entries "table"
      attributes := ← attrsOf (part entries "attributes")
      keyType := ← Form.keyType (part entries "id_type")
      softDelete := flag entries "soft_delete" }
  | _ => .error .wrongShape

/-- Reads a column. Its type has to be stated. -/
def column : Value → Except Fault Column
  | .map entries =>
    match Value.lookup? "type" entries with
    | none => .error .wrongShape
    | some type => .ok {
        type
        length := part entries "length"
        precision := part entries "precision"
        scale := part entries "scale"
        nullable := (Value.lookup? "nullable" entries).getD (.bool true)
        default := part entries "default" }
  | _ => .error .unsupported

def column? : Value → Except Fault (Option Column)
  | .null => .ok none
  | v => (column v).map some

end SchemaDrift.Reading
