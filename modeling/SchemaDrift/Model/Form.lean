import SchemaDrift.Document.Entries
import SchemaDrift.Model.Attribute

/-!
# Models as they are written

The documents of entities and attributes with every part stated: what a document leaves out has
its default here, and what it states is kept as it is. What has to be stated is there, an embedded
attribute has parts, and kinds of key exist; of what kind the other parts are is not asked.
-/

namespace SchemaDrift.Form

open Document (Value Entries)

def partOr (entries : Entries) (key : String) (default : Value) : Value :=
  (Value.lookup? key entries).getD default

def required (entries : Entries) (key : String) : Except Fault Value :=
  match Value.lookup? key entries with
  | some v => .ok v
  | none => .error .wrongShape

def keyType (v : Value) : Except Fault KeyType :=
  match v.asText?.bind KeyType.ofName? with
  | some found => .ok found
  | none => .error (.notAMember v.shown "IdType")

/-- The class of an attribute: a simple name, or a map of exactly both names. -/
def typeName : Value → Except Fault TypeName
  | .text simple => .ok (.inPackage simple "java.lang")
  | .map entries =>
    match entries.length, Value.lookup? "fqn" entries, Value.lookup? "class_name" entries with
    | 2, some qualified, some simple => .ok ⟨qualified, simple⟩
    | _, _, _ => .error .wrongShape
  | _ => .error .wrongShape

/-- A class as a document, with what follows from it. -/
def ofTypeName (t : TypeName) : Value := .record [
  ("fqn", t.qualified), ("class_name", t.simple), ("is_text", .bool t.isText),
  ("is_decimal", .bool t.isDecimal)]

/-- The parts of an attribute that are handed on, with their defaults. -/
def passedOn : List (String × Value) := [
  ("is_id", .bool false), ("is_mandatory", .bool false), ("is_class", .bool false),
  ("is_enum", .bool false), ("is_embedded", .bool false), ("enum_id_type", .null),
  ("length", .null), ("precision", .null), ("scale", .null), ("column", .null),
  ("column_prefix", .null), ("references", .null), ("reference_column", "ID")]

/-- The form of an attribute whose class and parts are known. -/
def assembled (entries : Entries) (type : TypeName) (parts : List Value) : Except Fault Value := do
  let name ← required entries "name"
  if (partOr entries "is_embedded" .null).isTruthy && parts.isEmpty then
    throw (.emptyEmbedding name)
  let key ← keyType (partOr entries "reference_id_type" (.text KeyType.uuid.name))
  return .record <|
    [("name", name), ("type", ofTypeName type)] ++
    passedOn.map (fun e => (e.1, partOr entries e.1 e.2)) ++
    [("reference_id_type", .text key.name), ("embedded_attributes", .list parts)]

/--
The form of an attribute: its class is looked at first, then its parts, then the rest. `fuel`
bounds how deep attributes are inside each other.
-/
def nested : (fuel : Nat) → Value → Except Fault Value
  | 0, _ => .error .wrongShape
  | fuel + 1, v => do
    let entries ← Document.entriesOf v
    let type ← typeName (← Document.heldUnder entries "type")
    let parts ← Document.itemsOf (partOr entries "embedded_attributes" (.list []))
    assembled entries type (← parts.mapM (nested fuel))

def ofAttribute (v : Value) : Except Fault Value := nested (v.depth + 1) v

/-- The form of an entity: its attributes are looked at first. -/
def ofEntity (v : Value) : Except Fault Value := do
  let entries ← Document.entriesOf v
  let attributes ← Document.itemsOf (partOr entries "attributes" (.list []))
  let attributes ← attributes.mapM ofAttribute
  let name ← required entries "name"
  let table ← required entries "table"
  let key ← keyType (partOr entries "id_type" (.text KeyType.uuid.name))
  return .record [
    ("name", name), ("table", table), ("id_type", .text key.name),
    ("is_identity", .bool key.isIdentity),
    ("soft_delete", partOr entries "soft_delete" (.bool false)),
    ("attributes", .list attributes)]

end SchemaDrift.Form
