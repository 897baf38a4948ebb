import SchemaDrift.Config.Basic
import SchemaDrift.Request.Dialect

/-!
# Requests about settings

The operations on a configuration by name. A copy takes the place of the configuration as soon as
it is made, whether or not it can be written as a document.
-/

namespace SchemaDrift.Request

open Document (Value Entries)
open Log (Logger)

/-- A change of this name would be taken for the configuration itself. -/
def reservedChange : String := "self"

/-- A copy with some changes, as a document; the configuration stays if there is no copy. -/
def copied (c : Config) (changes : Entries) : Config × Except Fault Value :=
  if Value.hasKey reservedChange changes then (c, .error .wrongShape)
  else
    match c.copy changes with
    | .ok next => (next, next.toDocument)
    | .error f => (c, .error f)

/-- What the catalogue of a configuration knows of a logical type. -/
def resolved (c : Config) (type : Value) : Except Fault Value := do
  let catalog ← c.catalog .initial
  let default ← dialect catalog "resolve_default_value" [type]
  return .list [catalog.name, (catalog.types.find? type).getD .null, default]

/-- Answers a request about a configuration, of which the first had a certain logger. -/
def settings (first : Option Logger) (c : Config) (operation : String) (args : Entries)
    (type? : Option Value) : Config × Except Fault Value :=
  match operation with
  | "to_dict" => (c, c.toDocument)
  | "copy" => copied c args
  | "drop_logger" => copied c [("logger", .null)]
  | "resolve" =>
    match type? with
    | some type => (c, resolved c type)
    | none => (c, .error (.absentKey "type"))
  | "keeps_logger" => (c, .ok (.bool (c.logger == first)))
  | _ => (c, .error .unsupported)

end SchemaDrift.Request
