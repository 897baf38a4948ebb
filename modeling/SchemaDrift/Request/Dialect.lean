import SchemaDrift.Catalog.Compatibility
import SchemaDrift.Catalog.Document
import SchemaDrift.Request.Arguments

/-!
# Requests to a dialect

The operations of a catalogue by name, with their arguments by position: what it knows about
types, how it compares columns, and how it writes names.
-/

namespace SchemaDrift.Request

open Document (Value textOf)

/-- Whether a synonym class has a member, in any case; what is no text is in none. -/
def isMember (members : List String) : Value → Bool
  | .text s => members.contains (Text.lower s)
  | _ => false

def typeAnswer (c : Catalog) (operation : String) (type : String) : Except Fault Value :=
  match operation with
  | "synonyms_of" => .ok (Writing.textSet (c.synonyms type))
  | "synonym_class_of" => .ok (.orNull .texts (c.synonymClass? type))
  | "temporal_category_of" =>
    .ok (((c.temporalCategory? type).map (·.word)).getD "NONE")
  | "is_no_parameter_type" => .ok (.bool (c.takesNoParameters type))
  | "is_auto_generated" => .ok (.bool (c.isAutoGenerated type))
  | "is_currency_type" => .ok (.bool (c.isCurrency type))
  | "max_length" => .ok (.int (c.maxLength type))
  | _ => .error .unsupported

/-- The operations of a catalogue on a logical type or a column type. -/
def typeOperations : List String := [
  "resolve_physical_type", "resolve_default_value", "synonyms_of", "synonym_class_of",
  "temporal_category_of", "is_no_parameter_type", "is_auto_generated", "is_currency_type",
  "max_length"]

def dialect (c : Catalog) (operation : String) (args : List Value) : Except Fault Value := do
  if operation == "dump" then return Writing.catalog c
  if operation == "timestamp_type" then return c.timestampType
  if !typeOperations.contains operation then throw .unsupported
  positional 1 1 args
  let type := args.headD .null
  match operation with
  | "resolve_physical_type" => c.columnType type
  | "resolve_default_value" => c.defaultValue type
  | _ => typeAnswer c operation (← textOf type)

def comparison (c : Catalog) (operation : String) (args : List Value) : Except Fault Value := do
  let arg (i : Nat) : Value := args.getD i .null
  match operation with
  | "is_precision_different" =>
    positional 3 3 args
    return .bool (c.precisionDiffers (arg 0) (arg 1) (← textOf (arg 2)))
  | "is_scale_different" =>
    positional 3 3 args
    return .bool (← c.scaleDiffers (arg 0) (arg 1) (← textOf (arg 2)))
  | "is_type_different" =>
    positional 3 3 args
    return .bool (← c.typeDiffers (← textOf (arg 0)) (← textOf (arg 1)) (arg 2))
  | "types_equivalent" =>
    positional 2 2 args
    return .bool (c.typesEquivalent (← textOf (arg 0)) (← textOf (arg 1)))
  | "is_length_different" =>
    positional 3 3 args
    return .bool (c.lengthDiffers (arg 0) (arg 1) (← textOf (arg 2)))
  | "is_mandatory_different" =>
    positional 2 3 args
    return .bool
      (Catalog.obligationDiffers (arg 0).isTruthy (arg 1).isTruthy (arg 2).isTruthy)
  | _ => throw .unsupported

def onlyText : Value → Except Fault String
  | .text s => .ok s
  | _ => .error .wrongShape

/--
Whether a value stands in quotes, which have to be texts if it is asked for them. Lists are asked
what only texts can answer, if long enough.
-/
def isQuotedValue (q : Quoter) : Value → Except Fault Bool
  | .text s => if q.isAskable s then .ok (q.isQuoted s) else .error .wrongShape
  | .list items => if items.length < 2 then .ok false else .error .unsupported
  | .map entries => if entries.length < 2 then .ok false else .error .unsupported
  | _ => .error .wrongShape

/-- Whether a value needs quotes. What does not stand in quotes has to be a text. -/
def needsQuotingValue (q : Quoter) (name : Value) : Except Fault Bool := do
  if ← isQuotedValue q name then return false
  return q.needsQuoting (← onlyText name)

/-- A text in quotes, of which the closing one has to be a text. -/
def quotedValue (q : Quoter) (name : Value) : Except Fault Value := do
  let name ← textOf name
  if q.closes then return q.quote name else throw .wrongShape

def namingOperations : List String := [
  "normalize", "quote", "is_reserved", "is_safe_identifier", "is_quoted", "needs_quoting",
  "quote_if_needed"]

def naming (q : Quoter) (operation : String) (args : List Value) : Except Fault Value := do
  if !namingOperations.contains operation then throw .unsupported
  positional 1 1 args
  let name := args.headD .null
  match operation with
  | "normalize" => return (← q.identify name).text
  | "quote" => quotedValue q name
  | "is_reserved" => return .bool (q.isReserved (← textOf name))
  | "is_safe_identifier" => return .bool (q.isSafe (← onlyText name))
  | "is_quoted" => return .bool (← isQuotedValue q name)
  | "needs_quoting" => return .bool (← needsQuotingValue q name)
  | _ => if ← needsQuotingValue q name then quotedValue q name else return name

end SchemaDrift.Request
