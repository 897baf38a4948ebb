import SchemaDrift.Catalog.Basic
import SchemaDrift.Document.Entries

/-!
# Catalogues as documents

A declaration is read from a document in which maps are lists of pairs, so that their order is
kept; nothing required may be missing and nothing unknown may be there. A catalogue is written
with every part stated and its sets in ascending order.
-/

namespace SchemaDrift

open Document (Value)

namespace Reading

def text : Value → Except Fault String
  | .text s => .ok s
  | _ => .error .wrongShape

def listOf {α : Type} (item : Value → Except Fault α) : Value → Except Fault (List α)
  | .list items => items.mapM item
  | _ => .error .wrongShape

def logicalTypes (v : Value) : Except Fault LogicalTypes :=
  (Document.entriesOf v).map LogicalTypes.ofEntries

/-- A map whose keys have to offer what texts do. -/
def byName {α : Type} (item : Value → Except Fault α) (entries : List (Value × Value)) :
    Except Fault (OrderedMap String α) := do
  return .ofList (← entries.mapM fun e => do return (← Document.textOf e.1, ← item e.2))

/-- Texts that a value is gone through by. -/
def members (v : Value) : Except Fault (List String) := do
  (← Document.itemsOf v).mapM Document.textOf

/-- Synonym classes; a text stands for its characters. -/
def synonymClasses (v : Value) : Except Fault (List (List String)) := do
  (← Document.itemsOf v).mapM members

def entriesAmong (known : List String) : Value → Except Fault (List (Value × Value))
  | .map entries =>
    if entries.all fun e => (e.1.asText?.map known.contains).getD false then .ok entries
    else .error .wrongShape
  | _ => .error .wrongShape

def required {α : Type} (entries : List (Value × Value)) (key : String)
    (item : Value → Except Fault α) : Except Fault α :=
  match Value.lookup? key entries with
  | some v => item v
  | none => .error .wrongShape

def entryOr {α : Type} (entries : List (Value × Value)) (key : String) (default : α)
    (item : Value → Except Fault α) : Except Fault α :=
  match Value.lookup? key entries with
  | some v => item v
  | none => .ok default

def entriesUnder (entries : Document.Entries) (key : String) : Except Fault Document.Entries :=
  entryOr entries key [] Document.entriesOf

def numericRules (v : Value) : Except Fault NumericRules := do
  let base : NumericRules := {}
  let entries ← entriesAmong ["currency_precisions", "currency_scale",
    "default_decimal_precision", "min_column_scale"] v
  let amount (key : String) (default : Value) := (Value.lookup? key entries).getD default
  return {
    currencyPrecisions :=
      ← entryOr entries "currency_precisions" base.currencyPrecisions fun v => do
        byName .ok (← Document.entriesOf v)
    currencyScale := amount "currency_scale" base.currencyScale
    defaultDecimalPrecision := amount "default_decimal_precision" base.defaultDecimalPrecision
    minColumnScale := amount "min_column_scale" base.minColumnScale }

def declarationKeys : List String := [
  "name", "types", "temporal_types", "synonym_classes", "default_values", "reserved_words",
  "no_parameter_types", "auto_generated_types", "wide_char_types", "fixed_char_types",
  "varchar_type", "numeric", "long_identity_type", "integer_identity_type", "delimiter",
  "sequence_terminator", "quote_open", "quote_close"]

/--
A declaration of a catalogue. What is only handed on may be any value. Maps are looked at before
all else; synonym classes come last, and not at all if there is an unknown temporal category.
-/
def declaration (v : Value) : Except Fault Declaration := do
  let .map parts := v | throw .wrongShape
  let base : Declaration := { name := .null, types := .empty, temporalTypes := .empty }
  let types ← entriesUnder parts "types"
  let temporalTypes ← entriesUnder parts "temporal_types"
  let defaultValues ← entriesUnder parts "default_values"
  let numeric ← entryOr parts "numeric" base.numeric numericRules
  let entries ← entriesAmong declarationKeys v
  let name ← required entries "name" .ok
  let _ ← required entries "types" .ok
  let _ ← required entries "temporal_types" .ok
  let words (key : String) (default : List String) := entryOr entries key default members
  let passive (key : String) (default : Value) := (Value.lookup? key entries).getD default
  let temporalTypes ← byName Document.textOf temporalTypes
  let d : Declaration := {
    name, temporalTypes, numeric
    types := .ofEntries types
    defaultValues := .ofEntries defaultValues
    reservedWords := ← words "reserved_words" base.reservedWords
    noParameterTypes := ← words "no_parameter_types" base.noParameterTypes
    autoGeneratedTypes := ← words "auto_generated_types" base.autoGeneratedTypes
    wideCharTypes := ← words "wide_char_types" base.wideCharTypes
    fixedCharTypes := ← words "fixed_char_types" base.fixedCharTypes
    varcharType := passive "varchar_type" base.varcharType
    longIdentityType := passive "long_identity_type" base.longIdentityType
    integerIdentityType := passive "integer_identity_type" base.integerIdentityType
    delimiter := passive "delimiter" base.delimiter
    sequenceTerminator := passive "sequence_terminator" base.sequenceTerminator
    quoteOpen := passive "quote_open" base.quoteOpen
    quoteClose := passive "quote_close" base.quoteClose }
  if d.unknownCategories ≠ [] then return d
  let synonymClasses ← entryOr entries "synonym_classes" base.synonymClasses synonymClasses
  return { d with synonymClasses }

end Reading

namespace Writing

def textSet (xs : List String) : Value :=
  .texts (xs.mergeSort fun a b => decide (a ≤ b)).eraseDups

def numericRules (r : NumericRules) : Value := .record [
  ("currency_precisions", .record r.currencyPrecisions.entries),
  ("currency_scale", r.currencyScale),
  ("default_decimal_precision", r.defaultDecimalPrecision),
  ("min_column_scale", r.minColumnScale)]

def catalog (c : Catalog) : Value := .record [
  ("name", c.name), ("types", .map c.types.entries),
  ("default_values", .map c.defaultValues.entries),
  ("temporal_types",
    .record (c.temporalTypes.entries.map fun e => (e.1.word, .text e.2))),
  ("synonym_classes", .list (c.synonymClasses.map .texts)),
  ("reserved_words", textSet c.reservedWords),
  ("no_parameter_types", textSet c.noParameterTypes),
  ("auto_generated_types", textSet c.autoGeneratedTypes),
  ("wide_char_types", textSet c.wideCharTypes), ("fixed_char_types", textSet c.fixedCharTypes),
  ("varchar_type", c.varcharType), ("numeric", numericRules c.numeric),
  ("long_identity_type", c.longIdentityType),
  ("integer_identity_type", c.integerIdentityType), ("delimiter", c.delimiter),
  ("sequence_terminator", c.sequenceTerminator), ("quote_open", c.quoteOpen),
  ("quote_close", c.quoteClose)]

end Writing

end SchemaDrift
