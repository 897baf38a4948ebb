import SchemaDrift.Fault
import SchemaDrift.Identifier
import SchemaDrift.OrderedMap
/-!
# Dialect catalogues

What a database dialect has to say about types and names: the column type and default value of
each logical type, the types that hold dates and times, the classes of types that count as the
same, reserved words, and the marks that end statements and enclose names.

A `Declaration` is a catalogue as it is written down. `Catalog.ofDeclaration` brings its names
to one case and accepts it if its temporal categories are known and no type belongs to two
synonym classes; a `Catalog` carries the second condition with it.
-/

namespace SchemaDrift

open Document (Value)

/-- The kinds of point in time that a column can hold. -/
inductive TemporalCategory where
  | date
  | time
  | timestamp
  deriving Repr, DecidableEq

namespace TemporalCategory

def word : TemporalCategory → String
  | date => "DATE"
  | time => "TIME"
  | timestamp => "TIMESTAMP"

def typeName : TemporalCategory → String
  | date => "date"
  | time => "time"
  | timestamp => "timestamp"

/-- All categories, in the order in which they are tried. -/
def all : List TemporalCategory := [date, time, timestamp]

def ofWord? (w : String) : Option TemporalCategory := all.find? (·.word == w)

end TemporalCategory

def textLengthLimit : Int := 2147483647

def wideTextLengthLimit : Int := 1073741823

/-- The fixed precisions of the currency types, where a dialect states none. -/
def standardCurrencyPrecisions : OrderedMap String Value :=
  ⟨[("money", .int 19), ("smallmoney", .int 10)], by decide⟩

/-- How a dialect treats numbers. The keys of `currencyPrecisions` are in lower case. -/
structure NumericRules where
  currencyPrecisions : OrderedMap String Value := standardCurrencyPrecisions
  currencyScale : Value := .int 4
  defaultDecimalPrecision : Value := .int 18
  /-- Approximate columns report a scale of at most this. -/
  minColumnScale : Value := .int (-84)
  deriving Repr, DecidableEq

/-- The rules with the names of the currency types brought to lower case. -/
def NumericRules.normalized (rules : NumericRules) : NumericRules :=
  { rules with
    currencyPrecisions :=
      OrderedMap.ofList (rules.currencyPrecisions.entries.map fun e => (Text.lower e.1, e.2)) }

/--
What is known by logical type. Its keys are canonical, so that a number that is written in two
ways is one key.
-/
abbrev LogicalTypes := OrderedMap Value Value

namespace LogicalTypes

/-- What entries make known; of two keys that agree the later counts. -/
def ofEntries (entries : List (Value × Value)) : LogicalTypes :=
  .ofList (entries.map fun e => (e.1.canonical, e.2))

def find? (m : LogicalTypes) (logicalType : Value) : Option Value := m.get? logicalType.canonical

end LogicalTypes

/-- A catalogue as it is written down. -/
structure Declaration where
  name : Value
  types : LogicalTypes
  temporalTypes : OrderedMap String String
  synonymClasses : List (List String) := []
  defaultValues : LogicalTypes := .empty
  reservedWords : List String := []
  noParameterTypes : List String := []
  autoGeneratedTypes : List String := []
  wideCharTypes : List String := ["nchar", "nvarchar", "ntext"]
  fixedCharTypes : List String := ["char", "nchar"]
  varcharType : Value := "varchar"
  numeric : NumericRules := {}
  longIdentityType : Value := "bigint identity"
  integerIdentityType : Value := "int identity"
  delimiter : Value := "^"
  sequenceTerminator : Value := ";"
  quoteOpen : Value := "["
  quoteClose : Value := "]"
  deriving Repr, DecidableEq

/--
A catalogue in normal form: type names in lower case, reserved words in upper case. What is only
handed on is kept as it was written, and may be no text.
-/
structure Catalog where
  name : Value
  types : LogicalTypes
  defaultValues : LogicalTypes
  temporalTypes : OrderedMap TemporalCategory String
  /-- Classes of column types that count as the same. -/
  synonymClasses : List (List String)
  reservedWords : List String
  noParameterTypes : List String
  autoGeneratedTypes : List String
  wideCharTypes : List String
  fixedCharTypes : List String
  varcharType : Value
  numeric : NumericRules
  longIdentityType : Value
  integerIdentityType : Value
  delimiter : Value
  /-- The mark that ends a statement about a sequence. -/
  sequenceTerminator : Value
  quoteOpen : Value
  quoteClose : Value
  /-- No type is in two classes, or twice in one. -/
  disjoint : synonymClasses.flatten.Nodup
  deriving Repr, DecidableEq

/-- The first member of a list that is in `seen` or stands earlier in the list. -/
def firstRepeat (seen : List String) : List String → Option String
  | [] => none
  | x :: xs => if x ∈ seen then some x else firstRepeat (x :: seen) xs

theorem firstRepeat_eq_none_iff (seen xs : List String) :
    firstRepeat seen xs = none ↔ xs.Nodup ∧ ∀ x ∈ xs, x ∉ seen := by
  induction xs generalizing seen with
  | nil => simp [firstRepeat]
  | cons x xs ih =>
    by_cases h : x ∈ seen
    · simp [firstRepeat, h]
    · rw [firstRepeat, if_neg h, ih, List.nodup_cons]
      constructor
      · rintro ⟨hn, hs⟩
        refine ⟨⟨fun hx => hs x hx (by simp), hn⟩, ?_⟩
        intro y hy
        rcases List.mem_cons.1 hy with rfl | hy
        · exact h
        · exact fun hys => hs y hy (List.mem_cons_of_mem _ hys)
      · rintro ⟨⟨hx, hn⟩, hs⟩
        refine ⟨hn, fun y hy hmem => ?_⟩
        rcases List.mem_cons.1 hmem with rfl | hmem
        · exact hx hy
        · exact hs y (List.mem_cons_of_mem _ hy) hmem

namespace Declaration

def temporalEntries (d : Declaration) : OrderedMap String String :=
  OrderedMap.ofList (d.temporalTypes.entries.map fun e => (Text.upper e.1, Text.lower e.2))

/-- The categories that do not exist, in order and without repetition. -/
def unknownCategories (d : Declaration) : List String :=
  (d.temporalEntries.keys.filter fun w => (TemporalCategory.ofWord? w).isNone).mergeSort
    fun a b => decide (a ≤ b)

def knownTemporalTypes (d : Declaration) : OrderedMap TemporalCategory String :=
  OrderedMap.ofList (d.temporalEntries.entries.filterMap fun e =>
    (TemporalCategory.ofWord? e.1).map fun c => (c, e.2))

def loweredClasses (d : Declaration) : List (List String) :=
  d.synonymClasses.map fun members => members.map Text.lower

end Declaration

namespace Catalog

/-- The catalogue that a declaration describes. -/
def ofDeclaration (d : Declaration) : Except Fault Catalog :=
  if d.unknownCategories ≠ [] then
    .error (.unknownTemporalCategories d.name d.unknownCategories)
  else
    match h : firstRepeat [] d.loweredClasses.flatten with
    | some member => .error (.sharedSynonym d.name member)
    | none => .ok {
        name := d.name
        types := d.types
        defaultValues := d.defaultValues
        temporalTypes := d.knownTemporalTypes
        synonymClasses := d.loweredClasses
        reservedWords := d.reservedWords.map Text.upper
        noParameterTypes := d.noParameterTypes.map Text.lower
        autoGeneratedTypes := d.autoGeneratedTypes.map Text.lower
        wideCharTypes := d.wideCharTypes.map Text.lower
        fixedCharTypes := d.fixedCharTypes.map Text.lower
        varcharType := d.varcharType
        numeric := d.numeric.normalized
        longIdentityType := d.longIdentityType
        integerIdentityType := d.integerIdentityType
        delimiter := d.delimiter
        sequenceTerminator := d.sequenceTerminator
        quoteOpen := d.quoteOpen
        quoteClose := d.quoteClose
        disjoint := ((firstRepeat_eq_none_iff [] _).1 h).1 }

def quoter (c : Catalog) : Quoter := .ofMarks c.reservedWords c.quoteOpen c.quoteClose

/-- The column type of a logical type, which has to be one that can be asked for. -/
def columnType (c : Catalog) (logicalType : Value) : Except Fault Value :=
  if logicalType.isKey then
    match c.types.find? logicalType with
    | some type => .ok type
    | none => .error (.unknownLogicalType logicalType c.name .null .null)
  else .error .wrongShape

/-- The default value of a logical type that can be asked for; nothing if it has none. -/
def defaultValue (c : Catalog) (logicalType : Value) : Except Fault Value :=
  if logicalType.isKey then .ok ((c.defaultValues.find? logicalType).getD .null)
  else .error .wrongShape

def classWith? (c : Catalog) (member : String) : Option (List String) :=
  c.synonymClasses.find? (·.contains member)

def synonymClass? (c : Catalog) (type : String) : Option (List String) :=
  c.classWith? (Text.lower type)

/-- The types that count as the same as a column type: its class, or none. -/
def synonyms (c : Catalog) (type : String) : List String := (c.synonymClass? type).getD []

/-- The category of a type among the temporal types: with several, it holds a full timestamp. -/
def categoryOfValue? (c : Catalog) (type : String) : Option TemporalCategory :=
  match c.temporalTypes.entries.filter (·.2 == type) with
  | [] => none
  | [e] => some e.1
  | _ => some .timestamp

/-- The temporal category of a column type: by its own name, by its use, by that of a synonym. -/
def temporalCategory? (c : Catalog) (type : String) : Option TemporalCategory :=
  let name := Text.lower type
  (TemporalCategory.all.find? (·.typeName == name)).or <|
    (c.categoryOfValue? name).or <|
      ((c.classWith? name).getD []).findSome? c.categoryOfValue?

def takesNoParameters (c : Catalog) (type : String) : Bool :=
  c.noParameterTypes.contains (Text.lower type)

def isAutoGenerated (c : Catalog) (type : String) : Bool :=
  c.autoGeneratedTypes.contains (Text.lower type)

def isCurrency (c : Catalog) (type : String) : Bool :=
  c.numeric.currencyPrecisions.contains (Text.lower type)

/-- The fixed precision of a column type that is a currency, if one is stated. -/
def currencyPrecision? (c : Catalog) (type : String) : Option Value :=
  (c.numeric.currencyPrecisions.get? (Text.lower type)).filter (· != .null)

def maxLength (c : Catalog) (type : String) : Int :=
  if c.wideCharTypes.contains (Text.lower type) then wideTextLengthLimit else textLengthLimit

def timestampType (c : Catalog) : String := (c.temporalTypes.get? .timestamp).getD "timestamp"

/-- The catalogue with some column types and default values overwritten. -/
def override (c : Catalog) (types defaultValues : LogicalTypes) : Catalog :=
  { c with
    types := c.types.merge types
    defaultValues := c.defaultValues.merge defaultValues }

end Catalog

end SchemaDrift
