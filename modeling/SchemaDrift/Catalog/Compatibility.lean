import SchemaDrift.Catalog.Basic
import SchemaDrift.Model.Entity
import SchemaDrift.Text.Blank

/-!
# Compatible columns

When a wanted column and a found one count as the same in a dialect: their types, lengths,
precisions, scales, and whether they admit null. A number that is absent or zero is not stated,
and what is not stated takes the dialect's own value.
-/

namespace SchemaDrift.Catalog

open Document (Value)

/-- Two column types count as the same: by name, or because a synonym class has both. -/
def typesEquivalent (c : Catalog) (type other : String) : Bool :=
  Text.lower (Text.strip type) == Text.lower (Text.strip other) ||
    (c.synonyms (Text.strip type)).contains (Text.lower (Text.strip other))

/-- Whether a length is stated that is above one. It has to be a number. -/
def exceedsOne (length : Value) : Except Fault Bool :=
  match (length.statedOr (.int 0)).position? with
  | some place => .ok (Double.Position.isBelow (.exactly 1) place)
  | none => .error .wrongShape

/-- Going from a column of fixed length above one to one of varying length only widens it. -/
def widensFixedText (c : Catalog) (wanted found : String) (foundLength : Value) :
    Except Fault Bool :=
  if c.fixedCharTypes.contains (Text.lower found) && .text (Text.lower wanted) == c.varcharType then
    exceedsOne foundLength
  else .ok false

def typeDiffers (c : Catalog) (wanted found : String) (foundLength : Value) :
    Except Fault Bool := do
  let widens ← c.widensFixedText wanted found foundLength
  return !widens && !c.typesEquivalent wanted found

/-- A length that is not stated is the largest one of the type found. -/
def lengthOr (c : Catalog) (found : String) (length : Value) : Value :=
  length.statedOr (.int (c.maxLength found))

def lengthDiffers (c : Catalog) (wanted current : Value) (found : String) : Bool :=
  !(c.lengthOr found wanted).equals (c.lengthOr found current)

/-- An amount that is not stated is zero. -/
def amount (v : Value) : Value := v.statedOr (.int 0)

/--
Whether the precision wanted differs from the precision found. A currency has its own, whatever
the column reports; a precision that is not wanted tolerates the dialect's default.
-/
def precisionDiffers (c : Catalog) (wanted current : Value) (found : String) : Bool :=
  match c.currencyPrecision? found with
  | some fixed => !(amount wanted).equals fixed
  | none =>
    !(amount current).equals (amount wanted) &&
      !((amount wanted).equals (.int 0) &&
        (amount current).equals c.numeric.defaultDecimalPrecision)

/--
Whether the scale wanted differs from the scale found. A currency has its own; a scale that is
not wanted tolerates those that approximate columns report, which have to be numbers.
-/
def scaleDiffers (c : Catalog) (wanted current : Value) (found : String) : Except Fault Bool :=
  if c.isCurrency found then .ok !(amount wanted).equals c.numeric.currencyScale
  else if (amount current).equals (amount wanted) then .ok false
  else if !(amount wanted).equals (.int 0) then .ok true
  else
    match (amount current).isAtMost? c.numeric.minColumnScale with
    | some tolerated => .ok !tolerated
    | none => .error .wrongShape

/-- Whether a column admits null against the wish of its attribute. Keys never do. -/
def obligationDiffers (mandatory admitsNull isId : Bool) : Bool := !isId && mandatory == admitsNull

theorem typesEquivalent_self (c : Catalog) (type : String) : c.typesEquivalent type type := by
  simp [typesEquivalent]

theorem lengthDiffers_self (c : Catalog) {length : Value} (number : length ≠ .real .nan)
    (found : String) : c.lengthDiffers length length found = false := by
  have stated : c.lengthOr found length ≠ .real .nan := Value.statedOr_ne_nan number nofun
  rw [lengthDiffers, Value.equals_self_iff.2 stated]
  rfl

theorem amount_ne_nan {v : Value} (number : v ≠ .real .nan) : amount v ≠ .real .nan :=
  Value.statedOr_ne_nan number nofun

theorem currencyPrecision?_eq_none {c : Catalog} {type : String} (h : c.isCurrency type = false) :
    c.currencyPrecision? type = none := by
  rw [isCurrency, OrderedMap.contains, Option.isSome_eq_false_iff, Option.isNone_iff_eq_none] at h
  rw [currencyPrecision?, h]
  rfl

theorem precisionDiffers_self {c : Catalog} {found : String}
    (h : c.currencyPrecision? found = none) {precision : Value} (number : precision ≠ .real .nan) :
    c.precisionDiffers precision precision found = false := by
  simp [precisionDiffers, h, Value.equals_self_iff.2 (amount_ne_nan number)]

theorem scaleDiffers_self {c : Catalog} {found : String} (h : c.isCurrency found = false)
    {scale : Value} (number : scale ≠ .real .nan) :
    c.scaleDiffers scale scale found = .ok false := by
  simp [scaleDiffers, h, Value.equals_self_iff.2 (amount_ne_nan number)]

theorem obligationDiffers_eq_false {mandatory isId : Bool} {found : Column}
    (h : found.nullable = .bool !(mandatory || isId)) :
    obligationDiffers mandatory found.admitsNull isId = false := by
  rw [obligationDiffers, Column.admitsNull, h]
  cases isId <;> cases mandatory <;> rfl

end SchemaDrift.Catalog
