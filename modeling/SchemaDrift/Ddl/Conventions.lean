import SchemaDrift.Config.Basic
import SchemaDrift.Ddl.Statement
import SchemaDrift.Model.Entity
/-!
# Conventions

What holds for a column where the model is silent: lengths, precision and scale, the types of
keys and references, and the value that fills old rows when a required column is added.
-/

namespace SchemaDrift

open Document (Value)

/-- The length of a key column of texts that states none. -/
def defaultKeyLength : Int := 255

/-- The conventions that a dialect and a configuration lay down. -/
structure Conventions where
  catalog : Catalog
  config : Config

namespace Conventions

/-- The length of a text column; what counts as false is no limit. -/
def columnLength (k : Conventions) (f : Field) : Value := f.length.statedOr k.config.stringLength

def enumLength (k : Conventions) : Value := k.config.enumLength

/-- The precision and scale of a decimal column. A scale of zero is one that is stated. -/
def decimalParameters (k : Conventions) (f : Field) : Value × Value :=
  (f.precision.statedOr k.config.decimalPrecision,
    if f.scale = .null then k.config.decimalScale else f.scale)

def keyType (e : Entity) (f : Field) : KeyType := if f.isId then e.keyType else f.targetKey

/-- The column type of a kind of key; only a key itself is generated by the database. -/
def typeOfKey (k : Conventions) (isId : Bool) : KeyType → Except Fault Value
  | .longIdentity => if isId then .ok k.catalog.longIdentityType else k.catalog.columnType "Long"
  | .integerIdentity =>
    if isId then .ok k.catalog.integerIdentityType else k.catalog.columnType "Integer"
  | key => k.catalog.columnType key.name

def keyColumnType (k : Conventions) (e : Entity) (f : Field) : Except Fault Value :=
  k.typeOfKey f.isId (keyType e f)

/-- What follows the type of a key or reference column. -/
def keySuffix (e : Entity) (f : Field) (notNull : Bool) : Suffix where
  parameters :=
    if keyType e f = .string then .length (f.length.statedOr (.int defaultKeyLength)) else .none
  notNull := notNull && (f.isId || f.isMandatory)

/--
The value that fills old rows of a new required column; nothing if there is none, as for keys and
references.
-/
def transitionalDefault (k : Conventions) (f : Field) : Except Fault Value :=
  if f.isReference || f.isId then .ok .null
  else if f.isEnum then k.catalog.defaultValue f.storedEnumType
  else k.catalog.defaultValue f.type.simple

/-- The text of the value that fills old rows, if there is one. -/
def filling? (k : Conventions) (f : Field) : Except Fault (Option String) := do
  match ← k.transitionalDefault f with
  | .null => return none
  | v => return some v.display

end Conventions

end SchemaDrift
