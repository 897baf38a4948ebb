import SchemaDrift.Catalog.Registry
import SchemaDrift.Document.Entries
import SchemaDrift.Log.Level
/-!
# Configuration

The settings of a run. A configuration keeps each setting as it was written and gives the planner
typed views of the ones it reads. Three settings are checked when it is made (`Config.ofValues`): the
log level names a level, and the two lengths are positive. `Config.toDocument` writes a configuration
out, `Config.ofDocument` reads it back, and `Config.copy` changes some of its settings.
-/

namespace SchemaDrift

open Document (Value)
open Log (Level Logger)

/-- The settings of a run by name. -/
inductive Setting where
  | dialect
  | logLevel
  | statementLogging
  | stringLength
  | enumLength
  | decimalPrecision
  | decimalScale
  | managedIndexPrefix
  | deleteStampInUniqueIndex
  | separateDrops
  | typeOverrides
  | defaultOverrides
  | databasePath
  | readOnly
  deriving Repr, DecidableEq

namespace Setting

/-- All settings in the order in which they are written. -/
def all : List Setting := [
  dialect, logLevel, statementLogging, stringLength, enumLength, decimalPrecision, decimalScale,
  managedIndexPrefix, deleteStampInUniqueIndex, separateDrops, typeOverrides, defaultOverrides,
  databasePath, readOnly]

def key : Setting → String
  | dialect => "dialect"
  | logLevel => "log_level"
  | statementLogging => "enable_statement_logging"
  | stringLength => "default_string_length"
  | enumLength => "default_enum_length"
  | decimalPrecision => "default_decimal_precision"
  | decimalScale => "default_decimal_scale"
  | managedIndexPrefix => "managed_index_prefix"
  | deleteStampInUniqueIndex => "delete_ts_in_unique_index"
  | separateDrops => "generate_separately_drop_scripts"
  | typeOverrides => "type_overrides"
  | defaultOverrides => "default_overrides"
  | databasePath => "db_path"
  | readOnly => "read_only"

/-- What a document that is silent about the setting means. -/
def default : Setting → Value
  | dialect => "access"
  | logLevel => "INFO"
  | statementLogging => .bool true
  | stringLength => .null
  | enumLength => .int 50
  | decimalPrecision => .int 19
  | decimalScale => .int 2
  | managedIndexPrefix => "IDX_"
  | deleteStampInUniqueIndex => .bool true
  | separateDrops => .bool true
  | typeOverrides => .map []
  | defaultOverrides => .map []
  | databasePath => ":memory:"
  | readOnly => .bool true

end Setting

/-- The settings of a run, each as it was written. -/
structure Config where
  dialect : Value
  /-- The logger that takes the place of the built-in one. -/
  logger : Option Logger
  logLevel : Level
  statementLoggingSetting : Value
  /-- The length of text columns that state none; nothing means as long as possible. -/
  stringLengthSetting : Value
  enumLengthSetting : Value
  decimalPrecisionSetting : Value
  decimalScaleSetting : Value
  /-- Unique indexes with this prefix are left to whoever manages them. -/
  managedIndexPrefixSetting : Value
  /-- Whether unique indexes of entities with soft deletion include the deletion stamp. -/
  deleteStampInUniqueIndexSetting : Value
  /-- Whether the drops of orphaned columns are kept apart from the other statements. -/
  separateDropsSetting : Value
  typeOverrides : Value
  defaultOverrides : Value
  databasePath : Value
  readOnlySetting : Value
  enumLength_pos : enumLengthSetting.isAtMostZero? = some false
  stringLength_pos :
    stringLengthSetting = .null ∨ stringLengthSetting.isAtMostZero? = some false

namespace Config

def loggerOfValue : Value → Option Logger
  | .null => none
  | v => some (.mute v)

/-- Reads the log level, in any case. Bytes can be brought to upper case but name no level. -/
def readLogLevel : Value → Except Fault Level
  | .text level =>
    match Level.ofName? (Text.upper level) with
    | some found => .ok found
    | none => .error (.invalidLogLevel level)
  | .bytes octets => .error (.invalidLogLevel (Value.bytes octets).shown)
  | _ => .error .unsupported

/-- The bound of the whole numbers that messages show. -/
def shownBound : Nat := Nat.pow 10 4300

/-- Whether a message can show a value: a whole number may have too many digits. -/
def isWritable : Value → Bool
  | .int n => n.natAbs < shownBound
  | _ => true

def readLength (fault : String → Fault) (v : Value) :
    Except Fault { v : Value // v.isAtMostZero? = some false } :=
  match h : v.isAtMostZero? with
  | none => .error .wrongShape
  | some true => .error (if isWritable v then fault v.shown else .tooLongToWrite)
  | some false => .ok ⟨v, h⟩

def readOptionalLength (fault : String → Fault) (v : Value) :
    Except Fault { v : Value // v = .null ∨ v.isAtMostZero? = some false } :=
  match v with
  | .null => .ok ⟨.null, .inl rfl⟩
  | v => (readLength fault v).map fun r => ⟨r.1, .inr r.2⟩

/--
Makes a configuration of values for its settings. Three of them are checked; of several faults the
first is told.
-/
def ofValues (value : Setting → Value) (logger : Option Logger) : Except Fault Config := do
  let logLevel ← readLogLevel (value .logLevel)
  let enumLength ← readLength .enumLengthNotPositive (value .enumLength)
  let stringLength ← readOptionalLength .stringLengthNotPositive (value .stringLength)
  return {
    dialect := value .dialect
    logger
    logLevel
    statementLoggingSetting := value .statementLogging
    stringLengthSetting := stringLength.1
    enumLengthSetting := enumLength.1
    decimalPrecisionSetting := value .decimalPrecision
    decimalScaleSetting := value .decimalScale
    managedIndexPrefixSetting := value .managedIndexPrefix
    deleteStampInUniqueIndexSetting := value .deleteStampInUniqueIndex
    separateDropsSetting := value .separateDrops
    typeOverrides := value .typeOverrides
    defaultOverrides := value .defaultOverrides
    databasePath := value .databasePath
    readOnlySetting := value .readOnly
    enumLength_pos := enumLength.2
    stringLength_pos := stringLength.2 }

/-- The value of a setting among entries; a setting without one has its default. -/
def valueIn (entries : List (Value × Value)) (s : Setting) : Value :=
  (Value.lookup? s.key entries).getD s.default

/-- Reads a configuration from the entries of a document. Unknown entries are passed over. -/
def ofEntries (entries : List (Value × Value)) (logger : Option Logger) : Except Fault Config :=
  ofValues (valueIn entries) logger

/-- Reads a configuration from a document: a map, whose entry `logger` may name a logger. -/
def ofDocument : Value → Except Fault Config
  | .map entries =>
    ofEntries entries (((Value.lookup? "logger" entries).map loggerOfValue).getD none)
  | _ => .error .unsupported

/-- The configuration of a dialect in which nothing else is set. -/
def ofDialect (dialect : Value) : Config where
  dialect
  logger := none
  logLevel := .info
  statementLoggingSetting := .bool true
  stringLengthSetting := .null
  enumLengthSetting := .int 50
  decimalPrecisionSetting := .int 19
  decimalScaleSetting := .int 2
  managedIndexPrefixSetting := .text "IDX_"
  deleteStampInUniqueIndexSetting := .bool true
  separateDropsSetting := .bool true
  typeOverrides := .map []
  defaultOverrides := .map []
  databasePath := .text ":memory:"
  readOnlySetting := .bool true
  enumLength_pos := rfl
  stringLength_pos := .inl rfl

instance : Inhabited Config := ⟨ofDialect "access"⟩

def value (c : Config) : Setting → Value
  | .dialect => c.dialect
  | .logLevel => c.logLevel.name
  | .statementLogging => c.statementLoggingSetting
  | .stringLength => c.stringLengthSetting
  | .enumLength => c.enumLengthSetting
  | .decimalPrecision => c.decimalPrecisionSetting
  | .decimalScale => c.decimalScaleSetting
  | .managedIndexPrefix => c.managedIndexPrefixSetting
  | .deleteStampInUniqueIndex => c.deleteStampInUniqueIndexSetting
  | .separateDrops => c.separateDropsSetting
  | .typeOverrides => c.typeOverrides
  | .defaultOverrides => c.defaultOverrides
  | .databasePath => c.databasePath
  | .readOnly => c.readOnlySetting

/-- The settings as the entries of a document, overrides as maps. The logger is not written. -/
def toEntries (c : Config) : Except Fault (List (Value × Value)) := do
  let types ← Document.entriesOf c.typeOverrides
  let defaults ← Document.entriesOf c.defaultOverrides
  let written : Config := { c with typeOverrides := .map types, defaultOverrides := .map defaults }
  return Setting.all.map fun s => (.text s.key, written.value s)

def toDocument (c : Config) : Except Fault Value := c.toEntries.map .map

/-- What a copy has in place of what its original has. -/
structure Revision where
  /-- The settings that change. Where one is named twice, the entry in front counts. -/
  settings : List (Value × Value) := []
  /-- The logger of the copy, or that it has none, if either is named. -/
  logger : Option (Option Logger) := none

/-- The revision that entries describe, of which `logger` may name a logger. -/
def Revision.ofEntries (entries : List (Value × Value)) : Revision where
  settings := entries
  logger := (Value.lookup? "logger" entries).map loggerOfValue

/-- The configuration revised. A logger that counts as one stays unless another is named. -/
def revised (c : Config) (r : Revision) : Except Fault Config := do
  let entries ← c.toEntries
  ofEntries (r.settings ++ entries) (r.logger.getD (c.logger.filter (·.isTruthy)))

def copy (c : Config) (changes : List (Value × Value)) : Except Fault Config :=
  c.revised (.ofEntries changes)

def statementLogging (c : Config) : Bool := c.statementLoggingSetting.isTruthy

/-- The length of text columns that state none; what counts as false leaves it open. -/
def stringLength (c : Config) : Value := c.stringLengthSetting

def enumLength (c : Config) : Value := c.enumLengthSetting

def decimalPrecision (c : Config) : Value := c.decimalPrecisionSetting

def decimalScale (c : Config) : Value := c.decimalScaleSetting

/-- The prefix of the unique indexes that are managed elsewhere, if there is one. -/
def managedIndexPrefix? (c : Config) : Option Value := c.managedIndexPrefixSetting.stated?

/-- Whether unique indexes of entities with soft deletion include the deletion stamp. -/
def deleteStampInUniqueIndex (c : Config) : Bool := c.deleteStampInUniqueIndexSetting.isTruthy

def separateDrops (c : Config) : Bool := c.separateDropsSetting.isTruthy

def readOnly (c : Config) : Bool := c.readOnlySetting.isTruthy

/-- The column types or default values that a setting of overrides puts in place. -/
def overrideEntries : Value → Except Fault LogicalTypes
  | .map entries => .ok (.ofEntries entries)
  | v => if v.isTruthy then .error .wrongShape else .ok .empty

/-- The catalogue of the configured dialect with the configured overrides. -/
def catalog (c : Config) (registry : Registry) : Except Fault Catalog :=
  match c.dialect with
  | .text dialect => do
    let found ← registry.get dialect
    let types ← overrideEntries c.typeOverrides
    let defaults ← overrideEntries c.defaultOverrides
    return found.override types defaults
  | _ => .error .unsupported

end Config

end SchemaDrift
