import SchemaDrift.Document.Value

/-!
# Faults

Everything that can go wrong, named by its cause. `Fault.kind` sorts the causes and
`Fault.message` words them; no other module writes the text of a fault.
-/

namespace SchemaDrift

open Document (Value)

/-- The sorts of faults that a caller can tell apart. -/
inductive FaultKind where
  | configuration
  | unknownLogicalType
  | invalidAttribute
  | metadataAccess
  | absentKey
  | invalidValue
  | noSuchPosition
  | tooLarge
  | tooDeep
  | tooFar
  | missingFile
  /-- A value has the wrong shape: a part is missing, left over, or of the wrong kind. -/
  | wrongShape
  /-- An operation was asked of a value that does not offer it. -/
  | unsupported
  | tomlSyntax
  | yamlSyntax
  deriving Repr, DecidableEq

/-- The parts of a date and a time of day. -/
inductive MomentPart where
  | year
  | month
  | day
  | hour
  | minute
  | second
  deriving Repr, DecidableEq

/-- The rule that a part out of its range breaks. Of the years only zero is out of range. -/
def MomentPart.rule : MomentPart → String
  | year => "year 0 is out of range"
  | month => "month must be in 1..12"
  | day => "day is out of range for month"
  | hour => "hour must be in 0..23"
  | minute => "minute must be in 0..59"
  | second => "second must be in 0..59"

/-- The causes of failure. -/
inductive Fault where
  | unknownTemporalCategories (dialect : Value) (names : List String)
  | sharedSynonym (dialect : Value) (member : String)
  | unknownDialect (dialect : String) (available : List String)
  | dialectTaken (dialect : String)
  | invalidLogLevel (level : String)
  | enumLengthNotPositive (shown : String)
  | stringLengthNotPositive (shown : String)
  /-- A fault of a named setting in the words of whoever reports it. -/
  | setting (key words : Value)
  /-- Attribute and table are nothing where they are not known. -/
  | unknownLogicalType (logicalType dialect attr table : Value)
  | emptyEmbedding (attr : Value)
  | missingKeyAttribute (entity table : Value)
  | unknownAttribute (name entity table : Value)
  | notScalar (attr table : Value)
  | notReference (attr table : Value)
  /-- A fault of a named attribute in the words of whoever reports it. -/
  | misfit (name words table : Value)
  | metadata (operation table : Value) (cause : Option String)
  | absentKey (key : String)
  | missingTomlSection (name : Value)
  | missingYamlSection (name : Value)
  | emptyYaml (path : String)
  | missingFile (path : String)
  /-- A value, shown in quotes where it is a text, is none of the names of a closed set. -/
  | notAMember (shown set : String)
  | noNumeral (base : Nat) (text : String)
  | tooManyDigits (count : Nat)
  | tooLongToWrite
  | noDecimal (text : String)
  | noCodePoint
  | tooLarge
  | tooDeep
  | tooFar
  | noSuchPosition
  | noSuchMoment (part : MomentPart)
  | offsetTooLarge (seconds : Int)
  | notAPair (position length : Nat)
  | emptyLayout (text : String)
  | unclosedKey
  /-- A directive ends before its conversion. -/
  | unfinishedDirective
  | widthTooLarge
  | precisionTooLarge
  | unknownConversion (c : Char) (position : Nat)
  | noSuchField (key : String)
  | unknownLevel (name : String)
  | invalidValue (words : String)
  | wrongShape
  | unsupported
  | tomlSyntax
  | yamlSyntax
  deriving Repr, DecidableEq

namespace Fault

/-- The sort that a cause belongs to. -/
def kind : Fault → FaultKind
  | unknownTemporalCategories .. | sharedSynonym .. | unknownDialect .. | dialectTaken ..
  | invalidLogLevel .. | enumLengthNotPositive .. | stringLengthNotPositive .. | setting .. =>
    .configuration
  | unknownLogicalType .. => .unknownLogicalType
  | emptyEmbedding .. | missingKeyAttribute .. | unknownAttribute .. | notScalar ..
  | notReference .. | misfit .. => .invalidAttribute
  | metadata .. => .metadataAccess
  | absentKey .. | missingTomlSection .. | missingYamlSection .. => .absentKey
  | emptyYaml .. | notAMember .. | noNumeral .. | tooManyDigits .. | tooLongToWrite | noDecimal ..
  | noCodePoint | noSuchMoment .. | offsetTooLarge .. | notAPair .. | emptyLayout .. | unclosedKey
  | unfinishedDirective | widthTooLarge | precisionTooLarge | unknownConversion .. | noSuchField ..
  | unknownLevel .. | invalidValue .. => .invalidValue
  | tooLarge => .tooLarge
  | tooDeep => .tooDeep
  | tooFar => .tooFar
  | noSuchPosition => .noSuchPosition
  | missingFile .. => .missingFile
  | wrongShape => .wrongShape
  | unsupported => .unsupported
  | tomlSyntax => .tomlSyntax
  | yamlSyntax => .yamlSyntax

def settingKey : Fault → Value
  | unknownTemporalCategories .. => "temporal_types"
  | sharedSynonym .. => "synonym_classes"
  | unknownDialect .. | dialectTaken .. => "dialect"
  | invalidLogLevel .. => "log_level"
  | enumLengthNotPositive .. => "default_enum_length"
  | stringLengthNotPositive .. => "default_string_length"
  | setting key _ => key
  | _ => .null

def attributeName : Fault → Value
  | unknownLogicalType _ _ attr _ => attr
  | missingKeyAttribute .. => "<id>"
  | notScalar name _ | notReference name _ => name
  | unknownAttribute name _ _ | emptyEmbedding name | misfit name _ _ => name
  | _ => .null

def tableName : Fault → Value
  | unknownLogicalType _ _ _ table | misfit _ _ table => table
  | notScalar _ table | notReference _ table => table
  | missingKeyAttribute _ table | unknownAttribute _ _ table | metadata _ table _ => table
  | _ => .null

/-- Where an unknown logical type was met: nothing without an attribute, else both names. -/
def place (attr table : Value) : String :=
  if attr.isTruthy then
    " (屬性: " ++ (if table.isTruthy then table.display ++ "." else "") ++ attr.display ++ ")"
  else ""

/-- The number of characters after which a text that is no numeral is cut off. -/
def numeralExcerpt : Nat := 200

/-- A span of time as its whole days and the seconds beyond them. -/
def span (seconds : Int) : String :=
  let part (name : String) (n : Int) := if n = 0 then [] else [name ++ "=" ++ toString n]
  "datetime.timedelta(" ++
    ", ".intercalate (part "days" (seconds / 86400) ++ part "seconds" (seconds % 86400)) ++ ")"

/-- A character of ASCII that messages show as it is, or a question mark. -/
def plainOrMark (c : Char) : String :=
  if 31 ≤ c.toNat && c.toNat ≤ 126 then String.singleton c else "?"

/-- The wording of a fault. Shapes and syntax errors have none. -/
def message : Fault → String
  | unknownTemporalCategories dialect names =>
    "方言 '" ++ dialect.display ++ "' 含有未知的時間類別: " ++ Text.quotedList names
  | sharedSynonym dialect member =>
    "方言 '" ++ dialect.display ++ s!"' 的類型 '{member}' 同時出現在多個同義類別中"
  | unknownDialect dialect available =>
    s!"未知的方言: {dialect}，可用方言: " ++ Text.quotedList available
  | dialectTaken dialect => s!"方言 '{dialect}' 已註冊"
  | invalidLogLevel level => s!"無效的 log_level: {level}"
  | enumLengthNotPositive shown => s!"列舉欄位長度必須大於 0: {shown}"
  | stringLengthNotPositive shown => s!"文字欄位長度必須大於 0: {shown}"
  | setting key words => (words.statedOr ("配置錯誤: " ++ key.display)).display
  | unknownLogicalType logicalType dialect attr table =>
    "方言 '" ++ dialect.display ++ "' 未定義邏輯類型 '" ++ logicalType.display ++ "' 的欄位類型" ++
      place attr table
  | emptyEmbedding name => "嵌入屬性 '" ++ name.display ++ "' 沒有任何子屬性"
  | missingKeyAttribute entity _ => "實體 '" ++ entity.display ++ "' 沒有主鍵屬性"
  | unknownAttribute name entity _ =>
    "實體 '" ++ entity.display ++ "' 沒有屬性 '" ++ name.display ++ "'"
  | notScalar name _ => "嵌入屬性 '" ++ name.display ++ "' 沒有單一欄位類型"
  | notReference name _ => "屬性 '" ++ name.display ++ "' 不是參照其他表格的屬性"
  | misfit name words _ => (words.statedOr ("屬性配置錯誤: " ++ name.display)).display
  | metadata operation table cause =>
    "中繼資料查詢失敗: " ++ operation.display ++ " (表格: " ++ table.display ++ ")" ++
      match cause with
      | none => ""
      | some words => s!"\n原始錯誤: {words}"
  | absentKey key => key
  | missingTomlSection name => "配置檔案中找不到 [" ++ name.display ++ "] 區段"
  | missingYamlSection name => "配置檔案中找不到 '" ++ name.display ++ "' 區段"
  | emptyYaml path => s!"YAML 檔案為空或格式錯誤: {path}"
  | missingFile path => s!"配置檔案不存在: {path}"
  | notAMember shown set => s!"{shown} is not a valid {set}"
  | noNumeral base text =>
    s!"invalid literal for int() with base {base}: " ++
      String.ofList ((Text.quoted text).toList.take numeralExcerpt)
  | tooManyDigits count =>
    "Exceeds the limit (4300 digits) for integer string conversion: value has " ++
      toString count ++ " digits; use sys.set_int_max_str_digits() to increase the limit"
  | tooLongToWrite =>
    "Exceeds the limit (4300 digits) for integer string conversion; " ++
      "use sys.set_int_max_str_digits() to increase the limit"
  | noDecimal text => "could not convert string to float: " ++ Text.quoted text
  | noCodePoint => "chr() arg not in range(0x110000)"
  | noSuchMoment part => part.rule
  | offsetTooLarge seconds =>
    "offset must be a timedelta strictly between -timedelta(hours=24) and timedelta(hours=24)" ++
      ", not " ++ span seconds ++ "."
  | notAPair position length =>
    s!"dictionary update sequence element #{position} has length {length}; 2 is required"
  | emptyLayout text => s!"Invalid format '{text}' for '%' style"
  | unclosedKey => "incomplete format key"
  | unfinishedDirective => "incomplete format"
  | widthTooLarge => "width too big"
  | precisionTooLarge => "precision too big"
  | unknownConversion c position =>
    "unsupported format character '" ++ plainOrMark c ++ "' (0x" ++
      String.ofList (Nat.toDigits 16 c.toNat) ++ ") at index " ++ toString position
  | noSuchField key => "Formatting field not found in record: " ++ Text.quoted key
  | unknownLevel name => "Unknown level: " ++ Text.quoted name
  | invalidValue words => words
  | tooLarge | tooDeep | tooFar | noSuchPosition | wrongShape | unsupported | tomlSyntax
  | yamlSyntax => ""

/-- The fault of a logical type met at an attribute of a table; a table that is told is a text. -/
def unknownTypeAt (logicalType dialect attr table : Value) : Fault :=
  if attr.isTruthy && table.isTruthy && table.asText?.isNone then wrongShape
  else unknownLogicalType logicalType dialect attr table

/-- The fault with the attribute and table it was met at, for an unknown logical type. -/
def locate (attr table : Value) : Fault → Fault
  | unknownLogicalType logicalType dialect _ _ => unknownTypeAt logicalType dialect attr table
  | other => other

end Fault

end SchemaDrift
