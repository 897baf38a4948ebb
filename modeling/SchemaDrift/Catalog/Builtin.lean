import SchemaDrift.Catalog.Basic
/-!
# Built-in dialects

The two dialects that every registry starts with: `access`, a file database without sequences,
and `mssql`, a database server.
-/

namespace SchemaDrift.Catalog

/-- The reserved words of `access`. -/
def accessReservedWords : List String := [
  "ABSOLUTE", "ADD", "ADMINDB", "ALL", "ALPHANUMERIC", "ALTER", "AND", "ANY", "ARE", "AS", "ASC",
  "ASSERTION", "AUTHORIZATION", "AUTOINCREMENT", "AVG", "BEGIN", "BETWEEN", "BINARY", "BIT",
  "BIT_LENGTH", "BOOLEAN", "BOTH", "BY", "BYTE", "CASCADE", "CATALOG", "CHAR", "CHAR_LENGTH",
  "CHARACTER", "CHARACTER_LENGTH", "CHECK", "CLOSE", "CLUSTERED", "COALESCE", "COLLATE",
  "COLLATION", "COLUMN", "COMMIT", "COMP", "COMPRESSION", "CONNECT", "CONNECTION", "CONSTRAINT",
  "CONSTRAINTS", "CONTAINER", "CONTAINS", "CONVERT", "COUNT", "COUNTER", "CREATE", "CURRENCY",
  "CURRENT_DATE", "CURRENT_TIME", "CURRENT_TIMESTAMP", "CURRENT_USER", "CURSOR", "DATABASE",
  "DATE", "DATETIME", "DAY", "DEC", "DECIMAL", "DECLARE", "DELETE", "DESC", "DISALLOW",
  "DISCONNECT", "DISTINCT", "DISTINCTROW", "DOMAIN", "DOUBLE", "DROP", "EQV", "EXCLUSIVECONNECT",
  "EXEC", "EXECUTE", "EXISTS", "EXTRACT", "FALSE", "FETCH", "FIRST", "FLOAT", "FLOAT4", "FLOAT8",
  "FOREIGN", "FROM", "GENERAL", "GRANT", "GROUP", "GUID", "HAVING", "HOUR", "IDENTITY",
  "IEEEDOUBLE", "IEEESINGLE", "IGNORE", "IMAGE", "IMP", "IN", "INDEX", "INDEXCREATEDB", "INNER",
  "INPUT", "INSENSITIVE", "INSERT", "INT", "INTEGER", "INTEGER1", "INTEGER2", "INTEGER4",
  "INTERVAL", "INTO", "IS", "ISOLATION", "JOIN", "KEY", "LANGUAGE", "LAST", "LEFT", "LEVEL",
  "LIKE", "LOGICAL", "LOGICAL1", "LONG", "LONGBINARY", "LONGCHAR", "LONGTEXT", "LOWER", "MATCH",
  "MAX", "MEMO", "MIN", "MINUTE", "MOD", "MONEY", "MONTH", "NATIONAL", "NCHAR", "NONCLUSTERED",
  "NOT", "NTEXT", "NULL", "NUMBER", "NUMERIC", "NVARCHAR", "OCTET_LENGTH", "OLEOBJECT", "ON",
  "OPEN", "OPTION", "OR", "ORDER", "OUTER", "OUTPUT", "OWNERACCESS", "PAD", "PARAMETERS",
  "PARTIAL", "PASSWORD", "PERCENT", "PIVOT", "POSITION", "PRECISION", "PREPARE", "PRIMARY",
  "PRIVILEGES", "PROC", "PROCEDURE", "PUBLIC", "REAL", "REFERENCES", "RESTRICT", "REVOKE",
  "RIGHT", "ROLLBACK", "SCHEMA", "SECOND", "SELECT", "SELECTSCHEMA", "SELECTSECURITY", "SET",
  "SHORT", "SINGLE", "SIZE", "SMALLDATETIME", "SMALLINT", "SMALLMONEY", "SOME", "SPACE", "SQL",
  "SQLCODE", "SQLERROR", "SQLSTATE", "STDEV", "STDEVP", "STRING", "SUBSTRING", "SUM", "SYSNAME",
  "SYSTEM_USER", "TABLE", "TABLEID", "TEMPORARY", "TEXT", "TIME", "TIMESTAMP", "TIMEZONE_HOUR",
  "TIMEZONE_MINUTE", "TINYINT", "TO", "TOP", "TRAILING", "TRANSACTION", "TRANSFORM", "TRANSLATE",
  "TRANSLATION", "TRIM", "TRUE", "UNION", "UNIQUE", "UNIQUEIDENTIFIER", "UNKNOWN", "UPDATE",
  "UPDATEIDENTITY", "UPDATEOWNER", "UPDATESECURITY", "UPPER", "USAGE", "USER", "USING", "VALUE",
  "VALUES", "VAR", "VARBINARY", "VARCHAR", "VARP", "VARYING", "VIEW", "WHEN", "WHENEVER", "WHERE",
  "WITH", "WORK", "XOR", "YEAR", "YESNO", "ZONE"]

/-- The dialect of the file database. -/
def access : Catalog where
  name := "access"
  types := ⟨[
    ("Boolean", "bit"), ("byte[]", "binary"), ("Character", "character"), ("Date", "datetime"),
    ("BigDecimal", "decimal"), ("Double", "double"), ("Integer", "integer"), ("Long", "decimal"),
    ("String", "varchar"), ("UUID", "uniqueidentifier")], by decide⟩
  defaultValues := ⟨[
    ("Boolean", "0"), ("byte[]", "''"), ("Date", "'=Now()'"), ("DateTime", "'=Now()'"),
    ("Time", "'=Now()'"), ("BigDecimal", "0"), ("Double", "0"), ("Integer", "0"), ("Long", "0"),
    ("String", "''"), ("Character", "''"), ("UUID", "newid()")], by decide⟩
  temporalTypes := ⟨[(.date, "datetime"), (.time, "datetime"), (.timestamp, "datetime")], by decide⟩
  synonymClasses := [
    ["tinyint", "integer1", "byte", "bit", "boolean", "logical", "logical1", "yesno"],
    ["binary", "varbinary", "binary varying", "bit varying", "varbinary(max)", "image",
     "longbinary", "general", "oleobject"],
    ["datetime", "smalldatetime", "date", "time"],
    ["char", "alphanumeric", "character", "string", "varchar", "character varying", "nchar",
     "national character", "national char", "national character varying", "national char varying",
     "text(max)"],
    ["decimal", "dec", "numeric", "money", "smallmoney", "currency"],
    ["float", "double", "float8", "ieeedouble", "number", "real", "single", "float4", "ieeesingle"],
    ["integer", "long", "int", "integer4", "smallint", "short", "integer2"],
    ["text", "longtext", "longchar", "memo", "note", "ntext"],
    ["uniqueidentifier", "guid"]]
  reservedWords := accessReservedWords
  noParameterTypes := [
    "tinyint", "integer1", "byte", "bit", "boolean", "logical", "logical1", "yesno", "datetime",
    "smalldatetime", "date", "time", "decimal", "dec", "numeric", "money", "smallmoney",
    "currency", "float", "double", "float8", "ieeedouble", "number", "real", "single", "float4",
    "ieeesingle", "integer", "long", "int", "integer4", "smallint", "short", "integer2",
    "uniqueidentifier", "guid", "image", "longbinary", "general", "oleobject", "bigint identity",
    "int identity"]
  autoGeneratedTypes := ["counter", "autoincrement"]
  wideCharTypes := ["nchar", "nvarchar", "ntext"]
  fixedCharTypes := ["char", "nchar"]
  varcharType := "varchar"
  numeric := {}
  longIdentityType := "bigint identity"
  integerIdentityType := "int identity"
  delimiter := "^"
  sequenceTerminator := ";"
  quoteOpen := "["
  quoteClose := "]"
  disjoint := by decide

/-- The reserved words of `mssql`. -/
def mssqlReservedWords : List String := [
  "ADD", "ALL", "ALTER", "AND", "ANY", "AS", "ASC", "BACKUP", "BEGIN", "BETWEEN", "BREAK", "BY",
  "CASCADE", "CASE", "CHECK", "CLUSTERED", "COLUMN", "COMMIT", "CONSTRAINT", "CREATE", "CROSS",
  "CURRENT", "CURRENT_DATE", "CURRENT_TIME", "CURRENT_TIMESTAMP", "CURRENT_USER", "DATABASE",
  "DEFAULT", "DELETE", "DESC", "DISTINCT", "DROP", "ELSE", "END", "EXEC", "EXECUTE", "EXISTS",
  "FILE", "FOR", "FOREIGN", "FROM", "FULL", "FUNCTION", "GRANT", "GROUP", "HAVING", "IDENTITY",
  "IN", "INDEX", "INNER", "INSERT", "INTO", "IS", "JOIN", "KEY", "LEFT", "LIKE", "NONCLUSTERED",
  "NOT", "NULL", "OF", "ON", "OPEN", "OR", "ORDER", "OUTER", "PERCENT", "PLAN", "PRIMARY", "PROC",
  "PROCEDURE", "PUBLIC", "REFERENCES", "RIGHT", "ROLLBACK", "RULE", "SCHEMA", "SELECT", "SET",
  "TABLE", "THEN", "TO", "TOP", "TRAN", "TRANSACTION", "TRIGGER", "UNION", "UNIQUE", "UPDATE",
  "USER", "VALUES", "VIEW", "WHEN", "WHERE", "WITH"]

/-- The dialect of the database server. -/
def mssql : Catalog where
  name := "mssql"
  types := ⟨[
    ("Boolean", "tinyint"), ("byte[]", "image"), ("Character", "char"), ("Date", "datetime"),
    ("LocalDate", "date"), ("LocalTime", "time"), ("LocalDateTime", "datetime2"),
    ("BigDecimal", "decimal"), ("Double", "double precision"), ("Integer", "integer"),
    ("Long", "bigint"), ("String", "varchar"), ("UUID", "uniqueidentifier")], by decide⟩
  defaultValues := ⟨[
    ("Boolean", "0"), ("Date", "current_timestamp"), ("LocalDate", "current_timestamp"),
    ("LocalTime", "current_timestamp"), ("LocalDateTime", "current_timestamp"),
    ("BigDecimal", "0"), ("Double", "0"), ("Integer", "0"), ("Long", "0"), ("String", "''"),
    ("Character", "''"), ("UUID", "newid()")], by decide⟩
  temporalTypes := ⟨[(.date, "date"), (.time, "time"), (.timestamp, "datetime")], by decide⟩
  synonymClasses := [
    ["tinyint", "bit", "smallint", "int", "integer"],
    ["bigint"],
    ["decimal", "numeric", "money", "smallmoney"],
    ["double precision", "float", "real"],
    ["varchar", "char", "nchar", "nvarchar", "text", "ntext"],
    ["datetime", "datetime2", "smalldatetime"],
    ["binary", "varbinary", "image"],
    ["uniqueidentifier"]]
  reservedWords := mssqlReservedWords
  noParameterTypes := [
    "bit", "tinyint", "smallint", "int", "integer", "bigint", "money", "smallmoney", "float",
    "real", "double precision", "datetime", "datetime2", "smalldatetime", "date", "time",
    "uniqueidentifier", "image", "text", "ntext", "bigint identity", "int identity"]
  autoGeneratedTypes := ["timestamp", "rowversion"]
  wideCharTypes := ["nchar", "nvarchar", "ntext"]
  fixedCharTypes := ["char", "nchar"]
  varcharType := "varchar"
  numeric := {}
  longIdentityType := "bigint identity"
  integerIdentityType := "int identity"
  delimiter := "^"
  sequenceTerminator := ";"
  quoteOpen := "["
  quoteClose := "]"
  disjoint := by decide

end SchemaDrift.Catalog
