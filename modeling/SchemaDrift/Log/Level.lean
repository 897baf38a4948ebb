import SchemaDrift.Document.Value

/-!
# Log levels and records

A record is a message with the level of its importance.
-/

namespace SchemaDrift.Log

/-- How important a record is. -/
inductive Level where
  | debug
  | info
  | warning
  | error
  | critical
  deriving Repr, DecidableEq

namespace Level

def all : List Level := [debug, info, warning, error, critical]

def name : Level → String
  | debug => "DEBUG"
  | info => "INFO"
  | warning => "WARNING"
  | error => "ERROR"
  | critical => "CRITICAL"

def label : Level → String
  | debug => "debug"
  | info => "info"
  | warning => "warning"
  | error => "error"
  | critical => "critical"

/-- The rank by which levels are compared. -/
def number : Level → Int
  | debug => 10
  | info => 20
  | warning => 30
  | error => 40
  | critical => 50

def ofName? (s : String) : Option Level := all.find? (·.name == s)

end Level

/-- What a caller has put in place of the built-in logger. -/
inductive Logger where
  /-- A logger that keeps the records that it is handed. -/
  | recorder
  /-- A value that takes no records, and may count as false. -/
  | mute (v : Document.Value)
  deriving Repr, DecidableEq

/-- Whether the logger counts as one where a configuration is copied. -/
def Logger.isTruthy : Logger → Bool
  | recorder => true
  | mute v => v.isTruthy

/-- What is handed to a logger. -/
structure Record where
  level : Level
  message : String
  deriving Repr, DecidableEq

end SchemaDrift.Log
