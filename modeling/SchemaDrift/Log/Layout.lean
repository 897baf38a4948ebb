import SchemaDrift.Ddl.Statement
import SchemaDrift.Log.Directive
import SchemaDrift.Log.Level
import SchemaDrift.Text.Search

/-!
# The layout of log lines

How a log record becomes a line. A layout is a text with directives in it, which name the fields
of the record. On a terminal the level and the category of a statement are coloured.
-/

namespace SchemaDrift.Log

open Document (Value)

/-- What a line is made of. What is no text or number has its place in a line all the same. -/
structure Entry where
  logger : Value
  level : Value
  message : Value
  /-- When the entry was made, in seconds since the beginning of 1970. -/
  created : Value := .int 0
  millis : Value := .int 0
  deriving Repr, DecidableEq

/-- The name of what is no level. -/
def otherLevelName (level : Value) : Value := "Level " ++ level.display

/-- The number of a level name, among them the names that stand for another. -/
def numberOfName? (name : String) : Option Int :=
  match name with
  | "WARN" => some Level.warning.number
  | "FATAL" => some Level.critical.number
  | "NOTSET" => some 0
  | _ => (Level.ofName? name).map (·.number)

/-- The name of a level by its number. A name in place of the number leads to the number. -/
def levelName (level : Value) : Value :=
  match level.canonical with
  | .int number =>
    if number = 0 then "NOTSET"
    else
      match Level.all.find? (·.number == number) with
      | some found => found.name
      | none => otherLevelName level
  | .text name => ((numberOfName? name).map Value.int).getD (otherLevelName level)
  | _ => otherLevelName level

def zeroPadded (width : Nat) (n : Int) : String :=
  padded { zero := true } width true (signOf {} (n < 0)) (toString n.natAbs)

/-- Year, month and day of a day counted from the beginning of 1970. -/
def dateOfDay (day : Int) : Int × Int × Int :=
  -- Eras of 400 years begin on the first of March, so that leap days come last.
  let shifted := day + 719468
  let era := shifted / 146097
  let dayOfEra := shifted % 146097
  let yearOfEra := (dayOfEra - dayOfEra / 1460 + dayOfEra / 36524 - dayOfEra / 146096) / 365
  let dayOfYear := dayOfEra - (365 * yearOfEra + yearOfEra / 4 - yearOfEra / 100)
  let monthFromMarch := (5 * dayOfYear + 2) / 153
  let dayOfMonth := dayOfYear - (153 * monthFromMarch + 2) / 5 + 1
  let month := if monthFromMarch < 10 then monthFromMarch + 3 else monthFromMarch - 9
  (yearOfEra + era * 400 + (if month ≤ 2 then 1 else 0), month, dayOfMonth)

def timestamp (created millis : Int) : String :=
  let (year, month, day) := dateOfDay (created / 86400)
  let second := created % 86400
  "-".intercalate [toString year, zeroPadded 2 month, zeroPadded 2 day] ++ " " ++
    ":".intercalate [zeroPadded 2 (second / 3600), zeroPadded 2 (second / 60 % 60),
      zeroPadded 2 (second % 60)] ++ "," ++ zeroPadded 3 millis

/-- Whether a moment is one of those that are counted. -/
def isCounted (created : Int) : Bool := -Int.pow 2 63 ≤ created && created < Int.pow 2 63

def isKnownYear (year : Int) : Bool := -2147481748 ≤ year && year ≤ 2147483647

/--
The moment of an entry, which has to be told by numbers and not be too far away. One that is not
stated is the present one, which is not known here, and is told as the beginning.
-/
def Entry.time (e : Entry) : Except Fault String := do
  let some created := (if e.created = .null then .int 0 else e.created).asInt? | throw .wrongShape
  if !isCounted created then throw .tooLarge
  if !isKnownYear (dateOfDay (created / 86400)).1 then throw .tooFar
  let some millis := e.millis.asInt? | throw .wrongShape
  return timestamp created millis

/-- What entries do not know about themselves. -/
def unknownFields : List String := ["args", "exc_info", "exc_text", "stack_info", "funcName"]

/-- The fields that no place in a program is known for. -/
def placeFields : List String := ["pathname", "filename", "module"]

/-- A field of an entry that a line can show. -/
def Entry.value (e : Entry) (key : String) : Except Fault Value :=
  match key with
  | "name" => .ok e.logger
  | "levelname" => .ok (levelName e.level)
  | "levelno" => .ok e.level
  | "message" => .ok e.message.display
  | "msg" => .ok e.message
  | "asctime" => e.time.map .text
  | "created" => .ok e.created
  | "msecs" => .ok e.millis
  | "lineno" => .ok (.int 0)
  | "threadName" => .ok "MainThread"
  | "processName" => .ok "MainProcess"
  | _ =>
    if unknownFields.contains key then .ok .null
    else if placeFields.contains key then .ok ""
    else .error (.noSuchField key)

/-- An entry as a whole, as far as it is known: its fields in a fixed order. -/
def Entry.whole (e : Entry) : Value := .record [
  ("name", e.logger), ("msg", e.message), ("args", .null), ("levelname", levelName e.level),
  ("levelno", e.level), ("pathname", ""), ("filename", ""), ("module", ""), ("exc_info", .null),
  ("exc_text", .null), ("stack_info", .null), ("lineno", .int 0), ("funcName", .null),
  ("created", e.created), ("msecs", e.millis)]

/-- A layout of lines. -/
structure Layout where
  parts : List Part
  /-- Whether the time is found out before anything is written. -/
  tellsTime : Bool := false
  deriving Repr, DecidableEq

namespace Layout

def field (key : String) (flags : Flags := {}) (width : Nat := 0) : Part :=
  .directive { key := some key, flags, width, conversion := 's' }

def bare : Layout := { parts := [field "message"] }

/-- Reads a layout. It has to have a directive; an empty one is that of a bare message. -/
def ofText (s : String) : Except Fault Layout :=
  if s = "" then .ok bare
  else if holdsDirective s.toList then .ok {
    parts := readParts s.length (s.length + 1) s.toList
    tellsTime := (Text.cutAt "%(asctime)".toList s.toList).isSome }
  else .error (.emptyLayout s)

def bar : List Part := " | ".toList.map .literal

/-- The layout of a full line: time, level, logger, message. -/
def full : Layout where
  parts :=
    field "asctime" :: bar ++ field "levelname" { left := true } 8 :: bar ++
      field "name" :: bar ++ [field "message"]
  tellsTime := true

/--
A directive without a key. It shows the entry as a whole, which only the first directive can do; a
star would use it up.
-/
def writeKeyless (e : Entry) (isFirst : Bool) (d : Directive) : Except Fault String :=
  if isFirst && !d.stars.any then d.write e.whole else .error .wrongShape

/-- A star takes a whole number below a bound. -/
def starNumber (bound : Nat) (v : Value) : Except Fault Unit :=
  match v.asInt? with
  | none => .error .wrongShape
  | some n => if -(bound : Int) ≤ n && n < bound then .ok () else .error .tooLarge

/-- What stars make of the value of a key: the first uses it up, so that a second finds none. -/
def feedStars (s : Stars) (v : Value) : Except Fault Unit := do
  if s.width then
    starNumber widthBound v
    if s.precision then throw .wrongShape
  else if s.precision then starNumber precisionBound v

/--
A directive as a line shows it. A width or precision that is left to the value of the key uses
that up, so that nothing is left to write.
-/
def writeDirective (e : Entry) (isFirst : Bool) (d : Directive) : Except Fault String :=
  match d.key with
  | none => writeKeyless e isFirst d
  | some key => do
    let v ← e.value key
    feedStars d.stars v
    if d.stars.any then throw .wrongShape
    d.write v

/-- Tells the fault of a directive that cannot be read any further, behind its key and stars. -/
def writeBroken (e : Entry) (key : Option String) (stars : Stars) (fault : Fault) :
    Except Fault String :=
  match key with
  | none => .error (if stars.any then .wrongShape else fault)
  | some key => do
    feedStars stars (← e.value key)
    throw fault

/-- The parts of a layout as a line shows them; `isFirst` says that no directive was in front. -/
def renderParts (e : Entry) (isFirst : Bool) : List Part → Except Fault String
  | [] => .ok ""
  | .literal c :: rest => return String.singleton c ++ (← renderParts e isFirst rest)
  | .directive d :: rest => do
    let here ← writeDirective e isFirst d
    return here ++ (← renderParts e false rest)
  | .broken key stars fault :: _ => writeBroken e key stars fault

def render (l : Layout) (e : Entry) : Except Fault String := do
  if l.tellsTime then
    let _ ← e.time
  renderParts e true l.parts

end Layout

def colourMark (code : String) : String := "\x1b[" ++ code ++ "m"

def coloured (code s : String) : String := colourMark code ++ s ++ colourMark "0"

def Level.colour : Level → String
  | debug => "36"
  | info => "32"
  | warning => "33"
  | error => "31"
  | critical => "35"

def categoryColour : Category → String
  | .create => "32"
  | .alter => "34"
  | .drop => "31"
  | .rename => "35"
  | .update => "33"

/-- The text with the first bar before the name of its level followed by that name in colour. -/
def colourLevel (levelName : Value) (s : String) : String :=
  match Level.all.find? fun l => levelName == .text l.name with
  | none => s
  | some level =>
    match Text.cutAt ("| " ++ level.name).toList s.toList with
    | none => s
    | some (front, behind) =>
      String.ofList front ++ "| " ++ coloured level.colour level.name ++ String.ofList behind

/-- A message with the category in front of it in colour. -/
def colourCategory (message : String) : String :=
  let tag (c : Category) := "[" ++ c.label ++ "]"
  match Category.all.find? fun c => (tag c).toList.isPrefixOf message.toList with
  | none => message
  | some c =>
    coloured (categoryColour c) (tag c) ++
      String.ofList (message.toList.drop (tag c).length)

/-- A line in colours: its level, and the category of the message at its end. -/
def colourLine (e : Entry) (line : String) : String :=
  let line := colourLevel (levelName e.level) line
  let message := e.message.display
  if message != "" && message.toList.isSuffixOf line.toList then
    String.ofList (line.toList.take (line.length - message.length)) ++ colourCategory message
  else line

end SchemaDrift.Log
