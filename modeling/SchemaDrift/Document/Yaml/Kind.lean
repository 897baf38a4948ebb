import SchemaDrift.Document.Reader
import SchemaDrift.Text.Digits

/-!
# Kinds of YAML values

What a value is: as its tag says, or as the look of a plain scalar tells. A plain scalar that
looks like nothing else is a text.
-/

namespace SchemaDrift.Document.Yaml

/-- The kinds of values. -/
inductive Kind where
  | null
  | bool
  | int
  | real
  | moment
  | binary
  | text
  | list
  | map
  | set
  | orderedMap
  | pairs
  /-- The key under which a map takes over the entries of another. -/
  | merge
  /-- The key of the value that a map stands for. -/
  | default
  | unknown
  deriving Repr, DecidableEq

namespace Kind

/-- What the tags of the language begin with. -/
def languagePrefix : String := "tag:yaml.org,2002:"

def ofTag (tag : String) : Kind :=
  if languagePrefix.toList.isPrefixOf tag.toList then
    match String.ofList (tag.toList.drop languagePrefix.length) with
    | "null" => null
    | "bool" => bool
    | "int" => int
    | "float" => real
    | "timestamp" => moment
    | "binary" => binary
    | "str" => text
    | "seq" => list
    | "map" => map
    | "set" => set
    | "omap" => orderedMap
    | "pairs" => pairs
    | "merge" => merge
    | "value" => default
    | _ => unknown
  else unknown

/-- The texts that stand for truth values, in their three spellings. -/
def boolWords : List String := [
  "yes", "Yes", "YES", "no", "No", "NO", "true", "True", "TRUE", "false", "False", "FALSE",
  "on", "On", "ON", "off", "Off", "OFF"]

def nullWords : List String := ["", "~", "null", "Null", "NULL"]

def isDigitOrGap (c : Char) : Bool := c.isDigit || c == '_'

def unsigned : List Char → List Char
  | '-' :: rest => rest
  | '+' :: rest => rest
  | cs => cs

/-- Places of base sixty, each behind a colon, and what follows them. -/
def sixtieths : List Char → List Char
  | ':' :: a :: b :: rest =>
    if a.isDigit && a.toNat < 54 && b.isDigit then sixtieths rest
    else if a.isDigit then sixtieths (b :: rest)
    else ':' :: a :: b :: rest
  | ':' :: [a] => if a.isDigit then [] else [':', a]
  | cs => cs

/-- Whether places of base sixty come here. -/
def hasSixtieths (cs : List Char) : Bool := (sixtieths cs).length < cs.length

/-- Whether a text without sign is a whole number in one of the five notations. -/
def isUnsignedInt : List Char → Bool
  | [] => false
  | ['0'] => true
  | '0' :: 'b' :: rest => !rest.isEmpty && rest.all fun c => c == '0' || c == '1' || c == '_'
  | '0' :: 'x' :: rest => !rest.isEmpty && rest.all fun c => Text.isHexDigit c || c == '_'
  | '0' :: rest => rest.all fun c => Text.isDigitOf 8 c || c == '_'
  | c :: rest =>
    let behind := rest.dropWhile isDigitOrGap
    c.isDigit && (behind.isEmpty || (hasSixtieths behind && (sixtieths behind).isEmpty))

/-- Whether a text is nothing or an exponent with a sign. -/
def isExponent : List Char → Bool
  | [] => true
  | e :: s :: d :: rest =>
    (e == 'e' || e == 'E') && (s == '-' || s == '+') && d.isDigit && rest.all Char.isDigit
  | _ => false

def isFraction : List Char → Bool
  | '.' :: rest => isExponent (rest.dropWhile isDigitOrGap)
  | _ => false

/-- Whether a text is a fraction of base sixty, which has no exponent. -/
def isPlainFraction : List Char → Bool
  | '.' :: rest => rest.all isDigitOrGap
  | _ => false

/-- Whether a text is a number with a fraction, or no finite number. -/
def isReal (cs : List Char) : Bool :=
  match cs with
  | '.' :: d :: _ =>
    if d.isDigit then isFraction cs
    else ([".inf", ".Inf", ".INF", ".nan", ".NaN", ".NAN"].map String.toList).contains cs
  | _ =>
    match unsigned cs with
    | d :: rest =>
      let behind := rest.dropWhile isDigitOrGap
      if d.isDigit then
        isFraction behind || (hasSixtieths behind && isPlainFraction (sixtieths behind))
      else ([".inf", ".Inf", ".INF"].map String.toList).contains (d :: rest)
    | [] => false

/-- Takes a digit, and perhaps a second. -/
def oneOrTwoDigits : Reader (List Char) := do
  let c ← Reader.peek?
  Reader.ensure (c.any Char.isDigit)
  Reader.skip 1
  match c, ← Reader.peek? with
  | some a, some b =>
    if b.isDigit then
      Reader.skip 1
      return [a, b]
    else return [a]
  | some a, none => return [a]
  | none, _ => failure

def someDigits (count : Nat) : Reader (List Char) := do
  let ds := (← get).take count
  Reader.ensure (ds.length == count && ds.all Char.isDigit)
  Reader.skip count
  return ds

/-- A point in time in its parts. -/
structure MomentParts where
  year : Nat
  month : Nat
  day : Nat
  time : Option (Nat × Nat × Nat) := none
  /-- How many seconds the time is ahead of universal time. -/
  offset : Option Int := none

/-- A date whose month and day are read in some way. -/
def date (part : Reader (List Char)) : Reader MomentParts := do
  let year ← someDigits 4
  Reader.expect "-"
  let month ← part
  Reader.expect "-"
  let day ← part
  return {
    year := Text.valueOf 10 year
    month := Text.valueOf 10 month
    day := Text.valueOf 10 day }

/-- What separates a time from its date. -/
def dateGap : Reader Unit := do
  match ← Reader.peek? with
  | some 'T' | some 't' => Reader.skip 1
  | _ =>
    let blanks ← Reader.takeWhile fun c => c == ' ' || c == '\t'
    Reader.ensure (!blanks.isEmpty)

/-- How many seconds a time is ahead of universal time. -/
def zone : Reader Int := do
  Reader.skipWhile fun c => c == ' ' || c == '\t'
  match ← Reader.peek? with
  | some 'Z' =>
    Reader.skip 1
    return 0
  | some s =>
    Reader.ensure (s == '-' || s == '+')
    Reader.skip 1
    let hours ← oneOrTwoDigits
    let minutes ← if ← Reader.accept ":" then someDigits 2 else pure []
    let seconds : Int := 3600 * Text.valueOf 10 hours + 60 * Text.valueOf 10 minutes
    return if s == '-' then -seconds else seconds
  | none => failure

def dateAndTime : Reader MomentParts := do
  let day ← date oneOrTwoDigits
  dateGap
  let hour ← oneOrTwoDigits
  Reader.expect ":"
  let minute ← someDigits 2
  Reader.expect ":"
  let second ← someDigits 2
  if ← Reader.accept "." then Reader.skipWhile Char.isDigit
  let offset ← (zone.map some) <|> pure none
  let n := Text.valueOf 10
  return { day with time := some (n hour, n minute, n second), offset }

def chomped (cs : List Char) : List Char :=
  if cs.getLast? = some '\n' then cs.dropLast else cs

/-- The parts of a point in time as a tag may announce it. -/
def momentParts? (cs : List Char) : Option MomentParts :=
  (Reader.all? (date oneOrTwoDigits) (chomped cs)).or (Reader.all? dateAndTime (chomped cs))

/-- Whether a text looks like a point in time: a date alone has two digits for month and day. -/
def looksLikeMoment (cs : List Char) : Bool :=
  (Reader.all? (date (someDigits 2)) cs).isSome || (Reader.all? dateAndTime cs).isSome

def markWords : List String := ["!", "&", "*"]

/-- The kind of what a plain scalar looks like. -/
def ofLook (s : String) : Kind :=
  let cs := s.toList
  if nullWords.contains s then null
  else if boolWords.contains s then bool
  else if isReal cs then real
  else if isUnsignedInt (unsigned cs) then int
  else if s == "<<" then merge
  else if looksLikeMoment cs then moment
  else if s == "=" then default
  else if markWords.contains s then unknown
  else text

/-- The kind that a plain scalar looks like. A line feed at its end does not count. -/
def ofPlain (s : String) : Kind :=
  if s = "\n" then text else ofLook (String.ofList (chomped s.toList))

def isCollection : Kind → Bool
  | list | map | set | orderedMap | pairs => true
  | _ => false

def isScalar : Kind → Bool
  | null | bool | int | real | moment | binary | text => true
  | _ => false

end Kind

end SchemaDrift.Document.Yaml
