import SchemaDrift.Document.Calendar
import SchemaDrift.Document.Numeral
import SchemaDrift.Document.Reader
import SchemaDrift.Document.Value
import SchemaDrift.Text.Digits
import SchemaDrift.Text.Search

/-!
# Scalars of TOML

Strings with and without escapes, on one line and on several; numbers in four bases with
underscores between their digits; dates and times; keys. A number may be well written and still
have too many digits to be read: such a number is taken off the text like any other, and its
meaning is a fault.
-/

namespace SchemaDrift.Document.Toml

def isSpace (c : Char) : Bool := c == ' ' || c == '\t'

def isSpaceOrLine (c : Char) : Bool := isSpace c || c == '\n'

def isControl (c : Char) : Bool := c.toNat < 32 || c.toNat == 127

/-- The characters that may not stand in a string or a comment as they are. -/
def isForbidden (severalLines : Bool) (c : Char) : Bool :=
  isControl c && c != '\t' && !(severalLines && c == '\n')

/-! ### Strings -/

def codePoint (count : Nat) : Reader Char := do
  let digits := (← get).take count
  Reader.ensure (digits.length == count && digits.all Text.isHexDigit)
  let n := Text.valueOf 16 digits
  Reader.ensure (n.isValidChar : Bool)
  Reader.skip count
  return Char.ofNat n

def escaped? : Char → Option Char
  | 'b' => some '\x08'
  | 't' => some '\t'
  | 'n' => some '\n'
  | 'f' => some '\x0c'
  | 'r' => some '\r'
  | '"' => some '"'
  | '\\' => some '\\'
  | _ => none

/-- What stands behind a backslash. Over several lines it may be a line end with blanks. -/
def escape (severalLines : Bool) : Reader (List Char) := do
  let c ← Reader.peek?
  match c with
  | none => failure
  | some c =>
    if severalLines && isSpaceOrLine c then
      Reader.skipWhile isSpace
      match ← Reader.peek? with
      | none => return []
      | some d =>
        Reader.ensure (d == '\n')
        Reader.skipWhile isSpaceOrLine
        return []
    else
      Reader.skip 1
      match c with
      | 'u' => return [← codePoint 4]
      | 'U' => return [← codePoint 8]
      | _ =>
        match escaped? c with
        | some d => return [d]
        | none => failure

/-- What the closing quotes of a string are. -/
def closing (severalLines : Bool) (mark : String) : String :=
  if severalLines then mark ++ mark ++ mark else mark

/-- The inside of a string with escapes, up to its closing quotes; `fuel` bounds its length. -/
def basicBody (severalLines : Bool) : (fuel : Nat) → Reader (List Char)
  | 0 => failure
  | fuel + 1 => do
    if ← Reader.accept (closing severalLines "\"") then return []
    match ← Reader.peek? with
    | none => failure
    | some c =>
      Reader.skip 1
      if c == '\\' then
        let here ← escape severalLines
        return here ++ (← basicBody severalLines fuel)
      else
        Reader.ensure (!isForbidden severalLines c)
        return c :: (← basicBody severalLines fuel)

/-- The inside of a string without escapes, up to its closing quotes. -/
def literalBody (severalLines : Bool) : Reader (List Char) := do
  match Text.cutAt (closing severalLines "'").toList (← get) with
  | none => failure
  | some (inside, rest) =>
    Reader.ensure (!inside.any (isForbidden severalLines))
    set rest
    return inside

/-- Up to two quotes more than those that close a string belong to it. -/
def extraMarks (mark : String) : Reader (List Char) := do
  if ← Reader.accept (mark ++ mark) then return mark.toList ++ mark.toList
  else if ← Reader.accept mark then return mark.toList
  else return []

/-- The inside of a string of either sort behind its opening quote. -/
def body (severalLines : Bool) (mark : String) : Reader (List Char) := do
  if mark == "'" then literalBody severalLines
  else basicBody severalLines ((← get).length + 1)

def line (mark : String) : Reader String := do
  Reader.expect mark
  return String.ofList (← body false mark)

/-- A string on several lines. A line end right behind the opening quotes is no part of it. -/
def block (mark : String) : Reader String := do
  Reader.expect (closing true mark)
  let _ ← Reader.accept "\n"
  let inside ← body true mark
  return String.ofList (inside ++ (← extraMarks mark))

def string (mark : String) : Reader String := do
  if ← Reader.begins (closing true mark) then block mark else line mark

/-! ### Keys -/

def isBare (c : Char) : Bool := c.isAlphanum || c == '-' || c == '_'

def keyPart : Reader String := do
  match ← Reader.peek? with
  | some '\'' => line "'"
  | some '"' => line "\""
  | _ =>
    let cs ← Reader.takeWhile isBare
    Reader.ensure (!cs.isEmpty)
    return String.ofList cs

/-- The parts of a key behind the first, each behind a dot. -/
def keyTail : (fuel : Nat) → Reader (List String)
  | 0 => failure
  | fuel + 1 => do
    Reader.skipWhile isSpace
    if ← Reader.accept "." then
      Reader.skipWhile isSpace
      let part ← keyPart
      return part :: (← keyTail fuel)
    else return []

/-- A key: parts with dots between them, and blanks around the dots and behind the key. -/
def key : Reader (List String) := do
  let part ← keyPart
  return part :: (← keyTail ((← get).length + 1))

/-! ### Numbers -/

/-- The digits behind the first of a number, each perhaps behind an underscore. -/
def moreDigits (isDigit : Char → Bool) : List Char → List Char × List Char
  | [] => ([], [])
  | [c] => if isDigit c then ([c], []) else ([], [c])
  | c :: d :: rest =>
    if isDigit c then
      let r := moreDigits isDigit (d :: rest)
      (c :: r.1, r.2)
    else if c == '_' && isDigit d then
      let r := moreDigits isDigit rest
      (d :: r.1, r.2)
    else ([], c :: d :: rest)

/-- The digits at the front of a text, without the underscores between them. -/
def digits (isDigit : Char → Bool) : Reader (List Char) := do
  match ← get with
  | [] => failure
  | c :: rest =>
    Reader.ensure (isDigit c)
    let r := moreDigits isDigit rest
    set r.2
    return c :: r.1

def based (mark : String) (base : Nat) (isDigit : Char → Bool) : Reader Value := do
  Reader.expect mark
  return .int (Text.valueOf base (← digits isDigit))

def marked : Reader Value :=
  based "0x" 16 Text.isHexDigit <|> based "0b" 2 (Text.isDigitOf 2) <|>
    based "0o" 8 (Text.isDigitOf 8)

def sign : Reader (List Char) := do
  match ← Reader.peek? with
  | some '+' => Reader.skip 1; return ['+']
  | some '-' => Reader.skip 1; return ['-']
  | _ => return []

/-- The digits of a whole number, which begin with zero only for zero itself. -/
def wholeDigits : Reader (List Char) := do
  if ← Reader.accept "0" then return ['0'] else digits Char.isDigit

def fraction : Reader (List Char) := do
  Reader.expect "."
  return '.' :: (← digits Char.isDigit)

def exponent : Reader (List Char) := do
  let c ← Reader.peek?
  Reader.ensure (c == some 'e' || c == some 'E')
  Reader.skip 1
  let s ← sign
  return 'e' :: s ++ (← digits Char.isDigit)

def decimal : Reader (Except Fault Value) := do
  let s ← sign
  let whole ← wholeDigits
  let fraction ← fraction <|> pure []
  let exponent ← exponent <|> pure []
  if fraction.isEmpty && exponent.isEmpty then
    return (Numeral.ofDigits whole).map fun n => .int (Numeral.signed (s == ['-']) n)
  else return (Numeral.decimal (s ++ whole ++ fraction ++ exponent)).map .real

def special : Reader Value := do
  let s ← sign
  let word := (← get).take 3
  Reader.ensure (word == "inf".toList || word == "nan".toList)
  Reader.skip 3
  return .real (if word == "nan".toList then .nan else .infinite (s == ['-']))

/-! ### Dates and times -/

def twoDigits (least most : Nat) : Reader (List Char) := do
  let ds := (← get).take 2
  Reader.ensure (ds.length == 2 && ds.all Char.isDigit && least ≤ Text.valueOf 10 ds &&
    Text.valueOf 10 ds ≤ most)
  Reader.skip 2
  return ds

def secondFraction : Reader (List Char) := do
  Reader.expect "."
  let ds ← Reader.takeWhile Char.isDigit
  Reader.ensure (!ds.isEmpty)
  return '.' :: ds

def time : Reader (List Char) := do
  let hour ← twoDigits 0 23
  Reader.expect ":"
  let minute ← twoDigits 0 59
  Reader.expect ":"
  let second ← twoDigits 0 59
  let fraction ← secondFraction <|> pure []
  return hour ++ ':' :: minute ++ ':' :: second ++ fraction

def offset : Reader (List Char) := do
  match ← Reader.peek? with
  | some 'z' | some 'Z' => Reader.skip 1; return ['Z']
  | _ =>
    let s ← sign
    Reader.ensure (!s.isEmpty)
    let hour ← twoDigits 0 23
    Reader.expect ":"
    return s ++ hour ++ ':' :: (← twoDigits 0 59)

def timeBehindDate : Reader (List Char) := do
  let c ← Reader.peek?
  Reader.ensure (c == some 'T' || c == some 't' || c == some ' ')
  Reader.skip 1
  let t ← time
  return 'T' :: t ++ (← offset <|> pure [])

/-- A date in the form of year, month and day, and whether there is such a day. -/
def date : Reader (List Char × Bool) := do
  let year := (← get).take 4
  Reader.ensure (year.length == 4 && year.all Char.isDigit)
  Reader.skip 4
  Reader.expect "-"
  let month ← twoDigits 1 12
  Reader.expect "-"
  let day ← twoDigits 1 31
  let exists? := 0 < Text.valueOf 10 year &&
    Text.valueOf 10 day ≤ daysIn (Text.valueOf 10 year) (Text.valueOf 10 month)
  return (year ++ '-' :: month ++ '-' :: day, exists?)

def dateTime : Reader (List Char × Bool) := do
  let (day, isDay) ← date
  let time ← timeBehindDate <|> pure []
  return (day ++ time, isDay)

/-- A point in time. What looks like a date has to be one. -/
def moment : Reader Value := do
  match dateTime.run (← get) with
  | some ((written, isDay), rest) =>
    Reader.ensure isDay
    set rest
    return .moment (String.ofList written)
  | none => return .moment (String.ofList (← time))

def beginsWithDate : Reader Bool := return (date.run (← get)).isSome

def plain : Reader (Except Fault Value) := do
  if ← Reader.accept "true" then return .ok (.bool true)
  else if ← Reader.accept "false" then return .ok (.bool false)
  else if ← beginsWithDate then moment.map .ok
  else (moment <|> marked).map .ok <|> decimal <|> special.map .ok

end SchemaDrift.Document.Toml
