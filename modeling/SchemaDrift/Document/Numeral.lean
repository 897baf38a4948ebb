import SchemaDrift.Decimal.Double
import SchemaDrift.Fault
import SchemaDrift.Text.Blank
import SchemaDrift.Text.DecimalDigit
import SchemaDrift.Text.Digits

/-!
# Numerals

Texts that write numbers. Digits may be those of any script, and blanks around a numeral do not
count. A whole number may have the mark of its base in front; in base ten it has a limited number
of digits. A decimal number may have a fraction and an exponent, or name what is no finite number.
-/

namespace SchemaDrift.Document.Numeral

def isPlainBlank (c : Char) : Bool := c == ' ' || ('\x09' ≤ c && c ≤ '\x0D')

/-- A character in ASCII, if it is a blank or a digit. -/
def plain (c : Char) : Char :=
  if c.toNat < 127 then c
  else if Text.isBlank c then ' '
  else
    match Text.decimalValue? c with
    | some n => Char.ofNat (48 + n)
    | none => c

/-- A numeral in ASCII without the blanks around it. -/
def normal (cs : List Char) : List Char :=
  Text.dropTrailing isPlainBlank ((cs.map plain).dropWhile isPlainBlank)

/-- The sign in front of a numeral, and what follows it. -/
def splitSign : List Char → Bool × List Char
  | '-' :: rest => (true, rest)
  | '+' :: rest => (false, rest)
  | cs => (false, cs)

def signed (negative : Bool) (n : Nat) : Int := if negative then -n else n

/-- The most digits of a whole number in base ten. -/
def digitLimit : Nat := 4300

def baseMark (base : Nat) : List Char :=
  match base with
  | 2 => ['b', 'B']
  | 8 => ['o', 'O']
  | 16 => ['x', 'X']
  | _ => []

def dropMark (base : Nat) : List Char → List Char
  | '0' :: m :: rest => if (baseMark base).contains m then rest else '0' :: m :: rest
  | cs => cs

/-- A digit of a base up to ten, or of base sixteen. -/
def isDigitIn (base : Nat) (c : Char) : Bool :=
  if base ≤ 10 then Text.isDigitOf base c else Text.isHexDigit c

/-- The number that digits of base ten write, of which there may not be too many. -/
def ofDigits (digits : List Char) : Except Fault Nat :=
  if digitLimit < digits.length then .error (.tooManyDigits digits.length)
  else .ok (Text.valueOf 10 digits)

def whole (base : Nat) (cs : List Char) : Except Fault Int := do
  let (negative, rest) := splitSign (normal cs)
  let body := dropMark base rest
  let digits := body.takeWhile (isDigitIn base)
  let n ← if base = 10 then ofDigits digits else .ok (Text.valueOf base digits)
  if digits.isEmpty || digits.length < body.length then .error (.noNumeral base (String.ofList cs))
  else return signed negative n

/-- The names of what is no finite number, in small letters. -/
def special? (negative : Bool) (cs : List Char) : Option Double :=
  let word := String.ofList (cs.map Char.toLower)
  if word = "nan" then some .nan
  else if word = "inf" || word = "infinity" then some (.infinite negative)
  else none

def exponent? : List Char → Option Int
  | [] => some 0
  | e :: rest =>
    let (negative, digits) := splitSign rest
    if (e == 'e' || e == 'E') && !digits.isEmpty && digits.all Char.isDigit then
      some (signed negative (Text.valueOf 10 digits))
    else none

/-- The number nearest to a decimal number without blanks. -/
def decimal? (cs : List Char) : Option Double :=
  let (negative, body) := splitSign cs
  let front := body.takeWhile Char.isDigit
  let behind := body.dropWhile Char.isDigit
  let (fraction, tail) :=
    match behind with
    | '.' :: rest => (rest.takeWhile Char.isDigit, rest.dropWhile Char.isDigit)
    | _ => ([], behind)
  let digits := front ++ fraction
  if digits.isEmpty then special? negative body
  else (exponent? tail).map fun e =>
    .ofDecimal negative (Text.valueOf 10 digits) (e - fraction.length)

/-- The number nearest to the decimal number that a text writes. -/
def decimal (cs : List Char) : Except Fault Double :=
  match decimal? (normal cs) with
  | some x => .ok x
  | none => .error (.noDecimal (String.ofList cs))

end SchemaDrift.Document.Numeral
