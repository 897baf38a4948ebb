import SchemaDrift.Decimal.Double
import SchemaDrift.Fault
import SchemaDrift.Text.Case
import SchemaDrift.Text.DecimalDigit
import SchemaDrift.Text.Digits
import SchemaDrift.Text.WordTable

/-!
# Directives

A directive in a layout names a value in parentheses behind a percent sign and says how to write
it: flags, a width, a precision, and the letter of a conversion, as in `%(levelname)-8s`. Texts
are cut off at the precision; whole numbers have at least as many digits as it says.
-/

namespace SchemaDrift.Log

open Document (Value)

/-- The flags of a directive. -/
structure Flags where
  left : Bool := false
  plus : Bool := false
  /-- A number that is not negative has a blank for a sign. -/
  blank : Bool := false
  /-- The base of a number is marked, and its point is kept. -/
  alternate : Bool := false
  zero : Bool := false
  deriving Repr, DecidableEq

/-- What is left to values: a star in place of a width or of a precision. -/
structure Stars where
  width : Bool := false
  precision : Bool := false
  deriving Repr, DecidableEq

def Stars.any (s : Stars) : Bool := s.width || s.precision

/-- How a value is to be written. -/
structure Directive where
  key : Option String
  flags : Flags := {}
  width : Nat := 0
  precision : Option Nat := none
  stars : Stars := {}
  conversion : Char
  /-- Where the letter of the conversion stands in the layout. -/
  position : Nat := 0
  deriving Repr, DecidableEq

/-- A part of a layout. -/
inductive Part where
  | literal (c : Char)
  | directive (d : Directive)
  /-- A directive that cannot be read any further, though its key and its stars can. -/
  | broken (key : Option String) (stars : Stars) (fault : Fault)
  deriving Repr, DecidableEq

/-! ### Reading -/

def flagMarks : List Char := ['-', '+', ' ', '#', '0']

def Flags.ofMarks (cs : List Char) : Flags where
  left := cs.contains '-'
  plus := cs.contains '+'
  blank := cs.contains ' '
  alternate := cs.contains '#'
  zero := cs.contains '0'

/-- What parentheses hold behind the opening one, and what follows them; `depth` are open. -/
def splitKey (depth : Nat) : List Char → Option (List Char × List Char)
  | [] => none
  | c :: rest =>
    let inside := if c = '(' then depth + 1 else if c = ')' then depth - 1 else depth
    if inside = 0 then some ([], rest)
    else (splitKey inside rest).map fun r => (c :: r.1, r.2)

/-- The key in parentheses at the front, if there is one, and what follows it. -/
def takeKey : List Char → Option (Option String × List Char)
  | '(' :: inside => (splitKey 1 inside).map fun r => (some (String.ofList r.1), r.2)
  | cs => some (none, cs)

/-- A width or precision: a star, a number or nothing. -/
structure Amount where
  starred : Bool
  number : Option Nat
  rest : List Char

def takeAmount : List Char → Amount
  | '*' :: rest => ⟨true, none, rest⟩
  | cs =>
    let digits := cs.takeWhile Char.isDigit
    ⟨false, if digits.isEmpty then none else some (Text.valueOf 10 digits),
      cs.dropWhile Char.isDigit⟩

/-- The precision at the front, behind a point; a point alone is a precision of zero. -/
def takePrecision : List Char → Amount
  | '.' :: rest =>
    let a := takeAmount rest
    { a with number := if a.starred then none else some (a.number.getD 0) }
  | cs => ⟨false, none, cs⟩

/-- The letters that may stand before a conversion and mean nothing. -/
def sizeMarks : List Char := ['h', 'l', 'L']

/-- What follows a letter that means nothing. -/
def dropSize : List Char → List Char
  | c :: rest => if sizeMarks.contains c then rest else c :: rest
  | [] => []

def widthBound : Nat := Nat.pow 2 63

def precisionBound : Nat := Nat.pow 2 31

/-- Reads what follows the key of a directive, up to its conversion. -/
def readConversion (total : Nat) (key : Option String) (flags : Flags) (width precision : Amount) :
    Part × List Char :=
  let stars : Stars := ⟨width.starred, precision.starred⟩
  match dropSize precision.rest with
  | [] => (.broken key stars .unfinishedDirective, [])
  | conversion :: rest =>
    (.directive {
      key, flags, stars, conversion
      width := width.number.getD 0
      precision := precision.number
      position := total - rest.length - 1 }, rest)

/-- Reads a directive behind its percent sign in a layout of `total` characters. -/
def readDirective (total : Nat) (cs : List Char) : Part × List Char :=
  match takeKey cs with
  | none => (.broken none {} .unclosedKey, [])
  | some (key, behind) =>
    let width := takeAmount (behind.dropWhile flagMarks.contains)
    let precision := takePrecision width.rest
    if width.number.any (widthBound ≤ ·) then (.broken key {} .widthTooLarge, [])
    else if precision.number.any (precisionBound ≤ ·) then
      (.broken key { width := width.starred } .precisionTooLarge, [])
    else
      readConversion total key (.ofMarks (behind.takeWhile flagMarks.contains)) width precision

/-- Reads the parts of a layout of `total` characters. A doubled percent sign is a plain one;
`fuel` bounds the number of parts. -/
def readParts (total : Nat) : (fuel : Nat) → List Char → List Part
  | 0, _ => []
  | _ + 1, [] => []
  | fuel + 1, '%' :: '%' :: rest => .literal '%' :: readParts total fuel rest
  | fuel + 1, '%' :: rest =>
    let (part, behind) := readDirective total rest
    part :: readParts total fuel behind
  | fuel + 1, c :: rest => .literal c :: readParts total fuel rest

/-! ### Recognising -/

/-- A letter, a number or an underscore of any script. -/
def isKeyChar (c : Char) : Bool := c == '_' || Text.inRanges Text.alphanumericRanges c.toNat

/-- The letters of conversions in any case, and two letters whose capitals are among them. -/
def conversionMarks : List Char :=
  "diouxefgcrsaDIOUXEFGCRSA%".toList ++ ['\u0131', '\u0130', '\u017f']

def isDecimal (c : Char) : Bool := (Text.decimalValue? c).isSome

/-- What follows a star or a number at the front, whose digits may be of any script. -/
def dropAmount : List Char → List Char
  | '*' :: rest => rest
  | cs => cs.dropWhile isDecimal

/-- Whether a complete directive with a plain key stands behind a percent sign. -/
def isComplete : List Char → Bool
  | '(' :: inside =>
    let key := inside.takeWhile isKeyChar
    match inside.dropWhile isKeyChar with
    | ')' :: behind =>
      let rest := dropAmount (behind.dropWhile flagMarks.contains)
      let rest :=
        match rest with
        | '.' :: tail => if (dropAmount tail).length < tail.length then dropAmount tail else rest
        | _ => rest
      !key.isEmpty && rest.head?.any conversionMarks.contains
    | _ => false
  | _ => false

/-- Whether a complete directive with a plain key stands somewhere in a text. -/
def holdsDirective : List Char → Bool
  | [] => false
  | c :: rest => c == '%' && isComplete rest || holdsDirective rest

/-! ### Writing -/

/-- A text of some width: a number has its sign and the mark of its base in front of its zeros. -/
def padded (flags : Flags) (width : Nat) (isNumber : Bool) (sign body : String) : String :=
  let missing := width - (sign.length + body.length)
  let fill (c : Char) := String.ofList (List.replicate missing c)
  if flags.left then sign ++ body ++ fill ' '
  else if flags.zero && isNumber then sign ++ fill '0' ++ body
  else fill ' ' ++ sign ++ body

def signOf (flags : Flags) (negative : Bool) : String :=
  if negative then "-" else if flags.plus then "+" else if flags.blank then " " else ""

/-- The digits of a number, with zeros in front up to a count. -/
def digitsOf (base count n : Nat) : String :=
  let digits := Nat.toDigits base n
  String.ofList (List.replicate (count - digits.length) '0' ++ digits)

def baseMark (base : Nat) : String := if base = 8 then "0o" else if base = 16 then "0x" else ""

def wholeText (d : Directive) (base : Nat) (n : Int) : String :=
  let mark := if d.flags.alternate then baseMark base else ""
  padded d.flags d.width true (signOf d.flags (n < 0) ++ mark)
    (digitsOf base (d.precision.getD 0) n.natAbs)

/-- A fraction of zeros; the point of none is kept only on demand. -/
def zeroFraction (alternate : Bool) (places : Nat) : String :=
  if places = 0 then if alternate then "." else ""
  else "." ++ String.ofList (List.replicate places '0')

/-- Digits as a fraction, whose zeros at the end are kept only on demand. -/
def fractionText (keepZeros keepPoint : Bool) (digits : List Char) : String :=
  let kept := if keepZeros then digits else (digits.reverse.dropWhile (· == '0')).reverse
  if kept.isEmpty && !keepPoint then "" else "." ++ String.ofList kept

/-- A number rounded to one digit and `places` more, and the exponent of the first digit. -/
def scientific (places n : Nat) : Nat × Nat :=
  let exponent := (Nat.toDigits 10 n).length - 1
  let rounded := Double.roundedQuotient (n * Nat.pow 10 places) (Nat.pow 10 exponent)
  if rounded = Nat.pow 10 (places + 1) then (Nat.pow 10 places, exponent + 1)
  else (rounded, exponent)

def exponentText (keepZeros alternate : Bool) (places n : Nat) : String :=
  let (rounded, exponent) := scientific places n
  let digits := (digitsOf 10 (places + 1) rounded).toList
  String.ofList (digits.take 1) ++ fractionText keepZeros alternate (digits.drop 1) ++
    "e+" ++ digitsOf 10 2 exponent

/-- A number in as many digits as the precision says, with an exponent where it needs more. -/
def generalText (alternate : Bool) (precision n : Nat) : String :=
  let count := max precision 1
  let exponent := (scientific (count - 1) n).2
  if exponent < count then
    toString n ++ if alternate then zeroFraction true (count - 1 - exponent) else ""
  else exponentText alternate alternate (count - 1) n

/-- The magnitude of a whole number in double precision. -/
def magnitude (n : Int) : Except Fault Nat :=
  match (Double.ofInt n).toRat? with
  | some r => .ok r.num.natAbs
  | none => .error .tooLarge

/-- A whole number written as one with a fraction. -/
def realText (d : Directive) (n : Int) : Except Fault String := do
  let places := d.precision.getD 6
  let alternate := d.flags.alternate
  let size ← magnitude n
  let body :=
    match d.conversion.toLower with
    | 'e' => exponentText true alternate places size
    | 'f' => toString size ++ zeroFraction alternate places
    | _ => generalText alternate places size
  return padded d.flags d.width true (signOf d.flags (n < 0)) body

def cutText (d : Directive) (s : String) : String :=
  let kept :=
    match d.precision with
    | some count => String.ofList (s.toList.take count)
    | none => s
  padded d.flags d.width false "" kept

/-- A character of some width: a text of one, or the one of a number. -/
def charText (d : Directive) (v : Value) : Except Fault String :=
  match v with
  | .text s => if s.length = 1 then .ok (padded d.flags d.width false "" s) else .error .wrongShape
  | v =>
    match v.asInt? with
    | none => .error .wrongShape
    | some n =>
      if n < 0 || 0x110000 ≤ n then .error .tooLarge
      else .ok (padded d.flags d.width false "" (String.singleton (Char.ofNat n.toNat)))

def wholeOf (v : Value) : Except Fault Int :=
  match v.asInt? with
  | some n => .ok n
  | none => .error .wrongShape

def Directive.write (d : Directive) (v : Value) : Except Fault String :=
  match d.conversion with
  | 's' => .ok (cutText d v.display)
  | 'r' => .ok (cutText d v.shown)
  | 'a' => .ok (cutText d (Text.inAscii v.shown))
  | 'd' | 'i' | 'u' => (wholeOf v).map (wholeText d 10)
  | 'o' => (wholeOf v).map (wholeText d 8)
  | 'x' => (wholeOf v).map (wholeText d 16)
  | 'X' => (wholeOf v).map fun n => (wholeText d 16 n).toUpper
  | 'e' | 'f' | 'g' => do realText d (← wholeOf v)
  | 'E' | 'F' | 'G' => do return (← realText d (← wholeOf v)).toUpper
  | 'c' => charText d v
  | other => .error (.unknownConversion other d.position)

end SchemaDrift.Log
