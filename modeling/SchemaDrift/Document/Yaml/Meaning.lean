import SchemaDrift.Document.Base64
import SchemaDrift.Document.Calendar
import SchemaDrift.Document.Numeral
import SchemaDrift.Document.Value
import SchemaDrift.Document.Yaml.Kind
import SchemaDrift.Text.Case

/-!
# What scalars of YAML mean

The value of a text of some kind. A kind that a tag announces may not fit the text; which fault
that is depends on where the reading of the text gets stuck.
-/

namespace SchemaDrift.Document.Yaml

def withoutGaps (cs : List Char) : List Char := cs.filter (· != '_')

def pieces : List Char → List (List Char)
  | [] => [[]]
  | c :: rest =>
    match pieces rest with
    | [] => [[c]]
    | first :: others => if c = ':' then [] :: first :: others else (c :: first) :: others

/-- Splits a sign off a text in which there has to be something. -/
def signOf : List Char → Except Fault (Bool × List Char)
  | [] => .error .noSuchPosition
  | cs => .ok (Numeral.splitSign cs)

/-- A whole number written in places of base sixty. -/
def sexagesimal (cs : List Char) : Except Fault Int := do
  let places ← (pieces cs).mapM (Numeral.whole 10)
  return places.foldl (fun n place => 60 * n + place) 0

/-- The number that a text without sign and underscores writes. -/
def unsignedInt (cs : List Char) : Except Fault Int :=
  match cs with
  | [] => .error .noSuchPosition
  | ['0'] => .ok 0
  | '0' :: 'b' :: digits => Numeral.whole 2 digits
  | '0' :: 'x' :: digits => Numeral.whole 16 digits
  | '0' :: _ => Numeral.whole 8 cs
  | _ => if cs.contains ':' then sexagesimal cs else Numeral.whole 10 cs

def int (cs : List Char) : Except Fault Int := do
  let (negative, body) ← signOf (withoutGaps cs)
  let n ← unsignedInt body
  return if negative then -n else n

def trueWords : List String := ["yes", "true", "on"]

def falseWords : List String := ["no", "false", "off"]

def bool (text : String) : Except Fault Bool :=
  let word := Text.lower text
  if trueWords.contains word then .ok true
  else if falseWords.contains word then .ok false
  else .error (.absentKey word)

/-- The sum of the places of a number, the last first, where the next one counts for `unit`. -/
def sumPlaces (sum : Double) (unit : Nat) : List Double → Except Fault Double
  | [] => .ok sum
  | place :: rest =>
    match Double.ofInt unit with
    | .infinite _ => .error .tooLarge
    | size => sumPlaces (sum.add (place.mul size)) (60 * unit) rest

/-- The number with a fraction that a text without sign and underscores writes. -/
def unsignedReal (cs : List Char) : Except Fault Double :=
  if cs = ".inf".toList then .ok (.infinite false)
  else if cs = ".nan".toList then .ok .nan
  else if cs.contains ':' then do
    let places ← (pieces cs).mapM Numeral.decimal
    sumPlaces .zero 1 places.reverse
  else Numeral.decimal cs

def real (text : String) : Except Fault Double := do
  let (negative, body) ← signOf (Text.lower (String.ofList (withoutGaps text.toList))).toList
  let x ← unsignedReal body
  return if negative then x.neg else x

/-- The first part of a point in time that is out of its range, if there is one. -/
def momentFault? (m : Kind.MomentParts) : Option MomentPart :=
  let (hour, minute, second) := m.time.getD (0, 0, 0)
  if m.year = 0 then some .year
  else if m.month = 0 || 12 < m.month then some .month
  else if m.day = 0 || daysIn m.year m.month < m.day then some .day
  else if 23 < hour then some .hour
  else if 59 < minute then some .minute
  else if 59 < second then some .second
  else none

def secondsPerDay : Nat := 86400

/-- The point in time that a text writes; what is wrong with its offset is noticed first. -/
def moment (text : String) : Except Fault Value :=
  match Kind.momentParts? text.toList with
  | none => .error .unsupported
  | some m =>
    let offset := m.offset.getD 0
    if secondsPerDay ≤ offset.natAbs then .error (.offsetTooLarge offset)
    else
      match momentFault? m with
      | none => .ok (.moment text)
      | some part => .error (.noSuchMoment part)

def binary (cs : List Char) : Except Fault Value :=
  match if cs.all (·.toNat < 128) then Base64.decode? cs else none with
  | some octets => .ok (.bytes octets)
  | none => .error .yamlSyntax

def meaning (kind : Kind) (text : String) : Except Fault Value :=
  match kind with
  | .null => .ok .null
  | .bool => (bool text).map .bool
  | .int => (int text.toList).map .int
  | .real => (real text).map .real
  | .moment => moment text
  | .binary => binary text.toList
  | .text => .ok (.text text)
  | _ => .error .yamlSyntax

end SchemaDrift.Document.Yaml
