import SchemaDrift.Decimal.Double

/-!
# Shortest decimals

A number of double precision is shown by the fewest decimal digits that lead back to it; of two
candidates of that length the nearer one counts, of two equally near ones the even one.
`Double.shown` lays the digits out: with a point in its place for exponents from -4 to 15, and
with an exponent of at least two digits beyond.
-/

namespace SchemaDrift

/-- A decimal number: an integer times a power of ten. -/
structure Decimal where
  digits : Nat
  exponent : Int
  deriving Repr, DecidableEq

namespace Decimal

/-- Compares a decimal number with an integer times a power of two. -/
def compareBinary (d : Decimal) (m : Nat) (q : Int) : Ordering :=
  compare (d.digits * Nat.pow 10 d.exponent.toNat * Nat.pow 2 (-q).toNat)
    (m * Nat.pow 2 q.toNat * Nat.pow 10 (-d.exponent).toNat)

/-- Whether a decimal number is nearer to `m` times two to the `q` than to any other number of
double precision; a number half way between two belongs to the one of even mantissa. -/
def leadsTo (d : Decimal) (m : Nat) (q : Int) : Bool :=
  let narrow := m * 2 == Double.mantissaBound && Double.minExponent < q
  let below := d.compareBinary (if narrow then 4 * m - 1 else 4 * m - 2) (q - 2)
  let above := d.compareBinary (4 * m + 2) (q - 2)
  let isEven := m % 2 == 0
  (below == .gt || isEven && below == .eq) && (above == .lt || isEven && above == .eq)

/-- The exponent of the leading digit of `m` times two to the `q`. -/
def leadingExponent (m : Nat) (q : Int) : Int :=
  let num := m * Nat.pow 2 q.toNat
  let den := Nat.pow 2 (-q).toNat
  let guess : Int := (Nat.toDigits 10 num).length - (Nat.toDigits 10 den).length
  if den * Nat.pow 10 guess.toNat ≤ num * Nat.pow 10 (-guess).toNat then guess else guess - 1

/-- The decimal number of a number of digits that leads to `m` times two to the `q`, if any. -/
def ofLength? (m : Nat) (q : Int) (count : Nat) : Option Decimal :=
  let exponent := leadingExponent m q - count + 1
  let num := m * Nat.pow 2 q.toNat * Nat.pow 10 (-exponent).toNat
  let den := Nat.pow 2 (-q).toNat * Nat.pow 10 exponent.toNat
  let low : Decimal := ⟨num / den, exponent⟩
  let high : Decimal := ⟨num / den + 1, exponent⟩
  let lowIsNearer :=
    match compare (2 * (num % den)) den with
    | .lt => true
    | .gt => false
    | .eq => low.digits % 2 == 0
  match low.leadsTo m q, high.leadsTo m q with
  | true, true => some (if lowIsNearer then low else high)
  | true, false => some low
  | false, true => some high
  | false, false => none

/-- The shortest decimal number that leads to `m` times two to the `q`. -/
def shortest (m : Nat) (q : Int) : Decimal :=
  let lengths := (List.range 17).map (· + 1)
  (lengths.findSome? (ofLength? m q)).getD
    ⟨m * Nat.pow 2 q.toNat * Nat.pow 5 (-q).toNat, min q 0⟩

/-- A decimal number without zeros at the end of its digits. -/
def trimmed : (fuel : Nat) → Decimal → Decimal
  | 0, d => d
  | fuel + 1, d =>
    if d.digits % 10 = 0 && d.digits ≠ 0 then trimmed fuel ⟨d.digits / 10, d.exponent + 1⟩ else d

/-- The digits laid out with a point in its place. -/
def positional (digits : List Char) (leading : Int) : List Char :=
  if leading < 0 then
    ['0', '.'] ++ List.replicate ((-leading).toNat - 1) '0' ++ digits
  else
    let count := leading.toNat + 1
    let whole := digits.take count ++ List.replicate (count - digits.length) '0'
    whole ++ '.' :: if digits.length ≤ count then ['0'] else digits.drop count

/-- The digits laid out in front of an exponent. -/
def scientific (digits : List Char) (leading : Int) : List Char :=
  let fraction := if digits.length ≤ 1 then [] else '.' :: digits.drop 1
  let size := (toString leading.natAbs).toList
  let padding := List.replicate (2 - size.length) '0'
  digits.take 1 ++ fraction ++ ['e', if leading < 0 then '-' else '+'] ++ padding ++ size

def render (d : Decimal) : List Char :=
  let d := d.trimmed 400
  let digits := Nat.toDigits 10 d.digits
  let leading := d.exponent + digits.length - 1
  if -4 ≤ leading && leading < 16 then positional digits leading else scientific digits leading

end Decimal

def Double.shown : Double → String
  | .nan => "nan"
  | .infinite negative => if negative then "-inf" else "inf"
  | .finite negative m q =>
    let size := if m = 0 then ['0', '.', '0'] else (Decimal.shortest m q).render
    String.ofList (if negative then '-' :: size else size)

end SchemaDrift
