/-!
# Numbers of double precision

A number of double precision is an integer of at most 53 binary digits times a power of two, or
no finite number. A rational number is rounded to the nearest one, a tie to the one with an even
integer; sums and products are computed exactly and rounded once.
-/

namespace SchemaDrift

/-- A number of double precision. -/
inductive Double where
  /-- `mantissa` times two to the `exponent`. -/
  | finite (negative : Bool) (mantissa : Nat) (exponent : Int)
  | infinite (negative : Bool)
  | nan
  deriving Repr, DecidableEq

namespace Double

def minExponent : Int := -1074

def maxExponent : Int := 971

def mantissaBound : Nat := Nat.pow 2 53

/-- The quotient rounded to the nearest integer, a tie to the even one. -/
def roundedQuotient (num den : Nat) : Nat :=
  let q := num / den
  match compare (2 * (num % den)) den with
  | .lt => q
  | .gt => q + 1
  | .eq => if q % 2 = 0 then q else q + 1

/-- The quotient of a fraction by a power of two, rounded. -/
def scaledQuotient (num den : Nat) (exponent : Int) : Nat :=
  roundedQuotient (num * Nat.pow 2 (-exponent).toNat) (den * Nat.pow 2 exponent.toNat)

/-- The exponent under which a fraction has 53 binary digits, as far as there is one. -/
def exponentOf (num den : Nat) : Int :=
  let low := max ((num.log2 : Int) - den.log2 - 53) minExponent
  if mantissaBound * (den * Nat.pow 2 low.toNat) ≤ num * Nat.pow 2 (-low).toNat then low + 1
  else low

/-- The number with a mantissa that may have reached the bound. -/
def ofMantissa (negative : Bool) (mantissa : Nat) (exponent : Int) : Double :=
  let (m, q) :=
    if mantissa = mantissaBound then (mantissaBound / 2, exponent + 1) else (mantissa, exponent)
  if maxExponent < q then infinite negative else finite negative m q

def ofFraction (negative : Bool) (num den : Nat) : Double :=
  let exponent := exponentOf num den
  ofMantissa negative (scaledQuotient num den exponent) exponent

/-- The number nearest to an integer times a power of ten. -/
def ofDecimal (negative : Bool) (digits : Nat) (exponent : Int) : Double :=
  let length : Int := (Nat.toDigits 10 digits).length
  if digits = 0 || length + exponent < -330 then finite negative 0 minExponent
  else if 310 < length + exponent then infinite negative
  else ofFraction negative (digits * Nat.pow 10 exponent.toNat) (Nat.pow 10 (-exponent).toNat)

def ofInt (n : Int) : Double := ofDecimal (n < 0) n.natAbs 0

def zero : Double := finite false 0 minExponent

def toRat? : Double → Option Rat
  | finite negative m q =>
    let size := mkRat (m * Nat.pow 2 q.toNat : Nat) (Nat.pow 2 (-q).toNat)
    some (if negative then -size else size)
  | _ => none

/-- The number nearest to a rational number; `negative` is the sign of a zero. -/
def ofRat (negative : Bool) (r : Rat) : Double :=
  if r = 0 then finite negative 0 minExponent else ofFraction (r < 0) r.num.natAbs r.den

def isNegative : Double → Bool
  | finite negative _ _ => negative
  | infinite negative => negative
  | nan => false

def neg : Double → Double
  | finite negative m q => finite (!negative) m q
  | infinite negative => infinite (!negative)
  | nan => nan

def add : Double → Double → Double
  | infinite a, infinite b => if a = b then infinite a else nan
  | nan, _ | _, nan => nan
  | infinite a, _ | _, infinite a => infinite a
  | x, y => ofRat (x.isNegative && y.isNegative) (x.toRat?.getD 0 + y.toRat?.getD 0)

def mul (x y : Double) : Double :=
  let negative := x.isNegative != y.isNegative
  match x.toRat?, y.toRat? with
  | some r, some s => ofRat negative (r * s)
  | _, _ =>
    if x = nan || y = nan || x.toRat? = some 0 || y.toRat? = some 0 then nan
    else infinite negative

/-- Where a number stands: at a rational one, beyond all of these, or nowhere. -/
inductive Position where
  | below
  | exactly (r : Rat)
  | above
  | nowhere

namespace Position

def isAtMost : Position → Position → Bool
  | nowhere, _ | _, nowhere => false
  | below, _ | _, above => true
  | exactly r, exactly s => r ≤ s
  | above, _ | _, below => false

def isBelow : Position → Position → Bool
  | nowhere, _ | _, nowhere => false
  | exactly r, exactly s => r < s
  | below, exactly _ | below, above | exactly _, above => true
  | above, _ | _, below => false

end Position

def position : Double → Position
  | infinite negative => if negative then .below else .above
  | x =>
    match x.toRat? with
    | some r => .exactly r
    | none => .nowhere

theorem position_of_toRat? {x : Double} {r : Rat} (h : x.toRat? = some r) :
    x.position = .exactly r := by
  cases x with
  | finite negative m q => simp only [position, h]
  | infinite _ | nan => cases h

def isAtMostZero : Double → Bool
  | finite negative m _ => negative || m = 0
  | infinite negative => negative
  | nan => false

def isNonzero (x : Double) : Bool := x.toRat? ≠ some 0

end Double

end SchemaDrift
