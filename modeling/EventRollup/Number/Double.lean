namespace EventRollup

/-- The finite binary64 numbers. `ordinal` counts the representable magnitudes upwards from zero,
so magnitudes compare as their ordinals do, and the 64-bit word of a number is its ordinal below
the sign bit. There are 2047 blocks of `2 ^ 52` ordinals. -/
structure Double where
  negative : Bool
  ordinal : Nat
  finite : ordinal < 9218868437227405312
deriving DecidableEq

namespace Double

/-- The least positive number is one unit, `2 ^ -1074`; a whole one is this many units. -/
def unitsPerOne : Nat := Nat.pow 2 1074

/-- Units in the magnitude of the given ordinal. Up to `2 ^ 53` the two agree; from there on every
block of `2 ^ 52` ordinals doubles the step. -/
def magnitude (ordinal : Nat) : Nat :=
  if ordinal < 9007199254740992 then ordinal
  else (4503599627370496 + ordinal % 4503599627370496) *
    Nat.pow 2 (ordinal / 4503599627370496 - 1)

def units (d : Double) : Int :=
  if d.negative then -(magnitude d.ordinal : Int) else magnitude d.ordinal

def roundHalfEven (p q : Nat) : Nat :=
  if 2 * (p % q) < q then p / q
  else if q < 2 * (p % q) then p / q + 1
  else p / q + p / q % 2

/-- The ordinal whose magnitude is nearest to `p / q` units. Of two equally near ones the even
ordinal is taken, which is the one with the even significand. -/
def nearestOrdinal (p q : Nat) : Nat :=
  let shift := (p / q).log2 - 52
  shift * 4503599627370496 + roundHalfEven p (q * Nat.pow 2 shift)

def ofRatio? (negative : Bool) (p q : Nat) : Option Double :=
  if h : nearestOrdinal p q < 9218868437227405312 then some ⟨negative, nearestOrdinal p q, h⟩
  else none

def zero : Double := ⟨false, 0, by decide⟩

def ofInt? (n : Int) : Option Double :=
  ofRatio? (decide (n < 0)) (n.natAbs * unitsPerOne) 1

def roundedUnits (n : Int) : Int :=
  let m := magnitude (nearestOrdinal (n.natAbs * unitsPerOne) 1)
  if n < 0 then -(m : Int) else m

/-- The number nearest to `± digits * 10 ^ exponent`. The first two guards only keep the powers of
ten small: what they answer is what the rounding would. -/
def ofDecimal? (negative : Bool) (digits : Nat) (exponent : Int) : Option Double :=
  let width : Int := (Nat.toDigits 10 digits).length
  if digits = 0 ∨ width + exponent < -330 then some ⟨negative, 0, by decide⟩
  else if 310 < width + exponent then none
  else if 0 ≤ exponent then ofRatio? negative (digits * Nat.pow 10 exponent.toNat * unitsPerOne) 1
  else ofRatio? negative (digits * unitsPerOne) (Nat.pow 10 (-exponent).toNat)

/-- Rounded sum. An exact zero is negative only when both terms are. -/
def add? (a b : Double) : Option Double :=
  let s := a.units + b.units
  if s = 0 then some ⟨a.negative && b.negative, 0, by decide⟩
  else ofRatio? (decide (s < 0)) s.natAbs 1

def divNat? (d : Double) (n : Nat) : Option Double :=
  ofRatio? d.negative (magnitude d.ordinal) n

def mul? (a b : Double) : Option Double :=
  ofRatio? (a.negative != b.negative) (magnitude a.ordinal * magnitude b.ordinal) unitsPerOne

def div? (a b : Double) : Option Double :=
  if b.ordinal = 0 then none
  else
    ofRatio? (a.negative != b.negative) (magnitude a.ordinal * unitsPerOne) (magnitude b.ordinal)

def truncate (d : Double) : Int := d.units.tdiv unitsPerOne

def isInteger (d : Double) : Bool := decide (d.units % unitsPerOne = 0)

def word (d : Double) : Nat := (if d.negative then 9223372036854775808 else 0) + d.ordinal

end Double

end EventRollup
