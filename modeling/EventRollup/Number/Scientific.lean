import EventRollup.Number.Double
import EventRollup.Text.Digits

namespace EventRollup

structure Scientific where
  significand : Nat
  exponent : Int
deriving DecidableEq

namespace Scientific

def greatestSignificand : Nat := 18446744073709551615

def greatestExponent : Int := 2147483647

def leastExponent : Int := -2147483648

def addDigits : Nat → List Char → Nat × Nat
  | n, [] => (n, 0)
  | n, c :: r =>
    let m := 10 * n + Text.digitsValue [c]
    if m ≤ greatestSignificand then
      let (n, taken) := addDigits m r
      (n, taken + 1)
    else (n, 0)

/-- The digits before and after a point. Those before it that no longer fit only raise the exponent,
and those after it are left out. -/
def ofDigits (whole fraction : List Char) : Scientific :=
  let (n, taken) := addDigits 0 whole
  let (m, places) := addDigits n fraction
  ⟨m, (whole.length : Int) - taken - places⟩

def shift (s : Scientific) (places : Int) : Scientific :=
  ⟨s.significand, max leastExponent (min greatestExponent (s.exponent + places))⟩

def powerOfTen? (n : Nat) : Option Double := Double.ofDecimal? false 1 n

/-- Multiplies by a power of ten, in one rounded step where that power is a number itself and else
downwards in several. -/
def scale? (d : Double) (exponent : Int) : Option Double :=
  if 0 ≤ exponent then
    if d.ordinal = 0 then some d else (powerOfTen? exponent.toNat).bind d.mul?
  else if -308 ≤ exponent then (powerOfTen? exponent.natAbs).bind d.div?
  else if d.ordinal = 0 then some d
  else do
    let d ← (powerOfTen? 308).bind d.div?
    scale? d (exponent + 308)
termination_by exponent.natAbs

/-- The number to which the significand and then the scaling are rounded, unless that is beyond the
finite ones. It can differ from the nearest one in the last digit. -/
def toDouble? (s : Scientific) (negative : Bool) : Option Double := do
  let d ← Double.ofInt? s.significand
  let d ← scale? d s.exponent
  return ⟨negative, d.ordinal, d.finite⟩

end Scientific

end EventRollup
