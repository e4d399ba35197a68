import EventRollup.Number.Double

namespace EventRollup

structure Decimal where
  digits : Nat
  exponent : Int
deriving DecidableEq

namespace Decimal

/-- Which decimals are written positionally: those whose point, counted in places from the first
digit, lies between the two bounds. -/
structure Layout where
  leastPoint : Int
  greatestPoint : Int

def plainLayout : Layout := ⟨-4, 16⟩

/-- Candidates are compared on a scale on which the finest grid, that of seventeen digits of the
least number, still has a whole step: half units times `10 ^ 340`. -/
def scaled (halfUnits : Nat) : Nat := halfUnits * Nat.pow 10 340

def step (g : Nat) : Nat := Nat.pow 10 g * (2 * Double.unitsPerOne)

/-- Whether a scaled value reads back as the magnitude of this ordinal: it lies between the
midpoints to the neighbours, which belong to the even ordinal. -/
def readsBack (ordinal value : Nat) : Bool :=
  let u := Double.magnitude ordinal
  let low := scaled (u + Double.magnitude (ordinal - 1))
  let high := scaled (u + Double.magnitude (ordinal + 1))
  if ordinal % 2 = 0 then decide (low ≤ value ∧ value ≤ high)
  else decide (low < value ∧ value < high)

/-- The point of grid `g` nearest to the magnitude among its two neighbours there that read back. -/
def onGrid? (ordinal g : Nat) : Option Decimal :=
  let value := scaled (2 * Double.magnitude ordinal)
  let below := value / step g
  let pick (d : Nat) : Option Decimal := some ⟨d, (g : Int) - 340⟩
  match readsBack ordinal (below * step g), readsBack ordinal ((below + 1) * step g) with
  | true, true => pick (Double.roundHalfEven value (step g))
  | true, false => pick below
  | false, true => pick (below + 1)
  | false, false => none

def exact (ordinal : Nat) : Decimal := ⟨Double.magnitude ordinal * Nat.pow 5 1074, -1074⟩

def trimZeros : Nat → Decimal → Decimal
  | 0, d => d
  | fuel + 1, d =>
    if d.digits ≠ 0 ∧ d.digits % 10 = 0 then trimZeros fuel ⟨d.digits / 10, d.exponent + 1⟩ else d

/-- The fewest digits that read back, and of those the nearest. The grids are tried from one digit
to seventeen. -/
def shortest (ordinal : Nat) : Decimal :=
  if ordinal = 0 then ⟨0, 0⟩
  else
    let whole := Double.magnitude ordinal * Nat.pow 10 324 / Double.unitsPerOne
    let places := (Nat.toDigits 10 whole).length
    let found := (List.range 17).findSome? fun p => onGrid? ordinal (places + 15 - p)
    trimZeros 17 (found.getD (exact ordinal))

def zeros (n : Nat) : List Char := List.replicate n '0'

def render (layout : Layout) (d : Decimal) : List Char :=
  let ds := Nat.toDigits 10 d.digits
  let point : Int := ds.length + d.exponent
  if 0 ≤ d.exponent ∧ point ≤ layout.greatestPoint then
    ds ++ zeros d.exponent.toNat ++ ['.', '0']
  else if 0 < point ∧ point ≤ layout.greatestPoint then
    ds.take point.toNat ++ '.' :: ds.drop point.toNat
  else if layout.leastPoint ≤ point ∧ point ≤ 0 then
    '0' :: '.' :: (zeros (-point).toNat ++ ds)
  else
    let significand := match ds with
      | [c] => [c]
      | c :: r => c :: '.' :: r
      | [] => []
    let sign := if point - 1 < 0 then '-' else '+'
    significand ++ 'e' :: sign :: Nat.toDigits 10 (point - 1).natAbs

end Decimal

def Double.chars (d : Double) : List Char :=
  (if d.negative then ['-'] else []) ++
    Decimal.render Decimal.plainLayout (Decimal.shortest d.ordinal)

end EventRollup
