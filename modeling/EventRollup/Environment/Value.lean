import EventRollup.Number.Decimal
import EventRollup.Text.Digits

namespace EventRollup

def Decimal.positional (d : Decimal) : List Char :=
  let ds := Nat.toDigits 10 d.digits
  let point : Int := ds.length + d.exponent
  if 0 ≤ d.exponent then ds ++ zeros d.exponent.toNat
  else if 0 < point then ds.take point.toNat ++ '.' :: ds.drop point.toNat
  else '0' :: '.' :: (zeros (-point).toNat ++ ds)

namespace Environment

inductive Real where
  | finite (d : Double)
  | infinite (negative : Bool)
  | undefined
deriving DecidableEq

/-- A tree of values. A place in a list that has been left out is absent. -/
inductive Value where
  | absent
  | flag (b : Bool)
  | integer (n : Int)
  | real (x : Real)
  | text (s : String)
  | list (items : List Value)
  | table (entries : List (String × Value))

def lower (s : String) : String := String.ofList (s.toList.map Char.toLower)

def exponent? : List Char → Option Int
  | [] => some 0
  | c :: r =>
    let signed (sign : Int) (r : List Char) : Option Int :=
      match Text.digitRun? r with
      | some (run, []) => some (sign * Text.digitsValue run)
      | _ => none
    if c = 'e' ∨ c = 'E' then
      match r with
      | '+' :: r => signed 1 r
      | '-' :: r => signed (-1) r
      | r => signed 1 r
    else none

def decimal? (negative : Bool) (cs : List Char) : Option Real := do
  let whole := cs.takeWhile Char.isDigit
  let (fraction, r) := match cs.dropWhile Char.isDigit with
    | '.' :: r => (r.takeWhile Char.isDigit, r.dropWhile Char.isDigit)
    | r => ([], r)
  if whole.isEmpty ∧ fraction.isEmpty then none
  let e ← exponent? r
  some (match Double.ofDecimal? negative (Text.digitsValue (whole ++ fraction))
      (e - fraction.length) with
    | some d => .finite d
    | none => .infinite negative)

def real? (s : String) : Option Real :=
  let unsigned (negative : Bool) (cs : List Char) : Option Real :=
    let name := lower (String.ofList cs)
    if name = "inf" ∨ name = "infinity" then some (.infinite negative)
    else if name = "nan" then some .undefined
    else decimal? negative cs
  match s.toList with
  | '+' :: r => unsigned false r
  | '-' :: r => unsigned true r
  | cs => unsigned false cs

def Real.text : Real → String
  | .finite d => String.ofList
    ((if d.negative then ['-'] else []) ++ (Decimal.shortest d.ordinal).positional)
  | .infinite negative => if negative then "-inf" else "inf"
  | .undefined => "NaN"

/-- The nearest whole number, halves going up, within 64 bits and not below zero. -/
def Real.toCount : Real → Nat
  | .finite d =>
    if d.negative then 0
    else min ((2 * Double.magnitude d.ordinal + Double.unitsPerOne) / (2 * Double.unitsPerOne))
      18446744073709551615
  | .infinite negative => if negative then 0 else 18446744073709551615
  | .undefined => 0

namespace Value

def parse (wantsList : Bool) (s : String) : Value :=
  if lower s = "true" then .flag true
  else if lower s = "false" then .flag false
  else match Text.toInt64? s with
    | some n => .integer n
    | none => match real? s with
      | some x => .real x
      | none => if wantsList then .list ((s.splitOn ",").map .text) else .text s

def toText? : Value → Option String
  | .flag b => some (if b then "true" else "false")
  | .integer n => some (toString n)
  | .real x => some x.text
  | .text s => some s
  | _ => none

def toFlag? : Value → Option Bool
  | .flag b => some b
  | .integer n => some (n != 0)
  | .real (.finite d) => some (d.ordinal != 0)
  | .real _ => some true
  | .text s =>
    if lower s ∈ ["1", "true", "on", "yes"] then some true
    else if lower s ∈ ["0", "false", "off", "no"] then some false
    else none
  | _ => none

def toCount? : Value → Option Nat
  | .flag b => some (if b then 1 else 0)
  | .integer n => if 0 ≤ n then some n.toNat else none
  | .real x => some x.toCount
  | .text s =>
    if lower s ∈ ["true", "on", "yes"] then some 1
    else if lower s ∈ ["false", "off", "no"] then some 0
    else none
  | _ => none

def toTexts? : Value → Option (List String)
  | .list items => items.mapM toText?
  | _ => none

end Value

end Environment

end EventRollup
