import EventRollup.Pipeline.Stage
import EventRollup.Store.Order

namespace EventRollup

/-- The running state of one output of one group. A double total that has left the finite numbers
stays lost and ends as null. -/
inductive Tally where
  | integer (total : Int)
  | double (total : Option Double)
  | mean (total : Option Double) (count : Nat)
  | least (found : Option Json)
  | greatest (found : Option Json)
  | first (found : Option Json)
  | last (found : Json)
deriving DecidableEq

namespace Tally

def start : AggregateOperator → Tally
  | .sum => .integer 0
  | .avg => .mean (some .zero) 0
  | .min => .least none
  | .max => .greatest none
  | .first => .first none
  | .last => .last .null

def addDouble (total : Option Double) (n : Number) : Option Double := do
  let t ← total
  let d ← n.toDouble?
  t.add? d

/-- Adds to an integer total. It turns into a double as soon as a number is not an integer of 64
bits or the total would not be one. -/
def addInteger (total : Int) (n : Number) : Tally :=
  match n.toInt64? with
  | some i =>
    if Text.leastInt64 ≤ total + i ∧ total + i ≤ Text.greatestInt64 then .integer (total + i)
    else .double (addDouble (Double.ofInt? total) (.int i))
  | none => .double (addDouble (Double.ofInt? total) n)

/-- The better of what was found and a value that is not null; of equals the earlier stays. -/
def better (wins : Ordering → Bool) (found : Option Json) (v : Json) : Option Json :=
  match found with
  | none => some v
  | some w => if wins (Json.compare v w) then some v else some w

/-- Takes in what one document holds. Sums and means look at numbers alone, extremes at whatever is
not null; a missing field counts as null for the first and the last. -/
def feed (t : Tally) (v : Option Json) : Tally :=
  match t, v with
  | .integer total, some (.number n) => addInteger total n
  | .integer total, _ => .integer total
  | .double total, some (.number n) => .double (addDouble total n)
  | .double total, _ => .double total
  | .mean total count, some (.number n) => .mean (addDouble total n) (count + 1)
  | .mean total count, _ => .mean total count
  | .least found, some v => if v.isNull then .least found else .least (better Ordering.isLT found v)
  | .least found, none => .least found
  | .greatest found, some v =>
    if v.isNull then .greatest found else .greatest (better Ordering.isGT found v)
  | .greatest found, none => .greatest found
  | .first (some w), _ => .first (some w)
  | .first none, v => .first (some (v.getD .null))
  | .last _, v => .last (v.getD .null)

def ofDouble (d : Option Double) : Json := d.elim .null fun d => .number (.double d)

def result : Tally → Json
  | .integer total => .int total
  | .double total => ofDouble total
  | .mean total count => if count = 0 then .null else ofDouble (total.bind (·.divNat? count))
  | .least found => found.getD .null
  | .greatest found => found.getD .null
  | .first found => found.getD .null
  | .last found => found

end Tally

def AccumulatorInput.ofDocument (input : AccumulatorInput) (d : Document) : Option Json :=
  match input with
  | .constant n => some (.int n)
  | .field source => d.get? source.text

end EventRollup
