import EventRollup.Store.Accumulator

namespace EventRollup

def readInstant (fromString : Bool) (v : Option Json) : Except StoreFault Instant :=
  match v with
  | none => .error .missingDate
  | some v =>
    if fromString then
      match v with
      | .string s =>
        match Timestamp.instant? s with
        | some t => .ok t
        | none => .error (.unreadableDateString s)
      | v => .error (.notDateString v)
    else
      match v.asDate? with
      | some t => .ok t
      | none => .error (.notDate v)

def KeyExpr.ofDocument (e : KeyExpr) (d : Document) : Except StoreFault (Option Json) :=
  match e with
  | .datePart part source fromString => do
    let t ← readInstant fromString (d.get? source.text)
    .ok (some (.int (part.extract t)))
  | .field source => .ok (d.get? source.text)

/-- A group being gathered. Its fingerprint, the compact text of its key, is what it is found by. -/
structure Bucket where
  fingerprint : String
  key : Document
  tallies : List Tally

namespace Bucket

def feed (b : Bucket) (accumulators : List Accumulator) (d : Document) : Bucket :=
  { b with
    tallies := List.zipWith (fun a t => t.feed (a.input.ofDocument d)) accumulators b.tallies }

def row (b : Bucket) (accumulators : List Accumulator) : Document :=
  Document.ofEntries
    ((groupKey, .object b.key) ::
      List.zipWith (fun a t => (a.output.text, Tally.result t)) accumulators b.tallies)

end Bucket

namespace Grouping

def keyFrom (d : Document) : List (String × KeyExpr) → Document → Except StoreFault Document
  | [], key => .ok key
  | (name, e) :: r, key => do
    match ← e.ofDocument d with
    | some v => keyFrom d r (key.insert name v)
    | none => keyFrom d r key

def keyOf (g : Grouping) (d : Document) : Except StoreFault Document := keyFrom d g.key []

def fingerprint (key : Document) : String := (Json.object key).compact

def newBucket (g : Grouping) (key : Document) : Bucket :=
  ⟨fingerprint key, key, g.accumulators.map fun a => .start a.op⟩

/-- Feeds a document to the bucket with the fingerprint of a fresh one, or to the fresh one behind
the others. -/
def addTo (g : Grouping) (fresh : Bucket) (d : Document) : List Bucket → List Bucket
  | [] => [fresh.feed g.accumulators d]
  | b :: r =>
    if b.fingerprint = fresh.fingerprint then b.feed g.accumulators d :: r
    else b :: g.addTo fresh d r

def gather (g : Grouping) : List Bucket → List Document → Except StoreFault (List Bucket)
  | buckets, [] => .ok buckets
  | buckets, d :: r => do
    let key ← g.keyOf d
    g.gather (g.addTo (g.newBucket key) d buckets) r

def run (g : Grouping) (docs : List Document) : Except StoreFault (List Document) := do
  let buckets ← g.gather [] docs
  .ok (buckets.map fun b => b.row g.accumulators)

end Grouping

end EventRollup
