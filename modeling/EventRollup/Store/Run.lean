import EventRollup.Store.Group
import EventRollup.Store.Match

namespace EventRollup

def Filter.run (f : Filter) : List Document → Except StoreFault (List Document)
  | [] => .ok []
  | d :: r => do
    let passes ← f.accepts d
    let rest ← f.run r
    .ok (if passes then d :: rest else rest)

def Projection.takeFrom : List FieldName → Document → Document → Document
  | [], _, taken => taken
  | f :: r, left, taken =>
    match left.get? f.text with
    | some v => takeFrom r (left.erase f.text) (taken.insert f.text v)
    | none => takeFrom r left taken

def Projection.apply (p : Projection) (d : Document) : Document := takeFrom p.fields d []

def Stage.run (s : Stage) (docs : List Document) : Except StoreFault (List Document) :=
  match s with
  | .filter f => f.run docs
  | .project p => .ok (docs.map p.apply)
  | .group g => g.run docs
  | .sort s => .ok (Document.sortBy s.named docs)
  | .limit n => .ok (docs.take n)

def runStages : List Stage → List Document → Except StoreFault (List Document)
  | [], docs => .ok docs
  | s :: r, docs => do
    let docs ← s.run docs
    runStages r docs

def Pipeline.run (p : Pipeline) (docs : List Document) : Except StoreFault (List Document) :=
  runStages p.stages docs

def limited (limit : Option Nat) (docs : List Document) : List Document :=
  match limit with
  | some n => docs.take n
  | none => docs

def Filter.find (f : Filter) (options : FindOptions) (docs : List Document) :
    Except StoreFault (List Document) := do
  let found ← f.run docs
  .ok (limited options.limit (Document.sortBy options.keys found))

end EventRollup
