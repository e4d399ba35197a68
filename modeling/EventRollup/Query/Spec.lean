import EventRollup.Granularity
import EventRollup.Time.Range

namespace EventRollup

structure Dimension where
  field : String
  op : Option FilterOperator
  value : Option Json
deriving DecidableEq

/-- A field to aggregate, or the configured count measure. The order is honoured only where nothing
is binned. -/
structure Measure where
  field : String
  op : Option AggregateOperator
  sort : Option SortDirection
deriving DecidableEq

def Measure.effective (m : Measure) : AggregateOperator := m.op.getD .sum

/-- A typed aggregation request against the namespace `ns`. Without a range it takes every document
that has a timestamp. -/
structure QuerySpec where
  ns : String
  range : Option TimeRange
  dimensions : List Dimension
  measures : List Measure
  granularity : Granularity
  limit : Option Nat
  timestampField : Option String
  debug : Bool
deriving DecidableEq

structure ScanRequest where
  ns : String
  range : Option TimeRange
  limit : Option Nat
  order : SortDirection
  timestampField : Option String
  debug : Bool
deriving DecidableEq

def ScanRequest.standardLimit : Nat := 100

end EventRollup
