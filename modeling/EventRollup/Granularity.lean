import EventRollup.Operator
import EventRollup.Time.Instant

namespace EventRollup

inductive DatePart where
  | year
  | month
  | day
  | hour
  | minute
  | second
deriving DecidableEq

namespace DatePart

def key : DatePart → String
  | .year => "year"
  | .month => "month"
  | .day => "day"
  | .hour => "hour"
  | .minute => "minute"
  | .second => "second"

def storeOperator : DatePart → String
  | .year => "$year"
  | .month => "$month"
  | .day => "$dayOfMonth"
  | .hour => "$hour"
  | .minute => "$minute"
  | .second => "$second"

def extract (part : DatePart) (t : Instant) : Int :=
  match part with
  | .year => t.date.year
  | .month => t.date.month
  | .day => t.date.day
  | .hour => t.hour
  | .minute => t.minute
  | .second => t.second

end DatePart

inductive Granularity where
  | all
  | day
  | hour
  | minute
  | second
deriving DecidableEq

namespace Granularity

def name : Granularity → String
  | .all => "all"
  | .day => "day"
  | .hour => "hour"
  | .minute => "minute"
  | .second => "second"

def isBinned : Granularity → Bool
  | .all => false
  | _ => true

def dateParts : Granularity → List DatePart
  | .all => []
  | .day => [.year, .month, .day]
  | .hour => [.year, .month, .day, .hour]
  | .minute => [.year, .month, .day, .hour, .minute]
  | .second => [.year, .month, .day, .hour, .minute, .second]

def every : List Granularity := [.all, .day, .hour, .minute, .second]

def ofName? (name : String) : Option Granularity := every.find? fun g => g.name = name

def parse (raw : String) : Except UnknownName Granularity :=
  match ofName? (Text.trim raw) with
  | some g => .ok g
  | none => .error (.granularity raw)

/-- The instant a bucket starts at, from its components in order: year, month and day, then hour,
minute and second as far as they are given. -/
def bucketStart? : List Int → Option Instant
  | y :: m :: d :: time =>
    Instant.ofCivil? ⟨y, m, d⟩ (time.getD 0 0) (time.getD 1 0) (time.getD 2 0)
  | _ => none

def truncate (g : Granularity) (t : Instant) : Instant :=
  match g with
  | .all => t
  | g => (bucketStart? (g.dateParts.map (·.extract t))).getD t

end Granularity

end EventRollup
