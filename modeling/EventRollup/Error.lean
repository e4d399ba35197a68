import EventRollup.Json.Printer

namespace EventRollup

inductive UnknownName where
  | filterOperator (raw : String)
  | aggregateOperator (raw : String)
  | sortDirection (raw : String)
  | granularity (raw : String)
deriving DecidableEq

def UnknownName.message : UnknownName → String
  | .filterOperator raw => "unsupported filter operator: " ++ raw
  | .aggregateOperator raw => "unsupported aggregate operator: " ++ raw
  | .sortDirection raw => "unsupported sort direction: " ++ raw
  | .granularity raw => "unknown granularity: " ++ raw

inductive FieldFault where
  | empty
  | leadingDollar
  | nestedPath
  | nulCharacter
  | groupingKey
  | timestampAsBinnedDimension
  | calendarPart
  | timestampAsBinnedMeasure
  | alsoDimension
  | repeatedMeasure
deriving DecidableEq

def FieldFault.reason : FieldFault → String
  | .empty => "field name is empty"
  | .leadingDollar => "field name must not start with '$'"
  | .nestedPath => "nested field paths are not supported"
  | .nulCharacter => "field name contains a NUL byte"
  | .groupingKey => "'_id' is reserved for the grouping key"
  | .timestampAsBinnedDimension => "the timestamp field cannot be a dimension of a binned query"
  | .calendarPart => "collides with a calendar component of the grouping key"
  | .timestampAsBinnedMeasure => "the timestamp field cannot be a measure of a binned query"
  | .alsoDimension => "used as both a dimension and a measure"
  | .repeatedMeasure => "measure declared more than once"

/-- Why a value is not an instant. A range that would start `outOfReach`, before the first year or
after the last one, has no answer at all: what asked for it is aborted. -/
inductive TimestampFault where
  | unreadableText
  | millisOutOfRange
  | notExtendedDate
  | storedObjectNotDate
  | wrongType
  | storedWrongType
  | outOfReach
deriving DecidableEq

def TimestampFault.reason : TimestampFault → String
  | .unreadableText => "not an RFC 3339 or ISO 8601 date"
  | .millisOutOfRange => "epoch milliseconds out of range"
  | .notExtendedDate => "not an extended-JSON date"
  | .storedObjectNotDate => "object is not an extended-JSON date"
  | .wrongType => "expected a date string or number"
  | .storedWrongType => "expected a date, string or number"
  | .outOfReach => "beyond the calendar"

inductive FilterFault where
  | missingOperand
  | membersNotArray
  | invalidPattern
  | patternNotString
  | presenceNotBoolean
deriving DecidableEq

def FilterFault.reason : FilterFault → String
  | .missingOperand => "comparison requires a value"
  | .membersNotArray => "membership requires an array of values"
  | .invalidPattern => "invalid pattern"
  | .patternNotString => "regex requires a string pattern"
  | .presenceNotBoolean => "exists requires a boolean"

inductive RequestFault where
  | malformed
  | unknownName (name : UnknownName)
  | limitNotInteger (text : String)
deriving DecidableEq

/-- What a store reports: a condition or a date part that it cannot evaluate, or that it cannot be
reached. -/
inductive StoreFault where
  | patternNotString
  | invalidPattern
  | unreadableDateString (text : String)
  | notDate (value : Json)
  | notDateString (value : Json)
  | missingDate
  | outage (text : String)
deriving DecidableEq

inductive Error where
  | namespaceNotAllowed (name : String)
  | unknownRangePreset (name : String)
  | timestamp (value : String) (fault : TimestampFault)
  | invalidFieldName (field : String) (fault : FieldFault)
  | invalidFilter (field : String) (fault : FilterFault)
  | invalidRequest (fault : RequestFault)
  | store (fault : StoreFault)
deriving DecidableEq

namespace Error

/-- Everything but a store failure is found before the store is asked. -/
def isRejection : Error → Bool
  | .store _ => false
  | _ => true

def timestampMessage (value : String) (fault : TimestampFault) : String :=
  "invalid timestamp '" ++ value ++ "': " ++ fault.reason

end Error

def StoreFault.message : StoreFault → String
  | .patternNotString => "$regex needs a string"
  | .invalidPattern => "invalid $regex"
  | .unreadableDateString text =>
    "$dateFromString failed: " ++ Error.timestampMessage text .unreadableText
  | .notDate value => "can't convert " ++ value.compact ++ " to a date"
  | .notDateString value => "can't parse " ++ value.compact ++ " as a date string"
  | .missingDate => "can't convert a missing value to a date"
  | .outage text => text

def Error.message : Error → String
  | .namespaceNotAllowed name => "namespace not allowed: " ++ name
  | .unknownRangePreset name => "unknown range preset: " ++ name
  | .timestamp value fault => timestampMessage value fault
  | .invalidFieldName field fault => "invalid field name '" ++ field ++ "': " ++ fault.reason
  | .invalidFilter field fault => "invalid filter on '" ++ field ++ "': " ++ fault.reason
  | .invalidRequest .malformed => "invalid request"
  | .invalidRequest (.unknownName name) => "invalid request: " ++ name.message
  | .invalidRequest (.limitNotInteger text) =>
    "invalid request: limit is not an integer: " ++ text
  | .store fault => "store error: " ++ fault.message

end EventRollup
