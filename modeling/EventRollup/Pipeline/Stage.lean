import EventRollup.Granularity
import EventRollup.Pipeline.Filter

namespace EventRollup

structure Projection where
  fields : List FieldName
deriving DecidableEq

namespace Projection

def empty : Projection := ⟨[]⟩

def keep (p : Projection) (field : FieldName) : Projection :=
  if field ∈ p.fields then p else ⟨p.fields ++ [field]⟩

def toJson (p : Projection) : Json :=
  .object (Document.ofEntries
    ((groupKey, .bool false) :: p.fields.map fun f => (f.text, .bool true)))

end Projection

/-- What computes one component of the grouping key: a calendar part of a timestamp, which may have
to be read from text first, or the value of a field. -/
inductive KeyExpr where
  | datePart (part : DatePart) (source : FieldName) (fromString : Bool)
  | field (source : FieldName)
deriving DecidableEq

namespace KeyExpr

def source : KeyExpr → FieldName
  | .datePart _ source _ => source
  | .field source => source

def toJson : KeyExpr → Json
  | .datePart part source true =>
    .object [(part.storeOperator,
      .object [("$dateFromString", .object [("dateString", .string source.reference)])])]
  | .datePart part source false => .object [(part.storeOperator, .string source.reference)]
  | .field source => .string source.reference

end KeyExpr

inductive AccumulatorInput where
  | constant (n : Int)
  | field (source : FieldName)
deriving DecidableEq

def AccumulatorInput.toJson : AccumulatorInput → Json
  | .constant n => .int n
  | .field source => .string source.reference

structure Accumulator where
  output : FieldName
  op : AggregateOperator
  input : AccumulatorInput
deriving DecidableEq

structure Grouping where
  key : List (String × KeyExpr)
  accumulators : List Accumulator
deriving DecidableEq

def Grouping.toJson (g : Grouping) : Json :=
  .object (Document.ofEntries
    ((groupKey, .object (Document.ofEntries (g.key.map fun k => (k.1, k.2.toJson)))) ::
      g.accumulators.map fun a =>
        (a.output.text, .object [(a.op.storeKey, a.input.toJson)])))

inductive SortKey where
  | groupKey
  | field (name : FieldName)
deriving DecidableEq

def SortKey.text : SortKey → String
  | .groupKey => EventRollup.groupKey
  | .field name => name.text

structure SortOrder where
  keys : List (SortKey × SortDirection)
deriving DecidableEq

namespace SortOrder

def named (s : SortOrder) : List (String × SortDirection) := s.keys.map fun k => (k.1.text, k.2)

/-- Sort keys as a document: a key that repeats keeps its first place and its last direction. -/
def document (keys : List (String × SortDirection)) : Document :=
  Document.ofEntries (keys.map fun k => (k.1, .int k.2.sign))

def toJson (s : SortOrder) : Json := .object (document s.named)

end SortOrder

inductive Stage where
  | filter (f : Filter)
  | project (p : Projection)
  | group (g : Grouping)
  | sort (s : SortOrder)
  | limit (n : Nat)
deriving DecidableEq

namespace Stage

def name : Stage → String
  | .filter _ => "$match"
  | .project _ => "$project"
  | .group _ => "$group"
  | .sort _ => "$sort"
  | .limit _ => "$limit"

def body : Stage → Json
  | .filter f => f.toJson
  | .project p => p.toJson
  | .group g => g.toJson
  | .sort s => s.toJson
  | .limit n => .nat n

def toJson (s : Stage) : Json := .object [(s.name, s.body)]

end Stage

structure Pipeline where
  stages : List Stage
deriving DecidableEq

namespace Pipeline

def toJson (p : Pipeline) : Json := .array (p.stages.map Stage.toJson)

def filter? (p : Pipeline) : Option Filter :=
  p.stages.findSome? fun | .filter f => some f | _ => none

def projection? (p : Pipeline) : Option Projection :=
  p.stages.findSome? fun | .project q => some q | _ => none

def grouping? (p : Pipeline) : Option Grouping :=
  p.stages.findSome? fun | .group g => some g | _ => none

def sortOrder? (p : Pipeline) : Option SortOrder :=
  p.stages.findSome? fun | .sort s => some s | _ => none

def limit? (p : Pipeline) : Option Nat :=
  p.stages.findSome? fun | .limit n => some n | _ => none

end Pipeline

structure FindOptions where
  sort : List (FieldName × SortDirection)
  limit : Option Nat
deriving DecidableEq

namespace FindOptions

def keys (o : FindOptions) : List (String × SortDirection) := o.sort.map fun k => (k.1.text, k.2)

def toJson (o : FindOptions) : Json :=
  .object [("sort", .object (SortOrder.document o.keys)), ("limit", o.limit.elim .null .nat)]

end FindOptions

end EventRollup
