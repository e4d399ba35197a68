import EventRollup.Pattern.Parser
import EventRollup.Pipeline.Stage
import EventRollup.Query.Spec
import EventRollup.Record
import EventRollup.Settings

namespace EventRollup

structure Plan where
  pipeline : Pipeline
  granularity : Granularity
  dimensions : List FieldName
  timestampField : FieldName
  encoding : DateEncoding
deriving DecidableEq

namespace Plan

def reshape (p : Plan) (rows : List Document) : List Document :=
  rows.map (Record.ofRow p.granularity p.dimensions p.timestampField p.encoding)

/-- A measure whose name is a field. A counting measure adds one for every document, whatever its
operator. -/
structure Output where
  field : FieldName
  op : AggregateOperator
  counts : Bool
deriving DecidableEq

def Output.accumulator (o : Output) : Accumulator :=
  if o.counts then ⟨o.field, .sum, .constant 1⟩ else ⟨o.field, o.op, .field o.field⟩

def operand (d : Dimension) (op : FilterOperator) : Except Error Json :=
  let refuse (fault : FilterFault) : Except Error Json := .error (.invalidFilter d.field fault)
  match op, d.value with
  | .eq, v => .ok (v.getD .null)
  | .ne, v => .ok (v.getD .null)
  | .gt, some v => .ok v
  | .gte, some v => .ok v
  | .lt, some v => .ok v
  | .lte, some v => .ok v
  | .gt, none => refuse .missingOperand
  | .gte, none => refuse .missingOperand
  | .lt, none => refuse .missingOperand
  | .lte, none => refuse .missingOperand
  | .isIn, some (.array vs) => .ok (.array vs)
  | .isIn, _ => refuse .membersNotArray
  | .notIn, some (.array vs) => .ok (.array vs)
  | .notIn, _ => refuse .membersNotArray
  | .regex, some (.string pattern) =>
    if Pattern.isValid pattern then .ok (.string pattern) else refuse .invalidPattern
  | .regex, _ => refuse .patternNotString
  | .exists, none => .ok (.bool true)
  | .exists, some (.bool b) => .ok (.bool b)
  | .exists, _ => refuse .presenceNotBoolean

def dimensionFault? (g : Granularity) (timestamp field : FieldName) : Option FieldFault :=
  if !g.isBinned then none
  else if field = timestamp then some .timestampAsBinnedDimension
  else if g.dateParts.any (·.key == field.text) then some .calendarPart
  else none

def distinctDimensions (g : Granularity) (timestamp : FieldName) :
    List FieldName → List FieldName → Except Error (List FieldName)
  | seen, [] => .ok seen
  | seen, f :: r =>
    match dimensionFault? g timestamp f with
    | some fault => .error (.invalidFieldName f.text fault)
    | none => distinctDimensions g timestamp (if f ∈ seen then seen else seen ++ [f]) r

/-- The fault of a measure beside the timestamp, the dimensions and the measures before it. -/
def measureFault? (g : Granularity) (timestamp : FieldName) (dimensions : List FieldName)
    (seen : List Output) (field : FieldName) : Option FieldFault :=
  if g.isBinned && decide (field = timestamp) then some .timestampAsBinnedMeasure
  else if field ∈ dimensions then some .alsoDimension
  else if seen.any (·.field == field) then some .repeatedMeasure
  else none

def outputs (settings : Settings) (g : Granularity) (timestamp : FieldName)
    (dimensions : List FieldName) : List Output → List Measure → Except Error (List Output)
  | seen, [] => .ok seen
  | seen, m :: r => do
    let field ← FieldName.parse m.field
    match measureFault? g timestamp dimensions seen field with
    | some fault => .error (.invalidFieldName field.text fault)
    | none =>
      outputs settings g timestamp dimensions
        (seen ++ [⟨field, m.effective, field.text == settings.countMeasure⟩]) r

def addConditions : List (Dimension × FieldName) → Filter → Except Error Filter
  | [], f => .ok f
  | (d, field) :: r, f =>
    match d.op with
    | none => addConditions r f
    | some op => do
      let v ← operand d op
      addConditions r (f.push field (.compare op v))

def projection (g : Granularity) (timestamp : FieldName) (dimensions : List FieldName)
    (outs : List Output) : Projection :=
  let read := (if g.isBinned then [timestamp] else []) ++ dimensions ++
    (outs.filter (!·.counts)).map (·.field)
  read.foldl .keep .empty

def grouping (g : Granularity) (timestamp : FieldName) (encoding : DateEncoding)
    (dimensions : List FieldName) (outs : List Output) : Grouping :=
  let parts := g.dateParts.map fun p =>
    (p.key, KeyExpr.datePart p timestamp (encoding == .string))
  ⟨parts ++ dimensions.map fun f => (f.text, .field f), outs.map (·.accumulator)⟩

/-- A binned series is always chronological; otherwise the measures that ask for an order get it, in
their order. -/
def sortOrder (g : Granularity) (measures : List Measure) (outs : List Output) : SortOrder :=
  if g.isBinned then ⟨[(.groupKey, .ascending)]⟩
  else ⟨(List.zip measures outs).filterMap fun (m, o) =>
    m.sort.map fun direction => (.field o.field, direction)⟩

def limitStage : Option Nat → List Stage
  | some n => if 0 < n then [.limit n] else []
  | none => []

def compile (settings : Settings) (presets : List Preset) (spec : QuerySpec) (now : Instant) :
    Except Error Plan := do
  let g := spec.granularity
  let encoding := settings.encoding
  let timestamp ← FieldName.parse (spec.timestampField.getD settings.timestampField)
  let names ← spec.dimensions.mapM fun d => FieldName.parse d.field
  let dimensions ← distinctDimensions g timestamp [] names
  let outs ← outputs settings g timestamp dimensions [] spec.measures
  let window ← spec.range.elim (.ok none) fun r => (r.resolve presets now).map some
  let filter ← addConditions (spec.dimensions.zip names)
    (Filter.timeWindow timestamp window encoding)
  let sort := sortOrder g spec.measures outs
  .ok {
    pipeline := ⟨[.filter filter, .project (projection g timestamp dimensions outs),
        .group (grouping g timestamp encoding dimensions outs)] ++
      (if sort.keys.isEmpty then [] else [.sort sort]) ++ limitStage spec.limit⟩
    granularity := g
    dimensions
    timestampField := timestamp
    encoding }

end Plan

end EventRollup
