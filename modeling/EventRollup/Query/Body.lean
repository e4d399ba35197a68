import EventRollup.Json.Record
import EventRollup.Query.Spec

namespace EventRollup

inductive LimitInput where
  | number (n : Int)
  | text (s : String)
deriving DecidableEq

/-- The positive limit meant; anything below one means no limit. -/
def LimitInput.resolve (l : LimitInput) : Except Error (Option Nat) :=
  let positive (n : Int) : Option Nat := if 0 < n then some n.toNat else none
  match l with
  | .number n => .ok (positive n)
  | .text s =>
    match Text.toInt64? (Text.trim s) with
    | some n => .ok (positive n)
    | none => .error (.invalidRequest (.limitNotInteger s))

structure QueryBody where
  startTime : Option Json
  endTime : Option Json
  range : Option String
  dimensions : List Dimension
  measures : List Measure
  timestampField : Option String
  granularity : Granularity
  limit : Option LimitInput
  debug : Bool
deriving DecidableEq

def readName {α : Type} (parse : String → Except UnknownName α) :
    Json → Except RequestFault α
  | .string s =>
    match parse s with
    | .ok a => .ok a
    | .error name => .error (.unknownName name)
  | _ => .error .malformed

def Granularity.ofJson : Json → Except RequestFault Granularity
  | .string s => match ofName? s with
    | some g => .ok g
    | none => .error .malformed
  | .object [(key, .null)] => match ofName? key with
    | some g => .ok g
    | none => .error .malformed
  | _ => .error .malformed

namespace Dimension

inductive Field where
  | field
  | op
  | value
deriving DecidableEq

def Field.ofSpelling? (key : String) : Option Field :=
  if key = "field" then some .field
  else if key = "op" ∨ key = "operator" then some .op
  else if key = "value" then some .value
  else none

structure Draft where
  field : Option String
  op : Option FilterOperator
  value : Option Json

def reader : RecordReader Field RequestFault Draft where
  field? := Field.ofSpelling?
  order := [.field, .op, .value]
  malformed := .malformed
  read
    | .field, v, d => do
      let name ← Json.readString .malformed v
      .ok { d with field := some name }
    | .op, v, d => do
      let op ← Json.optional (readName FilterOperator.parse) v
      .ok { d with op := op }
    | .value, v, d => .ok { d with value := if v.isNull then none else some v }

/-- A dimension is sent as a bare field name or as a record. What is wrong with the record is not
told apart, because either form might have been meant. -/
def ofJson : Json → Except RequestFault Dimension
  | .string s => .ok ⟨s, none, none⟩
  | v =>
    match reader.readFrom ⟨none, none, none⟩ v with
    | .ok ⟨some field, op, value⟩ => .ok ⟨field, op, value⟩
    | _ => .error .malformed

end Dimension

namespace Measure

inductive Field where
  | field
  | op
  | sort
deriving DecidableEq

def Field.ofSpelling? (key : String) : Option Field :=
  if key = "field" then some .field
  else if key = "op" ∨ key = "operator" then some .op
  else if key = "sort" then some .sort
  else none

structure Draft where
  field : Option String
  op : Option AggregateOperator
  sort : Option SortDirection

/-- No text and the text `none` leave a measure unsorted. The text is read without its blanks, and
refused so as well. -/
def readSort : Json → Except RequestFault (Option SortDirection)
  | .null => .ok none
  | .string s =>
    let t := Text.trim s
    if t = "" ∨ t = "none" then .ok none
    else match SortDirection.parse t with
      | .ok direction => .ok (some direction)
      | .error name => .error (.unknownName name)
  | _ => .error .malformed

def reader : RecordReader Field RequestFault Draft where
  field? := Field.ofSpelling?
  order := [.field, .op, .sort]
  malformed := .malformed
  read
    | .field, v, d => do
      let name ← Json.readString .malformed v
      .ok { d with field := some name }
    | .op, v, d => do
      let op ← Json.optional (readName AggregateOperator.parse) v
      .ok { d with op := op }
    | .sort, v, d => do
      let direction ← readSort v
      .ok { d with sort := direction }

def ofJson (v : Json) : Except RequestFault Measure := do
  let d ← reader.readFrom ⟨none, none, none⟩ v
  match d.field with
  | some field => .ok ⟨field, d.op, d.sort⟩
  | none => .error .malformed

end Measure

def LimitInput.ofJson : Json → Except RequestFault LimitInput
  | .number n => match n.toInt64? with
    | some i => .ok (.number i)
    | none => .error .malformed
  | .string s => .ok (.text s)
  | _ => .error .malformed

namespace QueryBody

inductive Field where
  | startTime
  | endTime
  | range
  | dimensions
  | measures
  | timestampField
  | granularity
  | limit
  | debug
deriving DecidableEq

namespace Field

def key : Field → String
  | .startTime => "startTime"
  | .endTime => "endTime"
  | .range => "range"
  | .dimensions => "dimensions"
  | .measures => "measures"
  | .timestampField => "timestampField"
  | .granularity => "granularity"
  | .limit => "limit"
  | .debug => "debug"

def all : List Field :=
  [.startTime, .endTime, .range, .dimensions, .measures, .timestampField, .granularity, .limit,
    .debug]

end Field

def empty : QueryBody := ⟨none, none, none, [], [], none, .all, none, false⟩

def given (v : Json) : Option Json := if v.isNull then none else some v

def reader : RecordReader Field RequestFault QueryBody where
  field? key := Field.all.find? fun f => f.key = key
  order := Field.all
  malformed := .malformed
  read
    | .startTime, v, b => .ok { b with startTime := given v }
    | .endTime, v, b => .ok { b with endTime := given v }
    | .range, v, b => do
      let name ← Json.optional (Json.readString .malformed) v
      .ok { b with range := name }
    | .dimensions, v, b => do
      let dimensions ← Json.optional (Json.readList .malformed Dimension.ofJson) v
      .ok { b with dimensions := dimensions.getD [] }
    | .measures, v, b => do
      let measures ← Json.optional (Json.readList .malformed Measure.ofJson) v
      .ok { b with measures := measures.getD [] }
    | .timestampField, v, b => do
      let name ← Json.optional (Json.readString .malformed) v
      .ok { b with timestampField := name }
    | .granularity, v, b => do
      let g ← Json.optional Granularity.ofJson v
      .ok { b with granularity := g.getD .all }
    | .limit, v, b => do
      let limit ← Json.optional LimitInput.ofJson v
      .ok { b with limit := limit }
    | .debug, v, b => do
      let debug ← Json.optional (Json.readBool .malformed) v
      .ok { b with debug := debug.getD false }

/-- Reads a body. Everything in it is optional; the first fault in the order of its keys is
reported. -/
def ofJson (v : Json) : Except Error QueryBody :=
  match reader.readFrom empty v with
  | .ok body => .ok body
  | .error fault => .error (.invalidRequest fault)

/-- The bounds of a query. An explicit bound wins over a preset; a missing start is then the epoch
and a missing end is now. -/
def timeRange (b : QueryBody) (now : Instant) : Except Error (Option TimeRange) :=
  if b.startTime.isSome ∨ b.endTime.isSome then do
    let start ← b.startTime.elim (.ok Instant.epoch) Instant.coerce
    let stop ← b.endTime.elim (.ok now) Instant.coerce
    .ok (some (.between start stop))
  else .ok (b.range.map .preset)

def toSpec (b : QueryBody) (ns : String) (now : Instant) : Except Error QuerySpec := do
  let range ← b.timeRange now
  let limit ← b.limit.elim (.ok none) LimitInput.resolve
  .ok { ns, range, dimensions := b.dimensions, measures := b.measures,
        granularity := b.granularity, limit, timestampField := b.timestampField, debug := b.debug }

end QueryBody

end EventRollup
