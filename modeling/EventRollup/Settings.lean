import EventRollup.FieldName
import EventRollup.Json.Record
import EventRollup.Time.Encoding

namespace EventRollup

/-- What a service is set up with. An empty list of namespaces allows every one; the count measure
is the measure name that counts documents instead of reading a field. -/
structure Settings where
  allowedNamespaces : List String
  timestampField : String
  countMeasure : String
  datesAsStrings : Bool
deriving DecidableEq

namespace Settings

def standard : Settings := ⟨[], "ts", "count", false⟩

instance : Inhabited Settings := ⟨standard⟩

inductive Field where
  | allowedNamespaces
  | timestampField
  | countMeasure
  | datesAsStrings
deriving DecidableEq

def Field.spellings : Field → List String
  | .allowedNamespaces => ["allowedNamespaces", "allowed_namespaces"]
  | .timestampField =>
    ["timestampField", "timestamp_field", "defaultTimestampField", "default_timestamp_field"]
  | .countMeasure => ["countMeasure", "count_measure"]
  | .datesAsStrings => ["datesAsStrings", "dates_as_strings"]

def Field.all : List Field := [.allowedNamespaces, .timestampField, .countMeasure, .datesAsStrings]

def Field.ofSpelling? (key : String) : Option Field := all.find? fun f => key ∈ f.spellings

def reader : RecordReader Field Unit Settings where
  field? := Field.ofSpelling?
  order := Field.all
  malformed := ()
  read
    | .allowedNamespaces, v, s => do
      let names ← Json.readList () (Json.readString ()) v
      .ok { s with allowedNamespaces := names }
    | .timestampField, v, s => do
      let name ← Json.readString () v
      .ok { s with timestampField := name }
    | .countMeasure, v, s => do
      let name ← Json.readString () v
      .ok { s with countMeasure := name }
    | .datesAsStrings, v, s => do
      let b ← Json.readBool () v
      .ok { s with datesAsStrings := b }

def ofJson? (v : Json) : Option Settings := (reader.readFrom standard v).toOption

def toJson (s : Settings) : Json :=
  .object [("allowedNamespaces", .array (s.allowedNamespaces.map .string)),
    ("timestampField", .string s.timestampField), ("countMeasure", .string s.countMeasure),
    ("datesAsStrings", .bool s.datesAsStrings)]

def encoding (s : Settings) : DateEncoding := .ofFlag s.datesAsStrings

def validate (s : Settings) : Except Error Unit := do
  let _ ← FieldName.parse s.timestampField
  let _ ← FieldName.parse s.countMeasure

def allows (s : Settings) (ns : String) : Bool :=
  s.allowedNamespaces.isEmpty || decide (ns ∈ s.allowedNamespaces)

def checkNamespace (s : Settings) (ns : String) : Except Error Unit :=
  if s.allows ns then .ok () else .error (.namespaceNotAllowed ns)

end Settings

end EventRollup
