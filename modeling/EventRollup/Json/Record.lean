import EventRollup.Document

namespace EventRollup

/-- How a record with named fields is read from JSON. A field may have several spellings; `read`
takes one field's value into the record built so far. -/
structure RecordReader (Field Fault Record : Type) where
  field? : String → Option Field
  order : List Field
  read : Field → Json → Record → Except Fault Record
  malformed : Fault

namespace RecordReader

variable {Field Fault Record : Type} [DecidableEq Field]

/-- Reads the entries of an object one after another. Unknown keys are skipped; a field that was
read before is refused before its value is looked at. -/
def readEntries (R : RecordReader Field Fault Record) (seen : List Field) :
    List (String × Json) → Record → Except Fault Record
  | [], record => .ok record
  | (key, value) :: r, record =>
    match R.field? key with
    | none => R.readEntries seen r record
    | some f =>
      if f ∈ seen then .error R.malformed
      else match R.read f value record with
        | .ok record => R.readEntries (f :: seen) r record
        | .error fault => .error fault

/-- Reads the items of an array as the fields in their order. Fields may be missing at the end, but
no item may be left over. -/
def readItems (R : RecordReader Field Fault Record) :
    List Field → List Json → Record → Except Fault Record
  | _, [], record => .ok record
  | [], _ :: _, _ => .error R.malformed
  | f :: fs, value :: r, record =>
    match R.read f value record with
    | .ok record => R.readItems fs r record
    | .error fault => .error fault

def readFrom (R : RecordReader Field Fault Record) (defaults : Record) :
    Json → Except Fault Record
  | .object entries => R.readEntries [] entries defaults
  | .array items => R.readItems R.order items defaults
  | _ => .error R.malformed

end RecordReader

namespace Json

def optional {Fault α : Type} (read : Json → Except Fault α) : Json → Except Fault (Option α)
  | .null => .ok none
  | v => (read v).map some

def readString {Fault : Type} (malformed : Fault) : Json → Except Fault String
  | .string s => .ok s
  | _ => .error malformed

def readBool {Fault : Type} (malformed : Fault) : Json → Except Fault Bool
  | .bool b => .ok b
  | _ => .error malformed

def readList {Fault α : Type} (malformed : Fault) (read : Json → Except Fault α) :
    Json → Except Fault (List α)
  | .array items => items.mapM read
  | _ => .error malformed

end Json

end EventRollup
