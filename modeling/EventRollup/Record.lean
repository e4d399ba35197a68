import EventRollup.Granularity
import EventRollup.FieldName
import EventRollup.Time.Encoding

namespace EventRollup

namespace Record

def keyOf (row : Document) : Document :=
  match row.get? groupKey with
  | some (.object key) => key
  | _ => []

/-- A calendar part inside a key, given as an integer or as a double without a fraction. -/
def partOf? (key : Document) (part : DatePart) : Option Int :=
  match key.get? part.key with
  | some (.number n) => n.toInteger?
  | _ => none

def bucketOf? (g : Granularity) (key : Document) : Option Instant :=
  (g.dateParts.mapM (partOf? key)).bind Granularity.bucketStart?

def addTimestamp (g : Granularity) (field : FieldName) (encoding : DateEncoding) (key : Document)
    (row : Document) : Document :=
  if g.isBinned then row.insert field.text ((bucketOf? g key).elim .null encoding.encode) else row

def addDimensions (dimensions : List FieldName) (key : Document) (row : Document) : Document :=
  dimensions.foldl (fun row f => Document.insert row f.text ((key.get? f.text).getD .null)) row

/-- Flattens one grouped row. A key without a valid bucket gets a null timestamp, not a shifted
one. -/
def ofRow (g : Granularity) (dimensions : List FieldName) (field : FieldName)
    (encoding : DateEncoding) (row : Document) : Document :=
  let key := keyOf row
  addDimensions dimensions key (addTimestamp g field encoding key (row.erase groupKey))

end Record

end EventRollup
