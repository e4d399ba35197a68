import EventRollup.FieldName
import EventRollup.Time.Encoding

namespace EventRollup

namespace Event

/-- The time of a document about to be stored: what its timestamp field says, or now where that is
missing or null. -/
def time (field : FieldName) (now : Instant) (d : Document) : Except Error Instant :=
  match d.get? field.text with
  | none => .ok now
  | some .null => .ok now
  | some (.object entries) =>
    match Json.asDate? (.object entries) with
    | some t => .ok t
    | none => .error (.timestamp (Json.object entries).compact .storedObjectNotDate)
  | some (.string s) => Instant.coerce (.string s)
  | some (.number n) => Instant.coerce (.number n)
  | some v => .error (.timestamp v.compact .storedWrongType)

def normalize (field : FieldName) (encoding : DateEncoding) (now : Instant) (d : Document) :
    Except Error Document := do
  let t ← time field now d
  .ok (d.insert field.text (encoding.encode t))

end Event

end EventRollup
