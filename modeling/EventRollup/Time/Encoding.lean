import EventRollup.Document
import EventRollup.Error
import EventRollup.Time.Timestamp

namespace EventRollup

inductive DateEncoding where
  | extended
  | string
deriving DecidableEq

def dateKey : String := "$date"

/-- The instant of a date object. Its only entry holds a strict timestamp, integral milliseconds, or
an object with the milliseconds as text. -/
def Json.asDate? : Json → Option Instant
  | .object [(key, value)] =>
    if key = dateKey then
      match value with
      | .string s => Timestamp.rfc3339? s.toList
      | .number n => n.toInt64?.bind Instant.ofMillis?
      | .object inner =>
        match Document.get? inner "$numberLong" with
        | some (.string s) => (Text.toInt64? s).bind Instant.ofMillis?
        | _ => none
      | _ => none
    else none
  | _ => none

namespace DateEncoding

def name : DateEncoding → String
  | .extended => "extended"
  | .string => "string"

def ofFlag (datesAsStrings : Bool) : DateEncoding := if datesAsStrings then .string else .extended

def encode (e : DateEncoding) (t : Instant) : Json :=
  match e with
  | .extended => .object [(dateKey, .string t.text)]
  | .string => .string t.text

def decode? (e : DateEncoding) (v : Json) : Option Instant :=
  match e, v with
  | .extended, v => v.asDate?
  | .string, .string s => Timestamp.instant? s
  | .string, _ => none

end DateEncoding

namespace Instant

def parse (text : String) : Except Error Instant :=
  match Timestamp.instant? text with
  | some t => .ok t
  | none => .error (.timestamp text .unreadableText)

def ofNumber? : Number → Option Instant
  | .int n => ofMillis? n
  | .double d => ofMillis? d.truncate

def coerce (v : Json) : Except Error Instant :=
  match v with
  | .string s => parse s
  | .number n =>
    match ofNumber? n with
    | some t => .ok t
    | none => .error (.timestamp v.compact .millisOutOfRange)
  | .object _ =>
    match v.asDate? with
    | some t => .ok t
    | none => .error (.timestamp v.compact .notExtendedDate)
  | v => .error (.timestamp v.compact .wrongType)

end Instant

end EventRollup
