import EventRollup.Time.Calendar

namespace EventRollup

/-- A point in time: seconds since the Unix epoch and nanoseconds within the second. The years run
from -262143 to 262142. A leap second continues the last second of its minute with a second
thousand million nanoseconds. -/
structure Instant where
  seconds : Int
  nanos : Nat
  least : -8334601228800 ≤ seconds
  greatest : seconds ≤ 8210266876799
  nanos_lt : nanos < 2000000000
  leap : 1000000000 ≤ nanos → seconds % 60 = 59
deriving DecidableEq

namespace Instant

def ofSeconds? (seconds : Int) (nanos : Nat) : Option Instant :=
  if h : -8334601228800 ≤ seconds ∧ seconds ≤ 8210266876799 ∧ nanos < 2000000000 ∧
      (1000000000 ≤ nanos → seconds % 60 = 59) then
    some ⟨seconds, nanos, h.1, h.2.1, h.2.2.1, h.2.2.2⟩
  else none

def ofMillis? (millis : Int) : Option Instant :=
  ofSeconds? (millis / 1000) ((millis % 1000).toNat * 1000000)

def epoch : Instant := ⟨0, 0, by decide, by decide, by decide, by decide⟩

def earliest : Instant := ⟨-8334601228800, 0, by decide, by decide, by decide, by decide⟩

def latest : Instant :=
  ⟨8210266876799, 1999999999, by decide, by decide, by decide, by decide⟩

instance : Inhabited Instant := ⟨epoch⟩

def compare (a b : Instant) : Ordering :=
  (Ord.compare a.seconds b.seconds).then (Ord.compare a.nanos b.nanos)

instance : Ord Instant := ⟨compare⟩

/-- The second that a span is counted off from. Back from a leap second it is the one after it. -/
def departure (t : Instant) (span : Int) : Int :=
  if t.nanos < 1000000000 ∨ span < 0 then t.seconds else t.seconds + 1

/-- The instant a whole number of seconds earlier, if there is one. Leaving a leap second behind
lands in an ordinary one. -/
def before? (t : Instant) (span : Int) : Option Instant :=
  if span = 0 then some t
  else ofSeconds? (t.departure span - span) (t.nanos % 1000000000)

def toMillis (t : Instant) : Instant :=
  ⟨t.seconds, t.nanos / 1000000 * 1000000, t.least, t.greatest,
    by have := t.nanos_lt; omega, fun h => t.leap (by omega)⟩

def date (t : Instant) : Date := Date.ofDayNumber (t.seconds / 86400)

def secondOfDay (t : Instant) : Int := t.seconds % 86400

def hour (t : Instant) : Int := t.secondOfDay / 3600

def minute (t : Instant) : Int := t.secondOfDay / 60 % 60

def second (t : Instant) : Int := t.secondOfDay % 60

def ofCivil? (date : Date) (hour minute second : Int) : Option Instant :=
  if date.Valid ∧ 0 ≤ hour ∧ hour < 24 ∧ 0 ≤ minute ∧ minute < 60 ∧ 0 ≤ second ∧ second < 60 then
    ofSeconds? (date.dayNumber * 86400 + hour * 3600 + minute * 60 + second) 0
  else none

theorem ofSeconds?_eq (t : Instant) : ofSeconds? t.seconds t.nanos = some t :=
  dif_pos ⟨t.least, t.greatest, t.nanos_lt, t.leap⟩

theorem ofSeconds?_eq_some_iff {seconds : Int} {nanos : Nat} {t : Instant} :
    ofSeconds? seconds nanos = some t ↔ t.seconds = seconds ∧ t.nanos = nanos := by
  constructor
  · intro h
    rw [ofSeconds?] at h
    split at h
    · obtain rfl := Option.some.inj h
      exact ⟨rfl, rfl⟩
    · cases h
  · rintro ⟨rfl, rfl⟩
    exact ofSeconds?_eq t

theorem valid_date (t : Instant) : t.date.Valid := Date.valid_ofDayNumber _

theorem hour_bounds (t : Instant) : 0 ≤ t.hour ∧ t.hour < 24 := by
  simp only [hour, secondOfDay]
  omega

theorem minute_bounds (t : Instant) : 0 ≤ t.minute ∧ t.minute < 60 := by
  simp only [minute, secondOfDay]
  omega

theorem second_bounds (t : Instant) : 0 ≤ t.second ∧ t.second < 60 := by
  simp only [second, secondOfDay]
  omega

theorem second_of_leap {t : Instant} (h : 1000000000 ≤ t.nanos) : t.second = 59 := by
  have hs := t.leap h
  simp only [second, secondOfDay]
  omega

theorem seconds_eq (t : Instant) :
    t.date.dayNumber * 86400 + t.hour * 3600 + t.minute * 60 + t.second = t.seconds := by
  simp only [date, Date.dayNumber_ofDayNumber, hour, minute, second, secondOfDay]
  omega

end Instant

end EventRollup
