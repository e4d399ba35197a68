import EventRollup.Text.Blank
import EventRollup.Text.Digits
import EventRollup.Time.Instant

namespace EventRollup

def Date.yearChars (year : Int) : List Char :=
  if 0 ≤ year ∧ year ≤ 9999 then Text.padded 4 year.toNat
  else (if year < 0 then '-' else '+') :: Text.padded 4 year.natAbs

def Date.chars (d : Date) : List Char :=
  yearChars d.year ++ '-' :: (Text.padded 2 d.month.toNat ++ '-' :: Text.padded 2 d.day.toNat)

/-- A leap second is written as second 60 of its minute. -/
def Instant.chars (t : Instant) : List Char :=
  t.date.chars ++ 'T' :: (Text.padded 2 t.hour.toNat ++ ':' :: (Text.padded 2 t.minute.toNat ++
    ':' :: (Text.padded 2 (t.second.toNat + t.nanos / 1000000000) ++
      '.' :: (Text.padded 3 (t.nanos % 1000000000 / 1000000) ++ ['Z']))))

def Instant.text (t : Instant) : String := String.ofList t.chars

namespace Timestamp

structure Local where
  date : Date
  hour : Nat
  minute : Nat
  second : Nat
  nanos : Nat

/-- The instant meant by a local time that is ahead of UTC by so many minutes. Second 60 is the
last second of the minute continued. -/
def Local.instant? (l : Local) (offset : Int) : Option Instant :=
  if l.date.Valid ∧ l.hour < 24 ∧ l.minute < 60 ∧ l.second ≤ 60 ∧ l.nanos < 1000000000 then
    let second : Nat := min l.second 59
    Instant.ofSeconds?
      (l.date.dayNumber * 86400 + l.hour * 3600 + l.minute * 60 + second - offset * 60)
      (l.nanos + (l.second - second) * 1000000000)
  else none

def nanosOf (run : List Char) : Nat :=
  let kept := run.take 9
  Text.digitsValue kept * Nat.pow 10 (9 - kept.length)

def fraction? : List Char → Option (Nat × List Char)
  | '.' :: r => (Text.digitRun? r).map fun (run, r) => (nanosOf run, r)
  | cs => some (0, cs)

def literal? (c : Char) : List Char → Option (List Char)
  | d :: r => if d = c then some r else none
  | [] => none

/-- The offset from UTC in minutes: `Z`, or a sign and two pairs of digits. The minus sign proper is
a sign as well. -/
def offset? (cs : List Char) : Option (Int × List Char) :=
  let pairs (sign : Int) (r : List Char) : Option (Int × List Char) := do
    let (hours, r) ← Text.exactDigits? 2 r
    let r ← literal? ':' r
    let (minutes, r) ← Text.exactDigits? 2 r
    if hours < 24 ∧ minutes < 60 then some (sign * (hours * 60 + minutes), r) else none
  match cs with
  | 'Z' :: r => some (0, r)
  | 'z' :: r => some (0, r)
  | '+' :: r => pairs 1 r
  | '-' :: r => pairs (-1) r
  | '\u2212' :: r => pairs (-1) r
  | _ => none

def separator? : List Char → Option (List Char)
  | 'T' :: r => some r
  | 't' :: r => some r
  | ' ' :: r => some r
  | _ => none

def rfc3339? (cs : List Char) : Option Instant := do
  let (year, r) ← Text.exactDigits? 4 cs
  let r ← literal? '-' r
  let (month, r) ← Text.exactDigits? 2 r
  let r ← literal? '-' r
  let (day, r) ← Text.exactDigits? 2 r
  let r ← separator? r
  let (hour, r) ← Text.exactDigits? 2 r
  let r ← literal? ':' r
  let (minute, r) ← Text.exactDigits? 2 r
  let r ← literal? ':' r
  let (second, r) ← Text.exactDigits? 2 r
  let (nanos, r) ← fraction? r
  let (offset, r) ← offset? r
  if r.isEmpty then
    Local.instant? ⟨⟨year, month, day⟩, hour, minute, second, nanos⟩ offset
  else none

def skipBlanks (cs : List Char) : List Char := cs.dropWhile Text.isBlank

/-- A year after blanks: up to four digits, or any number of them after a sign. -/
def looseYear? (cs : List Char) : Option (Int × List Char) :=
  match skipBlanks cs with
  | '-' :: r => (Text.digitRun? r).map fun (run, r) => (-(Text.digitsValue run : Int), r)
  | '+' :: r => (Text.digitRun? r).map fun (run, r) => ((Text.digitsValue run : Int), r)
  | cs => (Text.upToDigits? 4 cs).map fun (n, r) => ((n : Int), r)

def loosePair? (cs : List Char) : Option (Nat × List Char) := Text.upToDigits? 2 (skipBlanks cs)

def looseDate? (cs : List Char) : Option (Date × List Char) := do
  let (year, r) ← looseYear? cs
  let r ← literal? '-' r
  let (month, r) ← loosePair? r
  let r ← literal? '-' r
  let (day, r) ← loosePair? r
  some (⟨year, month, day⟩, r)

def looseTime? (date : Date) (cs : List Char) : Option Local := do
  let (hour, r) ← loosePair? cs
  let r ← literal? ':' r
  let (minute, r) ← loosePair? r
  let r ← literal? ':' r
  let (second, r) ← loosePair? r
  let (nanos, r) ← fraction? r
  if r.isEmpty then some ⟨date, hour, minute, second, nanos⟩ else none

/-- A date and a time without offset, read as UTC. Between them stands a `T` or any amount of blank,
even none. -/
def naive? (cs : List Char) : Option Instant := do
  let (date, r) ← looseDate? cs
  let rest := match r with
    | 'T' :: r => r
    | r => skipBlanks r
  let l ← looseTime? date rest
  l.instant? 0

/-- A date alone means its midnight in UTC. -/
def midnight? (cs : List Char) : Option Instant := do
  let (date, r) ← looseDate? cs
  if r.isEmpty then Local.instant? ⟨date, 0, 0, 0, 0⟩ 0 else none

/-- Reads a timestamp, blanks around it apart: the form with an offset first, then date and time,
then a date. -/
def instant? (text : String) : Option Instant :=
  let cs := Text.trimChars text.toList
  rfc3339? cs <|> naive? cs <|> midnight? cs

theorem nanosOf_padded {n : Nat} (h : n < 1000) : nanosOf (Text.padded 3 n) = n * 1000000 := by
  have hl : (Text.padded 3 n).length = 3 := Text.length_padded (by decide) h
  have ht : (Text.padded 3 n).take 9 = Text.padded 3 n := List.take_of_length_le (by omega)
  simp only [nanosOf, ht, hl, Text.digitsValue_padded]

theorem fraction?_padded {n : Nat} (h : n < 1000) {r : List Char}
    (hr : r.takeWhile Char.isDigit = []) :
    fraction? ('.' :: (Text.padded 3 n ++ r)) = some (n * 1000000, r) := by
  have hd : ∀ c ∈ Text.padded 3 n, c.isDigit = true := fun c hc => Text.isDigit_of_mem_padded hc
  have hrest : r.dropWhile Char.isDigit = r := by
    have hparts := @List.takeWhile_append_dropWhile _ Char.isDigit r
    rwa [hr] at hparts
  have hl : (Text.padded 3 n).length = 3 := Text.length_padded (by decide) h
  simp only [fraction?, Text.digitRun?, List.takeWhile_append_of_pos hd,
    List.dropWhile_append_of_pos hd, hr, hrest, List.append_nil]
  cases hp : Text.padded 3 n with
  | nil =>
    rw [hp] at hl
    cases hl
  | cons c r => simp only [Option.map_some, ← hp, nanosOf_padded h]

theorem rfc3339?_padded {year month day hour minute second millis : Nat}
    (h1 : year < 10000) (h2 : month < 100) (h3 : day < 100) (h4 : hour < 100) (h5 : minute < 100)
    (h6 : second < 100) (h7 : millis < 1000) :
    rfc3339? (Text.padded 4 year ++ '-' :: (Text.padded 2 month ++ '-' :: (Text.padded 2 day ++
      'T' :: (Text.padded 2 hour ++ ':' :: (Text.padded 2 minute ++ ':' :: (Text.padded 2 second ++
        '.' :: (Text.padded 3 millis ++ ['Z']))))))) =
      Local.instant? ⟨⟨year, month, day⟩, hour, minute, second, millis * 1000000⟩ 0 := by
  have two : 0 < 2 := by decide
  simp only [rfc3339?, Text.exactDigits?_padded (by decide : 0 < 4) h1,
    Text.exactDigits?_padded two h2, Text.exactDigits?_padded two h3,
    Text.exactDigits?_padded two h4, Text.exactDigits?_padded two h5,
    Text.exactDigits?_padded two h6, literal?, if_true, separator?,
    fraction?_padded h7 (show List.takeWhile Char.isDigit ['Z'] = [] from rfl), offset?, bind, Option.bind, List.isEmpty_nil]

theorem Local.instant?_written (t : Instant) :
    Local.instant? ⟨t.date, t.hour.toNat, t.minute.toNat, t.second.toNat + t.nanos / 1000000000,
      t.nanos % 1000000000 / 1000000 * 1000000⟩ 0 = some t.toMillis := by
  have hv := t.valid_date
  have hh := t.hour_bounds
  have hm := t.minute_bounds
  have hs := t.second_bounds
  have hn := t.nanos_lt
  have hleap : 1000000000 ≤ t.nanos → t.second = 59 := fun hl => t.second_of_leap hl
  have hsec := t.seconds_eq
  rw [Local.instant?]
  dsimp only
  rw [if_pos ⟨hv, by omega, by omega, by omega, by omega⟩, ← Instant.ofSeconds?_eq t.toMillis]
  have hseconds : t.date.dayNumber * 86400 + (t.hour.toNat : Int) * 3600 +
      (t.minute.toNat : Int) * 60 + (min (t.second.toNat + t.nanos / 1000000000) 59 : Nat) -
      0 * 60 = t.toMillis.seconds := by
    simp only [Instant.toMillis]
    omega
  have hnanos : t.nanos % 1000000000 / 1000000 * 1000000 +
      (t.second.toNat + t.nanos / 1000000000 -
        min (t.second.toNat + t.nanos / 1000000000) 59) * 1000000000 = t.toMillis.nanos := by
    simp only [Instant.toMillis]
    omega
  rw [hseconds, hnanos]

/-- The canonical text reads back to the millisecond, in the years that take four digits. -/
theorem rfc3339?_chars {t : Instant} (h : 0 ≤ t.date.year ∧ t.date.year ≤ 9999) :
    rfc3339? t.chars = some t.toMillis := by
  have hv := t.valid_date
  have hday := hv.day_le
  have hmonth := hv.2.1
  have hh := t.hour_bounds
  have hm := t.minute_bounds
  have hs := t.second_bounds
  have hn := t.nanos_lt
  have hdate : (⟨t.date.year.toNat, t.date.month.toNat, t.date.day.toNat⟩ : Date) = t.date := by
    rw [Int.toNat_of_nonneg h.1, Int.toNat_of_nonneg (Int.le_trans (by decide) hv.1),
      Int.toNat_of_nonneg (Int.le_trans (by decide) hv.2.2.1)]
  simp only [Instant.chars, Date.chars, Date.yearChars, if_pos h, List.append_assoc,
    List.cons_append]
  rw [rfc3339?_padded (by omega) (by omega) (by omega) (by omega) (by omega) (by omega)
    (by omega), hdate, Local.instant?_written]

end Timestamp

end EventRollup
