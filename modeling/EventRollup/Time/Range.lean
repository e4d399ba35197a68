import EventRollup.Time.Encoding

namespace EventRollup

structure TimeWindow where
  start : Instant
  stop : Instant
deriving DecidableEq

inductive PresetSpan where
  | seconds (n : Int)
  | sinceEpoch
deriving DecidableEq

structure Preset where
  name : String
  span : PresetSpan
deriving DecidableEq

namespace Preset

def minutes (n : Int) : PresetSpan := .seconds (n * 60)

def hours (n : Int) : PresetSpan := minutes (n * 60)

def days (n : Int) : PresetSpan := hours (n * 24)

def standard : List Preset :=
  [⟨"1 Minute", minutes 1⟩, ⟨"1 Hour", hours 1⟩, ⟨"12 Hours", hours 12⟩, ⟨"24 Hours", hours 24⟩,
    ⟨"3 Days", days 3⟩, ⟨"7 Days", days 7⟩, ⟨"14 Days", days 14⟩, ⟨"30 Days", days 30⟩,
    ⟨"90 Days", days 90⟩, ⟨"180 Days", days 180⟩, ⟨"1 Year", days 365⟩, ⟨"All Time", .sinceEpoch⟩]

def names (table : List Preset) : List String := table.map name

def sameName (a b : String) : Bool :=
  decide (a.toList.map Char.toLower = b.toList.map Char.toLower)

/-- The first entry of that name; blanks around the name asked for do not count. -/
def find? (table : List Preset) (name : String) : Option Preset :=
  table.find? fun p => sameName p.name (Text.trim name)

def start? (p : Preset) (now : Instant) : Option Instant :=
  match p.span with
  | .seconds n => now.before? n
  | .sinceEpoch => some .epoch

def resolve (table : List Preset) (name : String) (now : Instant) : Except Error TimeWindow :=
  match find? table name with
  | some p =>
    match p.start? now with
    | some start => .ok ⟨start, now⟩
    | none => .error (.timestamp name .outOfReach)
  | none => .error (.unknownRangePreset name)

theorem resolve_eq_ok_iff {table : List Preset} {name : String} {now : Instant} {w : TimeWindow} :
    resolve table name now = .ok w ↔
      ∃ p, find? table name = some p ∧ p.start? now = some w.start ∧ w.stop = now := by
  rw [resolve]
  cases find? table name with
  | none => simp
  | some p =>
    cases hstart : p.start? now with
    | none => simp [hstart]
    | some start =>
      obtain ⟨start', stop⟩ := w
      simp [hstart, eq_comm]

end Preset

inductive TimeRange where
  | preset (name : String)
  | between (start stop : Instant)
deriving DecidableEq

namespace TimeRange

def betweenValues (start stop : Json) : Except Error TimeRange := do
  let start ← Instant.coerce start
  let stop ← Instant.coerce stop
  .ok (.between start stop)

def resolve (table : List Preset) (now : Instant) : TimeRange → Except Error TimeWindow
  | .preset name => Preset.resolve table name now
  | .between start stop => .ok ⟨start, stop⟩

end TimeRange

end EventRollup
