import EventRollup.Granularity
import EventRollup.Proofs.Time.Chronology

namespace EventRollup

namespace DatePart

structure Valid (parts : DatePart → Int) : Prop where
  date : Date.Valid ⟨parts .year, parts .month, parts .day⟩
  year : -262143 ≤ parts .year ∧ parts .year ≤ 262142
  hour : 0 ≤ parts .hour ∧ parts .hour ≤ 23
  minute : 0 ≤ parts .minute ∧ parts .minute ≤ 59
  second : 0 ≤ parts .second ∧ parts .second ≤ 59

def civil? (parts : DatePart → Int) : Option Instant :=
  Instant.ofCivil? ⟨parts .year, parts .month, parts .day⟩ (parts .hour) (parts .minute)
    (parts .second)

variable {parts : DatePart → Int} {t : Instant}

theorem extract_of_seconds {date : Date} (hd : date.Valid) {hour minute second : Int}
    (hh : 0 ≤ hour ∧ hour < 24) (hm : 0 ≤ minute ∧ minute < 60) (hs : 0 ≤ second ∧ second < 60)
    (h : t.seconds = date.dayNumber * 86400 + hour * 3600 + minute * 60 + second) :
    t.date = date ∧ t.hour = hour ∧ t.minute = minute ∧ t.second = second := by
  have hday : t.seconds / 86400 = date.dayNumber := by omega
  refine ⟨?_, ?_, ?_, ?_⟩
  · rw [Instant.date, hday, Date.ofDayNumber_dayNumber hd]
  · rw [Instant.hour, Instant.secondOfDay]
    omega
  · rw [Instant.minute, Instant.secondOfDay]
    omega
  · rw [Instant.second, Instant.secondOfDay]
    omega

theorem valid_extract (t : Instant) : Valid (·.extract t) := by
  have hv := t.valid_date
  have hh := t.hour_bounds
  have hm := t.minute_bounds
  have hs := t.second_bounds
  have hnumber : t.date.dayNumber = t.seconds / 86400 := Date.dayNumber_ofDayNumber _
  have hleast : Date.dayNumber ⟨-262143, 1, 1⟩ = -96465292 := rfl
  have hgreatest : Date.dayNumber ⟨262143, 1, 1⟩ = 95026237 := rfl
  have hfirst := Date.newYear_le_iff hv (-262143)
  have hafter := Date.newYear_le_iff hv 262143
  have hl := t.least
  have hu := t.greatest
  refine ⟨hv, ?_, ?_, ?_, ?_⟩
  all_goals
    simp only [extract]
    omega

/-- The parts of a whole second name it, and no other numbers do. -/
theorem civil?_eq_some_iff :
    civil? parts = some t ↔ (∀ p : DatePart, p.extract t = parts p) ∧ t.nanos = 0 := by
  constructor
  · intro h
    rw [civil?, Instant.ofCivil?] at h
    split at h
    · rename_i hvalid
      obtain ⟨hd, hh, hh', hm, hm', hs, hs'⟩ := hvalid
      rw [Instant.ofSeconds?] at h
      split at h
      · have hseconds := (congrArg Instant.seconds (Option.some.inj h)).symm
        have hnanos := (congrArg Instant.nanos (Option.some.inj h)).symm
        obtain ⟨hdate, hhour, hminute, hsecond⟩ :=
          extract_of_seconds hd ⟨hh, hh'⟩ ⟨hm, hm'⟩ ⟨hs, hs'⟩ hseconds
        refine ⟨fun p => ?_, hnanos⟩
        cases p with
        | year => exact congrArg Date.year hdate
        | month => exact congrArg Date.month hdate
        | day => exact congrArg Date.day hdate
        | hour => exact hhour
        | minute => exact hminute
        | second => exact hsecond
      · cases h
    · cases h
  · rintro ⟨hparts, hnanos⟩
    obtain rfl : (·.extract t) = parts := funext hparts
    have hh := t.hour_bounds
    have hm := t.minute_bounds
    have hs := t.second_bounds
    have hsame := Instant.ofSeconds?_eq t
    rw [hnanos] at hsame
    rw [civil?, Instant.ofCivil?, if_pos ⟨t.valid_date, hh.1, hh.2, hm.1, hm.2, hs.1, hs.2⟩,
      ← hsame]
    exact congrArg (Instant.ofSeconds? · 0) t.seconds_eq

theorem valid_iff : Valid parts ↔ ∃ t, civil? parts = some t := by
  constructor
  · rintro ⟨hd, ⟨hfirst, hlast⟩, hh, hm, hs⟩
    have hleast : Date.dayNumber ⟨-262143, 1, 1⟩ = -96465292 := rfl
    have hgreatest : Date.dayNumber ⟨262143, 1, 1⟩ = 95026237 := rfl
    have hfrom := (Date.newYear_le_iff hd (-262143)).2 hfirst
    have hbefore := mt (Date.newYear_le_iff hd 262143).1
      (show ¬ 262143 ≤ parts .year by omega)
    rw [civil?, Instant.ofCivil?, if_pos ⟨hd, by omega⟩, Instant.ofSeconds?, dif_pos (by omega)]
    exact ⟨_, rfl⟩
  · rintro ⟨t, ht⟩
    obtain rfl : (·.extract t) = parts := funext (civil?_eq_some_iff.1 ht).1
    exact valid_extract t

end DatePart

end EventRollup
