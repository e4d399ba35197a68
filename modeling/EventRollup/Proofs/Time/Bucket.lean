import EventRollup.Granularity
import EventRollup.Proofs.Time.Chronology

namespace EventRollup

namespace Granularity

def width : Granularity → Int
  | .all => 1
  | .day => 86400
  | .hour => 3600
  | .minute => 60
  | .second => 1

def partsOf (g : Granularity) (t : Instant) : List Int := g.dateParts.map (·.extract t)

theorem bucketStart?_partsOf {g : Granularity} (hg : g.isBinned = true) (t : Instant) :
    ∃ start : Instant, bucketStart? (g.partsOf t) = some start ∧ start.nanos = 0 ∧
      start.seconds = t.seconds / g.width * g.width := by
  have hday := Date.dayNumber_ofDayNumber (t.seconds / 86400)
  have hh := t.hour_bounds
  have hm := t.minute_bounds
  have hs := t.second_bounds
  have hl := t.least
  have hu := t.greatest
  have hcivil (hour minute second : Int) (h1 : 0 ≤ hour ∧ hour < 24) (h2 : 0 ≤ minute ∧ minute < 60)
      (h3 : 0 ≤ second ∧ second < 60)
      (hstart : -8334601228800 ≤ t.seconds / 86400 * 86400 + hour * 3600 + minute * 60 + second ∧
        t.seconds / 86400 * 86400 + hour * 3600 + minute * 60 + second ≤ 8210266876799) :
      ∃ start : Instant, Instant.ofCivil? t.date hour minute second = some start ∧
        start.nanos = 0 ∧ start.seconds =
          t.seconds / 86400 * 86400 + hour * 3600 + minute * 60 + second := by
    rw [Instant.ofCivil?, if_pos ⟨t.valid_date, h1.1, h1.2, h2.1, h2.2, h3.1, h3.2⟩, Instant.date,
      hday, Instant.ofSeconds?, dif_pos ⟨hstart.1, hstart.2, by decide, fun h => by omega⟩]
    exact ⟨_, rfl, rfl, rfl⟩
  have hhour : t.hour = t.seconds % 86400 / 3600 := rfl
  have hminute : t.minute = t.seconds % 86400 / 60 % 60 := rfl
  have hsecond : t.second = t.seconds % 86400 % 60 := rfl
  cases g with
  | all => cases hg
  | day =>
      obtain ⟨start, hstart, hn, hsec⟩ := hcivil 0 0 0 (by decide) (by decide) (by decide) (by omega)
      exact ⟨start, hstart, hn, by rw [hsec, width]; omega⟩
  | hour =>
      obtain ⟨start, hstart, hn, hsec⟩ := hcivil t.hour 0 0 hh (by decide) (by decide) (by omega)
      exact ⟨start, hstart, hn, by rw [hsec, width]; omega⟩
  | minute =>
      obtain ⟨start, hstart, hn, hsec⟩ := hcivil t.hour t.minute 0 hh hm (by decide) (by omega)
      exact ⟨start, hstart, hn, by rw [hsec, width]; omega⟩
  | second =>
      obtain ⟨start, hstart, hn, hsec⟩ := hcivil t.hour t.minute t.second hh hm hs (by omega)
      exact ⟨start, hstart, hn, by rw [hsec, width]; omega⟩

theorem bucketStart?_eq {g : Granularity} (hg : g.isBinned = true) (t : Instant) :
    bucketStart? (g.partsOf t) = some (g.truncate t) := by
  obtain ⟨start, hstart, -, -⟩ := bucketStart?_partsOf hg t
  have htruncate : g.truncate t = (bucketStart? (g.partsOf t)).getD t := by
    cases g with
    | all => cases hg
    | _ => rfl
  rw [htruncate, hstart, Option.getD_some]

theorem truncate_spec {g : Granularity} (hg : g.isBinned = true) (t : Instant) :
    (g.truncate t).nanos = 0 ∧ (g.truncate t).seconds = t.seconds / g.width * g.width := by
  obtain ⟨start, hstart, hnanos, hseconds⟩ := bucketStart?_partsOf hg t
  rw [bucketStart?_eq hg t] at hstart
  rw [Option.some.inj hstart]
  exact ⟨hnanos, hseconds⟩

theorem toMillis_truncate {g : Granularity} (hg : g.isBinned = true) (t : Instant) :
    (g.truncate t).toMillis = g.truncate t := by
  have hnanos := (truncate_spec hg t).1
  generalize g.truncate t = start at hnanos ⊢
  obtain ⟨seconds, nanos, least, greatest, nanos_lt, leap⟩ := start
  cases hnanos
  simp [Instant.toMillis]

theorem date_truncate (g : Granularity) (t : Instant) : (g.truncate t).date = t.date := by
  cases hg : g.isBinned with
  | false =>
      cases g with
      | all => rfl
      | _ => cases hg
  | true =>
      have hseconds := (truncate_spec hg t).2
      have hday : (g.truncate t).seconds / 86400 = t.seconds / 86400 := by
        rw [hseconds]
        cases g <;> simp only [width] <;> omega
      rw [Instant.date, Instant.date, hday]

theorem partsOf_truncate {g : Granularity} (hg : g.isBinned = true) (t : Instant) :
    g.partsOf (g.truncate t) = g.partsOf t := by
  have hdate := date_truncate g t
  have hseconds := (truncate_spec hg t).2
  have hsecond : (g.truncate t).secondOfDay = (g.truncate t).seconds % 86400 := rfl
  rw [hseconds] at hsecond
  have ht : t.secondOfDay = t.seconds % 86400 := rfl
  cases g with
  | all => cases hg
  | day =>
      simp only [partsOf, dateParts, List.map_cons, List.map_nil, DatePart.extract, hdate]
  | hour =>
      have hhour : (hour.truncate t).hour = t.hour := by
        rw [Instant.hour, Instant.hour, hsecond, ht, width]
        omega
      simp only [partsOf, dateParts, List.map_cons, List.map_nil, DatePart.extract, hdate, hhour]
  | minute =>
      have hhour : (minute.truncate t).hour = t.hour := by
        rw [Instant.hour, Instant.hour, hsecond, ht, width]
        omega
      have hminute : (minute.truncate t).minute = t.minute := by
        rw [Instant.minute, Instant.minute, hsecond, ht, width]
        omega
      simp only [partsOf, dateParts, List.map_cons, List.map_nil, DatePart.extract, hdate, hhour,
        hminute]
  | second =>
      have hsame : (second.truncate t).secondOfDay = t.secondOfDay := by
        rw [hsecond, ht, width]
        omega
      simp only [partsOf, dateParts, List.map_cons, List.map_nil, DatePart.extract, hdate,
        Instant.hour, Instant.minute, Instant.second, hsame]

/-- The components finer than a bucket vanish at its start. -/
theorem finer_truncate (g : Granularity) (t : Instant) :
    (g = .day → (g.truncate t).hour = 0) ∧ (g = .day ∨ g = .hour → (g.truncate t).minute = 0) ∧
      (g = .day ∨ g = .hour ∨ g = .minute → (g.truncate t).second = 0) := by
  cases hg : g.isBinned with
  | false =>
      cases g with
      | all => simp
      | _ => cases hg
  | true =>
      have hseconds := (truncate_spec hg t).2
      have hday : (g.truncate t).secondOfDay = (g.truncate t).seconds % 86400 := rfl
      rw [hseconds] at hday
      simp only [Instant.hour, Instant.minute, Instant.second, hday]
      refine ⟨?_, ?_, ?_⟩
      · rintro rfl
        rw [width]
        omega
      · rintro (rfl | rfl) <;> rw [width] <;> omega
      · rintro (rfl | rfl | rfl) <;> rw [width] <;> omega

theorem compare_partsOf {g : Granularity} (hg : g.isBinned = true) (t u : Instant) :
    compare (g.partsOf t) (g.partsOf u) = Instant.compare (g.truncate t) (g.truncate u) := by
  obtain ⟨hth, htm, hts⟩ := finer_truncate g t
  obtain ⟨huh, hum, hus⟩ := finer_truncate g u
  rw [← partsOf_truncate hg t, ← partsOf_truncate hg u, Instant.compare,
    (truncate_spec hg t).1, (truncate_spec hg u).1, Nat.compare_eq_eq.2 rfl, Ordering.then_eq,
    Instant.compare_seconds,
    Date.compare_dayNumber (g.truncate t).valid_date (g.truncate u).valid_date]
  have hzero : compare (0 : Int) 0 = .eq := rfl
  cases g with
  | all => cases hg
  | day =>
      rw [hth rfl, huh rfl, htm (.inl rfl), hum (.inl rfl), hts (.inl rfl), hus (.inl rfl)]
      simp only [partsOf, dateParts, List.map_cons, List.map_nil, DatePart.extract,
        List.compare_cons_cons, List.compare_nil_nil, hzero, Ordering.then_eq]
  | hour =>
      rw [htm (.inr rfl), hum (.inr rfl), hts (.inr (.inl rfl)), hus (.inr (.inl rfl))]
      simp only [partsOf, dateParts, List.map_cons, List.map_nil, DatePart.extract,
        List.compare_cons_cons, List.compare_nil_nil, hzero, Ordering.then_eq, Ordering.then_assoc]
  | minute =>
      rw [hts (.inr (.inr rfl)), hus (.inr (.inr rfl))]
      simp only [partsOf, dateParts, List.map_cons, List.map_nil, DatePart.extract,
        List.compare_cons_cons, List.compare_nil_nil, hzero, Ordering.then_eq, Ordering.then_assoc]
  | second =>
      simp only [partsOf, dateParts, List.map_cons, List.map_nil, DatePart.extract,
        List.compare_cons_cons, List.compare_nil_nil, Ordering.then_eq, Ordering.then_assoc]

end Granularity

namespace DatePart

/-- Components are small enough to be numbers without rounding. -/
theorem natAbs_extract_lt (p : DatePart) (t : Instant) :
    (p.extract t).natAbs < 9007199254740992 := by
  have hv := t.valid_date
  have hday := hv.day_le
  have hh := t.hour_bounds
  have hm := t.minute_bounds
  have hs := t.second_bounds
  have hl := t.least
  have hu := t.greatest
  have hnumber := Date.dayNumber_ofDayNumber (t.seconds / 86400)
  cases p with
  | year =>
      rw [extract]
      change t.date.dayNumber = _ at hnumber
      obtain ⟨h1, h12, hd, -⟩ := hv
      unfold Date.dayNumber Date.daysBeforeYear Date.daysBeforeMonth at hnumber
      split at hnumber <;> omega
  | _ =>
      obtain ⟨h1, h12, hd, -⟩ := hv
      rw [extract]
      omega

end DatePart

end EventRollup
