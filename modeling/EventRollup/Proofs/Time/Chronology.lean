import EventRollup.Proofs.Places
import EventRollup.Time.Instant

namespace EventRollup

namespace Date

theorem dayNumber_eq (d : Date) : d.dayNumber = dayNumber ⟨d.year, d.month, 1⟩ + (d.day - 1) := by
  simp only [dayNumber]
  split <;> omega

theorem dayNumber_month_lt {y m n : Int} (hm : 1 ≤ m) (hmn : m < n) (hn : n ≤ 12) :
    dayNumber ⟨y, m, 1⟩ + daysInMonth y m ≤ dayNumber ⟨y, n, 1⟩ := by
  have hyear := daysBeforeYear_succ (y - 1)
  rw [Int.sub_add_cancel] at hyear
  by_cases h3 : 3 ≤ m
  · rw [daysInMonth_eq y h3 (by omega)]
    simp only [dayNumber, if_neg (show ¬ m ≤ 2 by omega), if_neg (show ¬ n ≤ 2 by omega),
      daysBeforeMonth]
    omega
  · have hfirst : dayNumber ⟨y, m, 1⟩ = daysBeforeYear (y - 1) + daysBeforeMonth (m + 9) - 719468 := by
      simp only [dayNumber, if_pos (show m ≤ 2 by omega)]
      omega
    by_cases hn2 : n ≤ 2
    · obtain rfl : m = 1 := by omega
      obtain rfl : n = 2 := by omega
      rw [hfirst]
      simp only [dayNumber, daysBeforeMonth, daysInMonth, if_pos hn2]
      omega
    · rw [hfirst]
      simp only [dayNumber, if_neg hn2, daysBeforeMonth]
      obtain rfl | rfl : m = 1 ∨ m = 2 := by omega
      · simp only [daysInMonth]
        split at hyear <;> omega
      · simp only [daysInMonth, if_true]
        split at hyear <;> rename_i hleap
        · rw [if_pos hleap]
          omega
        · rw [if_neg hleap]
          omega

theorem dayNumber_month_le {y m n : Int} (hm : 1 ≤ m) (hmn : m ≤ n) (hn : n ≤ 12) :
    dayNumber ⟨y, m, 1⟩ ≤ dayNumber ⟨y, n, 1⟩ := by
  rcases Int.lt_or_eq_of_le hmn with h | rfl
  · have hlt := @dayNumber_month_lt y m n hm h hn
    have hlong : 0 ≤ daysInMonth y m := by
      simp only [daysInMonth]
      repeat' split
      all_goals decide
    omega
  · exact Int.le_refl _

theorem dayNumber_ge {d : Date} (hd : d.Valid) :
    dayNumber ⟨d.year, d.month, 1⟩ ≤ d.dayNumber := by
  have h := d.dayNumber_eq
  have hday := hd.2.2.1
  omega

theorem dayNumber_year_lt {d : Date} (hd : d.Valid) :
    d.dayNumber < dayNumber ⟨d.year + 1, 1, 1⟩ := by
  obtain ⟨h1, h12, hday, hlast⟩ := hd
  have heq := d.dayNumber_eq
  have hdecember : dayNumber ⟨d.year, 12, 1⟩ + 31 = dayNumber ⟨d.year + 1, 1, 1⟩ := by
    simp only [dayNumber, daysBeforeMonth, Int.add_sub_cancel]
    omega
  by_cases h : d.month = 12
  · rw [h] at heq hlast
    simp only [daysInMonth] at hlast
    omega
  · have hlt := @dayNumber_month_lt d.year d.month 12 h1 (by omega) (by decide)
    omega

theorem dayNumber_newYear_le {y z : Int} (h : y ≤ z) :
    dayNumber ⟨y, 1, 1⟩ ≤ dayNumber ⟨z, 1, 1⟩ := by
  have hmono := daysBeforeYear_mono (show y - 1 ≤ z - 1 by omega)
  simp only [dayNumber]
  omega

theorem newYear_le_iff {d : Date} (hd : d.Valid) (y : Int) :
    dayNumber ⟨y, 1, 1⟩ ≤ d.dayNumber ↔ y ≤ d.year := by
  constructor
  · intro h
    by_cases hy : d.year + 1 ≤ y
    · have hnext := dayNumber_newYear_le hy
      have hlt := dayNumber_year_lt hd
      omega
    · omega
  · intro h
    calc dayNumber ⟨y, 1, 1⟩ ≤ dayNumber ⟨d.year, 1, 1⟩ := dayNumber_newYear_le h
      _ ≤ dayNumber ⟨d.year, d.month, 1⟩ := dayNumber_month_le (by decide) hd.1 hd.2.1
      _ ≤ d.dayNumber := dayNumber_ge hd

/-- Of two dates the one with the lesser year, month or day, in this order, comes first. -/
theorem dayNumber_lt {d e : Date} (hd : d.Valid) (he : e.Valid)
    (h : d.year < e.year ∨ d.year = e.year ∧
      (d.month < e.month ∨ d.month = e.month ∧ d.day < e.day)) : d.dayNumber < e.dayNumber := by
  rcases h with hy | ⟨hy, hm | ⟨hm, hday⟩⟩
  · calc d.dayNumber < dayNumber ⟨d.year + 1, 1, 1⟩ := dayNumber_year_lt hd
      _ ≤ dayNumber ⟨e.year, 1, 1⟩ := dayNumber_newYear_le hy
      _ ≤ dayNumber ⟨e.year, e.month, 1⟩ := dayNumber_month_le (by decide) he.1 he.2.1
      _ ≤ e.dayNumber := dayNumber_ge he
  · have hlt := @dayNumber_month_lt e.year d.month e.month hd.1 hm he.2.1
    have hfirst := dayNumber_ge he
    have heq := d.dayNumber_eq
    have hlast := hd.2.2.2
    rw [hy] at heq hlast
    omega
  · rw [d.dayNumber_eq, e.dayNumber_eq, hy, hm]
    omega

theorem compare_dayNumber {d e : Date} (hd : d.Valid) (he : e.Valid) :
    compare d.dayNumber e.dayNumber =
      (compare d.year e.year).then ((compare d.month e.month).then (compare d.day e.day)) := by
  have hlt := @dayNumber_lt d e hd he
  have hgt := @dayNumber_lt e d he hd
  rcases Int.lt_trichotomy d.year e.year with hy | hy | hy
  · rw [Int.compare_eq_lt.2 hy, Int.compare_eq_lt.2 (hlt (.inl hy))]
    rfl
  · rw [Int.compare_eq_eq.2 hy]
    rcases Int.lt_trichotomy d.month e.month with hm | hm | hm
    · rw [Int.compare_eq_lt.2 hm, Int.compare_eq_lt.2 (hlt (.inr ⟨hy, .inl hm⟩))]
      rfl
    · rw [Int.compare_eq_eq.2 hm, d.dayNumber_eq, e.dayNumber_eq, hy, hm]
      rcases Int.lt_trichotomy d.day e.day with h | h | h
      · rw [Int.compare_eq_lt.2 h, Int.compare_eq_lt.2 (by omega)]
        rfl
      · rw [Int.compare_eq_eq.2 h, Int.compare_eq_eq.2 (by omega)]
        rfl
      · rw [Int.compare_eq_gt.2 h, Int.compare_eq_gt.2 (by omega)]
        rfl
    · rw [Int.compare_eq_gt.2 hm, Int.compare_eq_gt.2 (hgt (.inr ⟨hy.symm, .inl hm⟩))]
      rfl
  · rw [Int.compare_eq_gt.2 hy, Int.compare_eq_gt.2 (hgt (.inl hy))]
    rfl

end Date

namespace Instant

theorem compare_swap (t u : Instant) : (compare t u).swap = compare u t := by
  rw [compare, compare, Ordering.swap_then, ← Std.OrientedOrd.eq_swap, ← Std.OrientedOrd.eq_swap]

theorem compare_isLE_iff {t u : Instant} : (compare t u).isLE = true ↔
    t.seconds < u.seconds ∨ t.seconds = u.seconds ∧ t.nanos ≤ u.nanos := by
  rw [compare, Ordering.isLE_then_iff_and, Int.isLE_compare, Int.compare_eq_lt, Nat.isLE_compare]
  omega

theorem eq_of_compare_isLE {t u : Instant} (htu : (compare t u).isLE = true)
    (hut : (compare u t).isLE = true) : t = u := by
  rw [← compare_swap t u] at hut
  have heq : compare t u = .eq := by
    cases hc : compare t u with
    | eq => rfl
    | lt => rw [hc] at hut; cases hut
    | gt => rw [hc] at htu; cases htu
  rw [compare, Ordering.then_eq_eq, Int.compare_eq_eq, Nat.compare_eq_eq] at heq
  obtain ⟨seconds, nanos, _, _, _, _⟩ := t
  obtain ⟨hseconds, hnanos⟩ := heq
  cases hseconds
  cases hnanos
  rfl

/-- A span counted off from an instant ends within the years that there are. -/
def Reaches (t : Instant) (span : Int) : Prop :=
  span = 0 ∨ earliest.seconds ≤ t.departure span - span ∧
    t.departure span - span ≤ latest.seconds

theorem seconds_before {t u : Instant} {span : Int} (hspan : span ≠ 0) (h : t.before? span = some u) :
    u.seconds = t.departure span - span := by
  rw [before?, if_neg hspan, ofSeconds?_eq_some_iff] at h
  exact h.1

theorem exists_before_iff {t : Instant} {span : Int} :
    (∃ u, t.before? span = some u) ↔ t.Reaches span := by
  by_cases hspan : span = 0
  · rw [before?, if_pos hspan]
    exact ⟨fun _ => .inl hspan, fun _ => ⟨t, rfl⟩⟩
  · constructor
    · rintro ⟨u, hu⟩
      rw [Reaches, ← seconds_before hspan hu]
      exact .inr ⟨u.least, u.greatest⟩
    · rintro (hzero | ⟨hleast, hgreatest⟩)
      · exact absurd hzero hspan
      · have hnanos : t.nanos % 1000000000 < 1000000000 := Nat.mod_lt _ (by decide)
        let u : Instant :=
          ⟨t.departure span - span, t.nanos % 1000000000, hleast, hgreatest, by omega,
            fun h => by omega⟩
        rw [before?, if_neg hspan]
        exact ⟨u, ofSeconds?_eq_some_iff.2 ⟨rfl, rfl⟩⟩

theorem compare_seconds (t u : Instant) :
    Ord.compare t.seconds u.seconds =
      (Ord.compare t.date.dayNumber u.date.dayNumber).then ((Ord.compare t.hour u.hour).then
        ((Ord.compare t.minute u.minute).then (Ord.compare t.second u.second))) := by
  have hshape (v : Instant) :
      v.seconds = ((v.date.dayNumber * 24 + v.hour) * 60 + v.minute) * 60 + v.second := by
    have h := v.seconds_eq
    omega
  rw [hshape t, hshape u, compare_places t.second_bounds u.second_bounds,
    compare_places t.minute_bounds u.minute_bounds, compare_places t.hour_bounds u.hour_bounds,
    Ordering.then_assoc, Ordering.then_assoc]

def writtenSecond (t : Instant) : Nat := t.second.toNat + t.nanos / 1000000000

def writtenMillis (t : Instant) : Nat := t.nanos % 1000000000 / 1000000

/-- A leap second only ever continues second 59, so it comes after every other second of its
minute. -/
theorem compare_written (t u : Instant) :
    (Ord.compare t.second u.second).then (Ord.compare t.toMillis.nanos u.toMillis.nanos) =
      (Ord.compare t.writtenSecond u.writtenSecond).then
        (Ord.compare t.writtenMillis u.writtenMillis) := by
  have hplaces (v : Instant) : v.writtenSecond * 1000 + v.writtenMillis =
      v.second.toNat * 1000 + v.nanos / 1000000 := by
    simp only [writtenSecond, writtenMillis]
    omega
  have hmillis (v : Instant) : v.writtenMillis < 1000 := by
    simp only [writtenMillis]
    omega
  rw [← compare_natPlaces (hmillis t) (hmillis u), hplaces, hplaces]
  have ht := t.second_bounds
  have hu := u.second_bounds
  have hlt := t.nanos_lt
  have hlu := u.nanos_lt
  have hleap (v : Instant) : v.second < 59 → v.nanos < 1000000000 := by
    intro h
    have h59 : 1000000000 ≤ v.nanos → v.second = 59 := second_of_leap
    omega
  have hleapt := hleap t
  have hleapu := hleap u
  simp only [toMillis]
  rcases Int.lt_trichotomy t.second u.second with h | h | h
  · have hplace : t.second.toNat * 1000 + t.nanos / 1000000 <
        u.second.toNat * 1000 + u.nanos / 1000000 := by omega
    rw [Int.compare_eq_lt.2 h, Nat.compare_eq_lt.2 hplace]
    rfl
  · rw [Int.compare_eq_eq.2 h, Ordering.eq_then, h]
    rcases Nat.lt_trichotomy (t.nanos / 1000000) (u.nanos / 1000000) with hn | hn | hn
    · rw [Nat.compare_eq_lt.2 (by omega), Nat.compare_eq_lt.2 (by omega)]
    · rw [hn, Nat.compare_eq_eq.2 rfl, Nat.compare_eq_eq.2 rfl]
    · rw [Nat.compare_eq_gt.2 (by omega), Nat.compare_eq_gt.2 (by omega)]
  · have hplace : u.second.toNat * 1000 + u.nanos / 1000000 <
        t.second.toNat * 1000 + t.nanos / 1000000 := by omega
    rw [Int.compare_eq_gt.2 h, Nat.compare_eq_gt.2 hplace]
    rfl

theorem compare_toMillis (t u : Instant) :
    Instant.compare t.toMillis u.toMillis =
      (Ord.compare t.date.dayNumber u.date.dayNumber).then ((Ord.compare t.hour u.hour).then
        ((Ord.compare t.minute u.minute).then
          ((Ord.compare t.writtenSecond u.writtenSecond).then
            (Ord.compare t.writtenMillis u.writtenMillis)))) := by
  rw [← compare_written]
  have h := compare_seconds t u
  simp only [Instant.compare]
  rw [show t.toMillis.seconds = t.seconds from rfl, show u.toMillis.seconds = u.seconds from rfl, h]
  simp only [Ordering.then_assoc]

end Instant

end EventRollup
