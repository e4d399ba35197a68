namespace EventRollup

structure Date where
  year : Int
  month : Int
  day : Int
deriving DecidableEq

namespace Date

def isLeapYear (year : Int) : Bool :=
  decide (year % 4 = 0 ∧ (year % 100 ≠ 0 ∨ year % 400 = 0))

def daysInMonth (year month : Int) : Int :=
  if month = 2 then (if isLeapYear year then 29 else 28)
  else if month = 4 ∨ month = 6 ∨ month = 9 ∨ month = 11 then 30
  else 31

def Valid (d : Date) : Prop :=
  1 ≤ d.month ∧ d.month ≤ 12 ∧ 1 ≤ d.day ∧ d.day ≤ daysInMonth d.year d.month

instance (d : Date) : Decidable d.Valid := by unfold Valid; infer_instance

/-- Days from 0000-03-01 to the first of March of a year. A year that begins in March has the leap
day as its last. -/
def daysBeforeYear (y : Int) : Int := 365 * y + y / 4 - y / 100 + y / 400

def daysBeforeMonth (m : Int) : Int := (153 * m + 2) / 5

def dayNumber (d : Date) : Int :=
  if d.month ≤ 2 then
    daysBeforeYear (d.year - 1) + daysBeforeMonth (d.month + 9) + (d.day - 1 - 719468)
  else daysBeforeYear d.year + daysBeforeMonth (d.month - 3) + (d.day - 1 - 719468)

/-- The year, begun in March, of the day that is `z` days after 0000-03-01: whole spans of 400, 100,
4 and 1 years, the last century and the last year of a span being the ones that may be a day
longer. -/
def yearOf (z : Int) : Int :=
  let century := min (z % 146097 / 36524) 3
  let inCentury := z % 146097 - century * 36524
  z / 146097 * 400 + century * 100 + inCentury / 1461 * 4 + min (inCentury % 1461 / 365) 3

def ofDayNumber (n : Int) : Date :=
  let z := n + 719468
  let y := yearOf z
  let dayOfYear := z - daysBeforeYear y
  let m := (5 * dayOfYear + 2) / 153
  let day := dayOfYear - daysBeforeMonth m + 1
  if m < 10 then ⟨y, m + 3, day⟩ else ⟨y + 1, m - 9, day⟩

theorem daysBeforeYear_spans (e c q k : Int) (hc : 0 ≤ c ∧ c ≤ 3) (hq : 0 ≤ q ∧ q ≤ 24)
    (hk : 0 ≤ k ∧ k ≤ 3) :
    daysBeforeYear (e * 400 + c * 100 + q * 4 + k) =
      146097 * e + 36524 * c + 1461 * q + 365 * k := by
  have h400 : (e * 400 + c * 100 + q * 4 + k) / 400 = e := by omega
  have h100 : (e * 400 + c * 100 + q * 4 + k) / 100 = 4 * e + c := by omega
  have h4 : (e * 400 + c * 100 + q * 4 + k) / 4 = 100 * e + 25 * c + q := by omega
  rw [daysBeforeYear, h400, h100, h4]
  omega

theorem daysBeforeYear_succ (y : Int) :
    daysBeforeYear (y + 1) = daysBeforeYear y + if isLeapYear (y + 1) then 366 else 365 := by
  unfold daysBeforeYear isLeapYear
  split <;> rename_i h <;> simp only [decide_eq_true_eq] at h <;> omega

theorem daysBeforeYear_mono {a b : Int} (h : a ≤ b) : daysBeforeYear a ≤ daysBeforeYear b := by
  unfold daysBeforeYear
  omega

theorem daysBeforeYear_yearOf (z : Int) :
    daysBeforeYear (yearOf z) ≤ z ∧ z < daysBeforeYear (yearOf z + 1) := by
  obtain ⟨e, c, q, k, d, hc, hq, hk, hd, hz, hy, hlong⟩ : ∃ e c q k d : Int,
      (0 ≤ c ∧ c ≤ 3) ∧ (0 ≤ q ∧ q ≤ 24) ∧ (0 ≤ k ∧ k ≤ 3) ∧ (0 ≤ d ∧ d ≤ 365) ∧
      z = 146097 * e + 36524 * c + 1461 * q + 365 * k + d ∧
      yearOf z = e * 400 + c * 100 + q * 4 + k ∧ (d = 365 → k = 3 ∧ (q = 24 → c = 3)) :=
    ⟨z / 146097, min (z % 146097 / 36524) 3,
      (z % 146097 - min (z % 146097 / 36524) 3 * 36524) / 1461,
      min ((z % 146097 - min (z % 146097 / 36524) 3 * 36524) % 1461 / 365) 3,
      (z % 146097 - min (z % 146097 / 36524) 3 * 36524) % 1461 -
        min ((z % 146097 - min (z % 146097 / 36524) 3 * 36524) % 1461 / 365) 3 * 365,
      by omega, by omega, by omega, by omega, by omega, rfl, by omega⟩
  rw [daysBeforeYear_succ, hy, daysBeforeYear_spans e c q k hc hq hk]
  refine ⟨by omega, ?_⟩
  unfold isLeapYear
  split <;> rename_i h <;> simp only [decide_eq_true_eq] at h <;> omega

theorem yearOf_eq {y z : Int} (hl : daysBeforeYear y ≤ z) (hu : z < daysBeforeYear (y + 1)) :
    yearOf z = y := by
  have h := daysBeforeYear_yearOf z
  have h1 : ¬ yearOf z + 1 ≤ y := fun hle => by have := daysBeforeYear_mono hle; omega
  have h2 : ¬ y + 1 ≤ yearOf z := fun hle => by have := daysBeforeYear_mono hle; omega
  omega

theorem dayNumber_ofDayNumber (n : Int) : (ofDayNumber n).dayNumber = n := by
  have h := daysBeforeYear_yearOf (n + 719468)
  rw [daysBeforeYear_succ] at h
  have hlong : (if isLeapYear (yearOf (n + 719468) + 1) then (366 : Int) else 365) ≤ 366 := by
    split <;> decide
  unfold ofDayNumber dayNumber daysBeforeMonth
  dsimp only
  split
  · rw [if_neg (by dsimp only; omega)]
    dsimp only
    omega
  · rw [if_pos (by dsimp only; omega)]
    dsimp only
    rw [Int.add_sub_cancel]
    omega

theorem valid_ofDayNumber (n : Int) : (ofDayNumber n).Valid := by
  have h := daysBeforeYear_yearOf (n + 719468)
  rw [daysBeforeYear_succ] at h
  unfold ofDayNumber Valid daysInMonth daysBeforeMonth
  dsimp only
  split
  · dsimp only
    split at h <;> repeat' split
    all_goals omega
  · dsimp only
    split at h <;> repeat' split
    all_goals omega

theorem Valid.day_le {d : Date} (h : d.Valid) : d.day ≤ 31 := by
  obtain ⟨_, _, _, hd⟩ := h
  unfold daysInMonth at hd
  repeat' split at hd
  all_goals omega

theorem daysInMonth_eq {m : Int} (y : Int) (hl : 3 ≤ m) (hu : m ≤ 12) :
    daysInMonth y m = daysBeforeMonth (m - 2) - daysBeforeMonth (m - 3) := by
  rcases (by omega : m = 3 ∨ m = 4 ∨ m = 5 ∨ m = 6 ∨ m = 7 ∨ m = 8 ∨ m = 9 ∨ m = 10 ∨ m = 11 ∨
    m = 12) with rfl | rfl | rfl | rfl | rfl | rfl | rfl | rfl | rfl | rfl <;> rfl

theorem month_eq {m day : Int} (hl : 1 ≤ day)
    (hu : day ≤ daysBeforeMonth (m + 1) - daysBeforeMonth m) :
    (5 * (daysBeforeMonth m + (day - 1)) + 2) / 153 = m := by
  unfold daysBeforeMonth at *
  omega

theorem ofDayNumber_eq {y m day n : Int}
    (hn : n + 719468 = daysBeforeYear y + (daysBeforeMonth m + (day - 1)))
    (hm : 0 ≤ m) (hl : 1 ≤ day) (hu : day ≤ daysBeforeMonth (m + 1) - daysBeforeMonth m)
    (hy : daysBeforeMonth m + day ≤ daysBeforeYear (y + 1) - daysBeforeYear y) :
    ofDayNumber n = if m < 10 then ⟨y, m + 3, day⟩ else ⟨y + 1, m - 9, day⟩ := by
  have h0 : 0 ≤ daysBeforeMonth m := by unfold daysBeforeMonth; omega
  have hyear : yearOf (n + 719468) = y := yearOf_eq (by omega) (by omega)
  have hrest : n + 719468 - daysBeforeYear y = daysBeforeMonth m + (day - 1) := by omega
  have hday : daysBeforeMonth m + (day - 1) - daysBeforeMonth m + 1 = day := by omega
  unfold ofDayNumber
  dsimp only
  rw [hyear, hrest, month_eq hl hu, hday]

theorem ofDayNumber_dayNumber {d : Date} (h : d.Valid) : ofDayNumber d.dayNumber = d := by
  obtain ⟨y, m, day⟩ := d
  obtain ⟨h1, h12, hd, hdays⟩ := h
  dsimp only at h1 h12 hd hdays
  have hlast := daysBeforeYear_succ (y - 1)
  rw [Int.sub_add_cancel] at hlast
  have hnext := daysBeforeYear_succ y
  unfold dayNumber
  dsimp only
  by_cases hm : m ≤ 2
  · rw [if_pos hm, @ofDayNumber_eq (y - 1) (m + 9) day _ (by omega) (by omega) hd]
    · rw [if_neg (by omega), Int.sub_add_cancel, Int.add_sub_cancel]
    · unfold daysInMonth at hdays
      unfold daysBeforeMonth
      repeat' split at hdays
      all_goals omega
    · rw [Int.sub_add_cancel, hlast]
      unfold daysInMonth at hdays
      unfold daysBeforeMonth
      repeat' split at hdays
      all_goals simp_all
      all_goals omega
  · rw [daysInMonth_eq y (by omega) h12] at hdays
    rw [if_neg hm, @ofDayNumber_eq y (m - 3) day _ (by omega) (by omega) hd]
    · rw [if_pos (by omega), Int.sub_add_cancel]
    · rw [show m - 3 + 1 = m - 2 by omega]
      exact hdays
    · rw [hnext]
      unfold daysBeforeMonth at *
      split <;> omega

end Date

end EventRollup
