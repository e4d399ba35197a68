import EventRollup.Proofs.Text.Scanning
import EventRollup.Proofs.Time.Chronology
import EventRollup.Time.Timestamp

namespace EventRollup

namespace Instant

/-- The years that are written with four digits and no sign. -/
def FourDigitYear (t : Instant) : Prop := 0 ≤ t.date.year ∧ t.date.year ≤ 9999

instance (t : Instant) : Decidable t.FourDigitYear := by
  unfold FourDigitYear
  infer_instance

theorem chars_toMillis (t : Instant) : t.toMillis.chars = t.chars := by
  have hlow : t.nanos / 1000000 * 1000000 / 1000000000 = t.nanos / 1000000000 := by omega
  have hmillis : t.nanos / 1000000 * 1000000 % 1000000000 / 1000000 =
      t.nanos % 1000000000 / 1000000 := by omega
  simp only [chars, toMillis, hlow, hmillis]
  rfl

theorem text_toMillis (t : Instant) : t.toMillis.text = t.text := by
  rw [text, text, chars_toMillis]

theorem field_bounds (t : Instant) : t.date.month.toNat < 100 ∧ t.date.day.toNat < 100 ∧
    t.hour.toNat < 100 ∧ t.minute.toNat < 100 ∧ t.writtenSecond < 100 ∧ t.writtenMillis < 1000 := by
  have hv := t.valid_date
  have hday := hv.day_le
  have hmonth := hv.2.1
  have hh := t.hour_bounds
  have hm := t.minute_bounds
  have hs := t.second_bounds
  have hn := t.nanos_lt
  simp only [writtenSecond, writtenMillis]
  omega

end Instant

namespace Timestamp

theorem skipBlanks_padded (width n : Nat) (r : List Char) :
    skipBlanks (Text.padded width n ++ r) = Text.padded width n ++ r := by
  obtain ⟨c, s, hcons, hc, _⟩ := Text.padded_cons width n
  rw [hcons, List.cons_append, skipBlanks,
    List.dropWhile_cons_of_neg (by simp [Text.not_isBlank_of_isDigit hc])]

theorem loosePair?_padded {n : Nat} (h : n < 100) (r : List Char) :
    loosePair? (Text.padded 2 n ++ r) = some (n, r) := by
  rw [loosePair?, skipBlanks_padded, Text.upToDigits?_padded (by decide) h]

theorem rfc3339?_signed {c : Char} (hc : c.isDigit = false) (r : List Char) :
    rfc3339? (c :: r) = none := by
  have h : Text.exactDigits? 4 (c :: r) = none := by
    simp only [Text.exactDigits?, List.take_succ_cons, List.all_cons, hc, Bool.false_and,
      Bool.false_eq_true, and_false, if_false]
  simp only [rfc3339?, h, bind, Option.bind]

theorem looseTime?_padded (date : Date) {hour minute second millis : Nat} (h1 : hour < 100)
    (h2 : minute < 100) (h3 : second < 100) (h4 : millis < 1000) {r : List Char}
    (hr : r.takeWhile Char.isDigit = []) :
    looseTime? date (Text.padded 2 hour ++ ':' :: (Text.padded 2 minute ++
      ':' :: (Text.padded 2 second ++ '.' :: (Text.padded 3 millis ++ r)))) =
      if r.isEmpty then some ⟨date, hour, minute, second, millis * 1000000⟩ else none := by
  simp only [looseTime?, loosePair?_padded h1, loosePair?_padded h2, loosePair?_padded h3,
    literal?, if_true, fraction?_padded h4 hr, bind, Option.bind]

end Timestamp

namespace Date

theorem yearChars_cons (y : Int) : ∃ c r, yearChars y = c :: r ∧ ∀ d ∈ r, d.isDigit = true := by
  unfold yearChars
  split
  · obtain ⟨c, r, hcons, _, hr⟩ := Text.padded_cons 4 y.toNat
    exact ⟨c, r, hcons, hr⟩
  · exact ⟨_, _, rfl, fun d hd => Text.isDigit_of_mem_padded hd⟩

theorem yearChars_of_fourDigit {y : Int} (h : 0 ≤ y ∧ y ≤ 9999) :
    yearChars y = Text.padded 4 y.toNat := if_pos h

theorem yearChars_of_not_fourDigit {y : Int} (h : ¬ (0 ≤ y ∧ y ≤ 9999)) :
    ∃ c, (c = '+' ∨ c = '-') ∧ yearChars y = c :: Text.padded 4 y.natAbs := by
  rw [yearChars, if_neg h]
  split
  · exact ⟨'-', .inr rfl, rfl⟩
  · exact ⟨'+', .inl rfl, rfl⟩

end Date

namespace Instant

def yearless (t : Instant) : List Char :=
  Text.padded 2 t.date.month.toNat ++ '-' :: (Text.padded 2 t.date.day.toNat ++
    'T' :: (Text.padded 2 t.hour.toNat ++ ':' :: (Text.padded 2 t.minute.toNat ++
      ':' :: (Text.padded 2 t.writtenSecond ++ '.' :: (Text.padded 3 t.writtenMillis ++ ['Z'])))))

theorem chars_eq (t : Instant) : t.chars = Date.yearChars t.date.year ++ '-' :: t.yearless := by
  simp only [chars, Date.chars, yearless, writtenSecond, writtenMillis, List.append_assoc,
    List.cons_append]

def bare (t : Instant) : List Char :=
  Date.yearChars t.date.year ++ '-' :: (Text.padded 2 t.date.month.toNat ++
    '-' :: (Text.padded 2 t.date.day.toNat ++ 'T' :: (Text.padded 2 t.hour.toNat ++
      ':' :: (Text.padded 2 t.minute.toNat ++ ':' :: (Text.padded 2 t.writtenSecond ++
        '.' :: (Text.padded 3 t.writtenMillis ++ []))))))

theorem chars_eq_bare (t : Instant) : t.chars = t.bare ++ ['Z'] := by
  simp only [chars_eq, yearless, bare, List.append_assoc, List.cons_append, List.nil_append]

theorem bare_append (t : Instant) (r : List Char) : t.bare ++ r = t.date.chars ++
    'T' :: (Text.padded 2 t.hour.toNat ++ ':' :: (Text.padded 2 t.minute.toNat ++
      ':' :: (Text.padded 2 t.writtenSecond ++ '.' :: (Text.padded 3 t.writtenMillis ++ r)))) := by
  simp only [bare, Date.chars, List.append_assoc, List.cons_append, List.nil_append]

theorem trimChars_chars (t : Instant) : Text.trimChars t.chars = t.chars := by
  have hfront : t.chars.dropWhile Text.isBlank = t.chars := by
    rw [chars_eq]
    by_cases h : 0 ≤ t.date.year ∧ t.date.year ≤ 9999
    · rw [Date.yearChars_of_fourDigit h]
      exact Timestamp.skipBlanks_padded 4 _ _
    · obtain ⟨c, hc, hy⟩ := Date.yearChars_of_not_fourDigit h
      rw [hy, List.cons_append, List.dropWhile_cons_of_neg]
      rcases hc with rfl | rfl <;> decide
  have hblank : Text.isBlank 'Z' = false := by decide
  rw [Text.trimChars, hfront, chars_eq_bare, List.reverse_append, List.reverse_singleton,
    List.singleton_append, List.dropWhile_cons_of_neg (by simp [hblank]), List.reverse_cons,
    List.reverse_reverse]

end Instant

namespace Timestamp

theorem instant?_text {t : Instant} (h : t.FourDigitYear) : instant? t.text = some t.toMillis := by
  simp only [instant?, Instant.text, String.toList_ofList, t.trimChars_chars, rfc3339?_chars h]
  rfl

theorem rfc3339?_chars_eq_none {t : Instant} (h : ¬ t.FourDigitYear) : rfc3339? t.chars = none := by
  obtain ⟨c, hc, hy⟩ := Date.yearChars_of_not_fourDigit h
  rw [t.chars_eq, hy, List.cons_append]
  exact rfc3339?_signed (by rcases hc with rfl | rfl <;> decide) _

theorem looseYear?_yearChars (y : Int) (r : List Char) :
    looseYear? (Date.yearChars y ++ '-' :: r) = some (y, '-' :: r) := by
  have hrun := Text.digitRun?_padded (show Char.isDigit '-' = false by decide) 4 y.natAbs r
  unfold Date.yearChars
  split
  · rename_i h
    obtain ⟨c, s, hcons, hc, -⟩ := Text.padded_cons 4 y.toNat
    have hread := Text.upToDigits?_padded (show 0 < 4 by decide) (show y.toNat < 10000 by omega)
      ('-' :: r)
    rw [looseYear?, skipBlanks_padded]
    rw [hcons, List.cons_append] at hread ⊢
    split
    · rename_i hhyphen
      cases hhyphen
      cases hc
    · rename_i hplus
      cases hplus
      cases hc
    · rw [hread, Option.map_some]
      exact congrArg (fun n => some (n, '-' :: r)) (Int.toNat_of_nonneg h.1)
  · by_cases hneg : y < 0
    · rw [if_pos hneg, List.cons_append, looseYear?, skipBlanks,
        List.dropWhile_cons_of_neg (by decide)]
      simp only [hrun, Option.map_some, Text.digitsValue_padded]
      rw [Int.ofNat_natAbs_of_nonpos (Int.le_of_lt hneg), Int.neg_neg]
    · rw [if_neg hneg, List.cons_append, looseYear?, skipBlanks,
        List.dropWhile_cons_of_neg (by decide)]
      simp only [hrun, Option.map_some, Text.digitsValue_padded]
      rw [Int.natAbs_of_nonneg (Int.not_lt.1 hneg)]

theorem looseDate?_chars {d : Date} (hd : d.Valid) (r : List Char) :
    looseDate? (d.chars ++ r) = some (d, r) := by
  have hlast := hd.day_le
  obtain ⟨h1, h12, hday, -⟩ := hd
  simp only [Date.chars, List.append_assoc, List.cons_append, looseDate?, looseYear?_yearChars,
    literal?, if_true, loosePair?_padded (show d.month.toNat < 100 by omega),
    loosePair?_padded (show d.day.toNat < 100 by omega), bind, Option.bind]
  rw [Int.toNat_of_nonneg (Int.le_trans (by decide) h1),
    Int.toNat_of_nonneg (Int.le_trans (by decide) hday)]

theorem instant?_text_eq_none {t : Instant} (h : ¬ t.FourDigitYear) : instant? t.text = none := by
  obtain ⟨-, -, hhour, hminute, hsecond, hmillis⟩ := t.field_bounds
  have hnaive : naive? t.chars = none := by
    rw [t.chars_eq_bare, t.bare_append]
    simp only [naive?, looseDate?_chars t.valid_date, bind, Option.bind,
      looseTime?_padded t.date hhour hminute hsecond hmillis
        (show List.takeWhile Char.isDigit ['Z'] = [] from rfl), List.isEmpty_cons,
      Bool.false_eq_true, if_false]
  have hmidnight : midnight? t.chars = none := by
    rw [t.chars_eq_bare, t.bare_append]
    simp only [midnight?, looseDate?_chars t.valid_date, bind, Option.bind, List.isEmpty_cons,
      Bool.false_eq_true, if_false]
  simp only [instant?, Instant.text, String.toList_ofList, t.trimChars_chars,
    rfc3339?_chars_eq_none h, hnaive, hmidnight]
  rfl

/-- Reads the canonical text of any year. Without the `Z` at its end it is of the form without an
offset, which takes signed years. -/
def canonical? (text : String) : Option Instant := naive? text.toList.dropLast

theorem canonical?_text (t : Instant) : canonical? t.text = some t.toMillis := by
  obtain ⟨-, -, hhour, hminute, hsecond, hmillis⟩ := t.field_bounds
  rw [canonical?, Instant.text, String.toList_ofList, t.chars_eq_bare, List.dropLast_concat, naive?,
    ← List.append_nil t.bare, t.bare_append, looseDate?_chars t.valid_date]
  simp only [bind, Option.bind, looseTime?_padded t.date hhour hminute hsecond hmillis
    (show List.takeWhile Char.isDigit [] = [] from rfl), List.isEmpty_nil, if_true]
  exact Local.instant?_written t

end Timestamp

namespace Date

theorem yearChars_injective {y z : Int} (h : yearChars y = yearChars z) : y = z := by
  have hdigits {m : Nat} {n : Nat} (he : Text.padded 4 m = Text.padded 4 n) : m = n := by
    rw [← Text.digitsValue_padded 4 m, he, Text.digitsValue_padded]
  have hsigned {m n : Nat} {c : Char} (hc : c.isDigit = false)
      (he : Text.padded 4 m = c :: Text.padded 4 n) : False := by
    obtain ⟨d, r, hcons, hd, _⟩ := Text.padded_cons 4 m
    rw [hcons] at he
    rw [(List.cons.inj he).1, hc] at hd
    cases hd
  by_cases hy : 0 ≤ y ∧ y ≤ 9999
  · rw [yearChars_of_fourDigit hy] at h
    by_cases hz : 0 ≤ z ∧ z ≤ 9999
    · rw [yearChars_of_fourDigit hz] at h
      have hval := hdigits h
      omega
    · obtain ⟨c, hc, hsign⟩ := yearChars_of_not_fourDigit hz
      rw [hsign] at h
      exact (hsigned (by rcases hc with rfl | rfl <;> decide) h).elim
  · by_cases hz : 0 ≤ z ∧ z ≤ 9999
    · obtain ⟨c, hc, hsign⟩ := yearChars_of_not_fourDigit hy
      rw [hsign, yearChars_of_fourDigit hz] at h
      exact (hsigned (by rcases hc with rfl | rfl <;> decide) h.symm).elim
    · rw [yearChars, if_neg hy, yearChars, if_neg hz] at h
      obtain ⟨hsign, htail⟩ := List.cons.inj h
      have habs := hdigits htail
      by_cases hneg : y < 0 <;> by_cases hneg' : z < 0
      · omega
      · rw [if_pos hneg, if_neg hneg'] at hsign
        exact absurd hsign (by decide)
      · rw [if_neg hneg, if_pos hneg'] at hsign
        exact absurd hsign (by decide)
      · omega

/-- The hyphen behind a year comes before every digit, so the shorter year comes first, as it would
without the hyphen. -/
theorem compare_digits_hyphen {a b : List Char} (ha : ∀ c ∈ a, c.isDigit = true)
    (hb : ∀ c ∈ b, c.isDigit = true) (x y : List Char) :
    compare (a ++ '-' :: x) (b ++ '-' :: y) = (compare a b).then (compare x y) := by
  have hhyphen {c : Char} (hc : c.isDigit = true) : '-'.toNat < c.toNat := by
    have hl := (Char.isDigit_iff_toNat.1 hc).1
    have h0 : '0'.toNat = '-'.toNat + 3 := rfl
    omega
  induction a generalizing b with
  | nil =>
      cases b with
      | nil => exact compare_cons_self '-' x y
      | cons d s =>
          rw [List.nil_append, List.cons_append, List.compare_cons_cons, compare_char,
            Nat.compare_eq_lt.2 (hhyphen (hb d List.mem_cons_self))]
          rfl
  | cons c r ih =>
      cases b with
      | nil =>
          rw [List.nil_append, List.cons_append, List.compare_cons_cons, compare_char,
            Nat.compare_eq_gt.2 (hhyphen (ha c List.mem_cons_self))]
          rfl
      | cons d s =>
          rw [List.cons_append, List.cons_append, List.compare_cons_cons, List.compare_cons_cons,
            ih (fun e he => ha e (List.mem_cons_of_mem c he))
              (fun e he => hb e (List.mem_cons_of_mem d he)), Ordering.then_assoc]

theorem compare_yearChars_hyphen (y z : Int) (u v : List Char) :
    compare (yearChars y ++ '-' :: u) (yearChars z ++ '-' :: v) =
      (compare (yearChars y) (yearChars z)).then (compare u v) := by
  obtain ⟨c, r, hy, hr⟩ := yearChars_cons y
  obtain ⟨d, s, hz, hs⟩ := yearChars_cons z
  rw [hy, hz, List.cons_append, List.cons_append, List.compare_cons_cons, List.compare_cons_cons,
    compare_digits_hyphen hr hs, Ordering.then_assoc]

theorem compare_yearChars {y z : Int} (hy : 0 ≤ y ∧ y ≤ 9999) (hz : 0 ≤ z ∧ z ≤ 9999) :
    compare (yearChars y) (yearChars z) = compare y z := by
  rw [yearChars_of_fourDigit hy, yearChars_of_fourDigit hz,
    Text.compare_padded (by decide) (show y.toNat < 10000 by omega) (show z.toNat < 10000 by omega),
    ← compare_natCast, Int.toNat_of_nonneg hy.1, Int.toNat_of_nonneg hz.1]

/-- A signed year is written before every year of four digits, on whichever side of them it lies. -/
theorem compare_yearChars_signed {y z : Int} (hy : ¬ (0 ≤ y ∧ y ≤ 9999))
    (hz : 0 ≤ z ∧ z ≤ 9999) : compare (yearChars y) (yearChars z) = .lt := by
  obtain ⟨c, hc, hcons⟩ := yearChars_of_not_fourDigit hy
  obtain ⟨d, r, hd, hdigit, _⟩ := Text.padded_cons 4 z.toNat
  have hl := (Char.isDigit_iff_toNat.1 hdigit).1
  have hlt : c.toNat < d.toNat := by
    have h0 : '0'.toNat = 48 := rfl
    have hplus : '+'.toNat = 43 := rfl
    have hminus : '-'.toNat = 45 := rfl
    rcases hc with rfl | rfl <;> omega
  rw [hcons, yearChars_of_fourDigit hz, hd, List.compare_cons_cons, compare_char,
    Nat.compare_eq_lt.2 hlt]
  rfl

end Date

namespace Instant

theorem compare_yearless (t u : Instant) :
    Ord.compare t.yearless u.yearless =
      (Ord.compare t.date.month u.date.month).then ((Ord.compare t.date.day u.date.day).then
        ((Ord.compare t.hour u.hour).then ((Ord.compare t.minute u.minute).then
          ((Ord.compare t.writtenSecond u.writtenSecond).then
            (Ord.compare t.writtenMillis u.writtenMillis))))) := by
  obtain ⟨ht1, ht2, ht3, ht4, ht5, ht6⟩ := t.field_bounds
  obtain ⟨hu1, hu2, hu3, hu4, hu5, hu6⟩ := u.field_bounds
  have hfield {m n : Nat} (hm : m < 100) (hn : n < 100) (x y : List Char) :
      Ord.compare (Text.padded 2 m ++ x) (Text.padded 2 n ++ y) =
        (Ord.compare m n).then (Ord.compare x y) := by
    rw [compare_append, Text.compare_padded (by decide) hm hn]
    rw [Text.length_padded (by decide) hm, Text.length_padded (by decide) hn]
  have hmillis : Ord.compare (Text.padded 3 t.writtenMillis ++ ['Z'])
      (Text.padded 3 u.writtenMillis ++ ['Z']) = Ord.compare t.writtenMillis u.writtenMillis := by
    rw [compare_append, Text.compare_padded (by decide) ht6 hu6, compare_cons_self]
    · exact Ordering.then_eq
    · rw [Text.length_padded (by decide) ht6, Text.length_padded (by decide) hu6]
  have hnat {a b : Int} (ha : 0 ≤ a) (hb : 0 ≤ b) :
      Ord.compare a.toNat b.toNat = Ord.compare a b := by
    rw [← compare_natCast, Int.toNat_of_nonneg ha, Int.toNat_of_nonneg hb]
  have hmonth :=
    hnat (Int.le_trans (by decide) t.valid_date.1) (Int.le_trans (by decide) u.valid_date.1)
  have hday := hnat (Int.le_trans (by decide) t.valid_date.2.2.1)
    (Int.le_trans (by decide) u.valid_date.2.2.1)
  simp only [yearless, hfield ht1 hu1, hfield ht2 hu2, hfield ht3 hu3, hfield ht4 hu4,
    hfield ht5 hu5, compare_cons_self, hmillis, hmonth, hday, hnat t.hour_bounds.1 u.hour_bounds.1,
    hnat t.minute_bounds.1 u.minute_bounds.1]

def compareWritten (t u : Instant) : Ordering :=
  (Ord.compare (Date.yearChars t.date.year) (Date.yearChars u.date.year)).then
    (Instant.compare t.toMillis u.toMillis)

theorem compare_text (t u : Instant) : Ord.compare t.text u.text = compareWritten t u := by
  rw [compare_string, text, text, String.toList_ofList, String.toList_ofList, chars_eq, chars_eq,
    Date.compare_yearChars_hyphen, compareWritten]
  cases h : Ord.compare (Date.yearChars t.date.year) (Date.yearChars u.date.year) with
  | lt => rfl
  | gt => rfl
  | eq =>
      have hyear : t.date.year = u.date.year :=
        Date.yearChars_injective (Std.LawfulEqOrd.compare_eq_iff_eq.1 h)
      rw [Ordering.eq_then, Ordering.eq_then, compare_yearless, compare_toMillis,
        Date.compare_dayNumber t.valid_date u.valid_date, Int.compare_eq_eq.2 hyear,
        Ordering.eq_then, Ordering.then_assoc]

/-- In the years of four digits the order of texts is the order of time, to the millisecond. -/
theorem compareWritten_eq {t u : Instant} (ht : t.FourDigitYear) (hu : u.FourDigitYear) :
    compareWritten t u = Instant.compare t.toMillis u.toMillis := by
  rw [compareWritten, Date.compare_yearChars ht hu, compare_toMillis,
    Date.compare_dayNumber t.valid_date u.valid_date]
  cases Ord.compare t.date.year u.date.year <;> rfl

theorem compareWritten_swap (t u : Instant) : (compareWritten t u).swap = compareWritten u t := by
  rw [← compare_text, ← compare_text]
  exact Std.OrientedOrd.eq_swap.symm

theorem compareWritten_signed {t u : Instant} (ht : ¬ t.FourDigitYear) (hu : u.FourDigitYear) :
    compareWritten t u = .lt := by
  rw [compareWritten, Date.compare_yearChars_signed ht hu]
  rfl

end Instant

end EventRollup
