import EventRollup.Proofs.Store.Matching
import EventRollup.Proofs.Time.Encoding

namespace EventRollup

namespace Instant

/-- Not after the other, both without what is finer than a millisecond. -/
def NotAfter (t u : Instant) : Prop := (compare t.toMillis u.toMillis).isLE = true

instance (t u : Instant) : Decidable (t.NotAfter u) := by
  unfold NotAfter
  infer_instance

theorem NotAfter.seconds_le {t u : Instant} (h : t.NotAfter u) : t.seconds ≤ u.seconds := by
  rw [NotAfter, compare, Ordering.isLE_then_iff_and, Int.isLE_compare] at h
  exact h.1

theorem NotAfter.year_le {t u : Instant} (h : t.NotAfter u) : t.date.year ≤ u.date.year := by
  have hdays : t.date.dayNumber ≤ u.date.dayNumber := by
    have hs := h.seconds_le
    simp only [date, Date.dayNumber_ofDayNumber]
    omega
  by_cases hy : u.date.year < t.date.year
  · have hlt := Date.dayNumber_lt u.valid_date t.valid_date (.inl hy)
    omega
  · omega

theorem FourDigitYear.between {t u v : Instant} (ht : t.FourDigitYear) (hv : v.FourDigitYear)
    (htu : t.NotAfter u) (huv : u.NotAfter v) : u.FourDigitYear :=
  ⟨Int.le_trans ht.1 htu.year_le, Int.le_trans huv.year_le hv.2⟩

end Instant

namespace TimeWindow

def Contains (w : TimeWindow) (t : Instant) : Prop := w.start.NotAfter t ∧ t.NotAfter w.stop

instance (w : TimeWindow) (t : Instant) : Decidable (w.Contains t) := by
  unfold Contains
  infer_instance

/-- The stored times that the filter of a window lets through. A date has to be readable and so do
both bounds; texts are compared as they are written. -/
def Admits (w : TimeWindow) : DateEncoding → Instant → Prop
  | .extended, t => (w.start.FourDigitYear ∧ t.FourDigitYear ∧ w.stop.FourDigitYear) ∧ w.Contains t
  | .string, t =>
    (w.start.compareWritten t).isLE = true ∧ (t.compareWritten w.stop).isLE = true

instance (w : TimeWindow) (e : DateEncoding) (t : Instant) : Decidable (w.Admits e t) := by
  cases e <;> unfold Admits <;> infer_instance

theorem admits_iff_contains {w : TimeWindow} (hs : w.start.FourDigitYear)
    (he : w.stop.FourDigitYear) (e : DateEncoding) (t : Instant) : w.Admits e t ↔ w.Contains t := by
  cases e with
  | extended =>
      refine ⟨fun h => h.2, fun h => ⟨⟨hs, hs.between he h.1 h.2, he⟩, h⟩⟩
  | string =>
      by_cases ht : t.FourDigitYear
      · rw [Admits, Instant.compareWritten_eq hs ht, Instant.compareWritten_eq ht he]
        rfl
      · constructor
        · intro h
          have hgt : (w.start.compareWritten t).isLE = false := by
            rw [← Instant.compareWritten_swap, Instant.compareWritten_signed ht hs]
            rfl
          rw [h.1] at hgt
          cases hgt
        · intro h
          exact absurd (hs.between he h.1 h.2) ht

end TimeWindow

namespace Filter

theorem timeWindow_some (field : FieldName) (w : TimeWindow) (e : DateEncoding) :
    timeWindow field (some w) e = ⟨[⟨field, [.compare .gte (e.encode w.start),
      .compare .lte (e.encode w.stop), .typeIs (.ofEncoding e)]⟩]⟩ := by
  simp [timeWindow, push, pushTo, empty]

theorem timeWindow_none (field : FieldName) (e : DateEncoding) :
    timeWindow field none e =
      ⟨[⟨field, [.compare .exists (.bool true), .typeIs (.ofEncoding e)]⟩]⟩ := by
  simp [timeWindow, push, pushTo, empty]

theorem timeWindow_total (field : FieldName) (w : Option TimeWindow) (e : DateEncoding) :
    (timeWindow field w e).Total := by
  have hcompare {op : FilterOperator} (h : op ≠ .regex) (v : Json) :
      (Condition.compare op v).Total := Condition.total_of_ne_regex h v
  have htype (type : ValueType) : (Condition.typeIs type).Total := Condition.total_typeIs type
  cases w with
  | none => simp [timeWindow_none, Total, conditions, hcompare, htype]
  | some w => simp [timeWindow_some, Total, conditions, hcompare, htype]

theorem typeIs_holds_encode (e : DateEncoding) (t : Instant) :
    (Condition.typeIs (.ofEncoding e)).holds (some (e.encode t)) = .ok true ↔
      (e = .extended → t.FourDigitYear) := by
  cases e with
  | extended =>
      simp only [ValueType.ofEncoding, Condition.holds, Option.bind_some, Json.asDate?_extended]
      by_cases h : t.FourDigitYear <;> simp [h]
  | string => simp [ValueType.ofEncoding, Condition.holds, DateEncoding.encode, Json.asString?]

theorem typeRank_extended (t : Instant) :
    (DateEncoding.extended.encode t).typeRank = if t.FourDigitYear then 9 else 4 := by
  have hrank : (DateEncoding.extended.encode t).typeRank =
      if (DateEncoding.extended.encode t).asDate?.isSome then 9 else 4 := rfl
  rw [hrank, Json.asDate?_extended]
  by_cases h : t.FourDigitYear <;> simp [h]

theorem compare_extended {t u : Instant} (ht : t.FourDigitYear) (hu : u.FourDigitYear) :
    Json.compare (DateEncoding.extended.encode t) (DateEncoding.extended.encode u) =
      Instant.compare t.toMillis u.toMillis := by
  have hdt := Json.asDate?_extended t
  have hdu := Json.asDate?_extended u
  rw [if_pos ht] at hdt
  rw [if_pos hu] at hdu
  simp only [DateEncoding.encode] at hdt hdu ⊢
  simp only [Json.compare, hdt, hdu]

theorem compare_encode {t u : Instant} (ht : t.FourDigitYear) (hu : u.FourDigitYear)
    (e : DateEncoding) : Json.compare (e.encode t) (e.encode u) =
      Instant.compare t.toMillis u.toMillis := by
  cases e with
  | extended => exact compare_extended ht hu
  | string => exact (Instant.compare_text t u).trans (Instant.compareWritten_eq ht hu)

/-- A date is never within a bound that is not readable itself: the two are of different types. -/
theorem matchesOrder_extended {t u : Instant} (ht : t.FourDigitYear) (accept : Ordering → Bool) :
    matchesOrder accept (some (DateEncoding.extended.encode t)) (DateEncoding.extended.encode u) =
      (decide u.FourDigitYear && accept (Instant.compare t.toMillis u.toMillis)) := by
  rw [matchesOrder, typeRank_extended, typeRank_extended, if_pos ht]
  by_cases hu : u.FourDigitYear
  · simp [hu, compare_extended ht hu]
  · simp [hu]

theorem matchesOrder_string (t u : Instant) (accept : Ordering → Bool) :
    matchesOrder accept (some (DateEncoding.string.encode t)) (DateEncoding.string.encode u) =
      accept (t.compareWritten u) := by
  simp [matchesOrder, DateEncoding.encode, Json.typeRank, Json.compare, Instant.compare_text]

theorem passes_timeWindow_iff {e : DateEncoding} {field : FieldName} {w : TimeWindow} {d : Document}
    {t : Instant} (h : d.get? field.text = some (e.encode t)) :
    (timeWindow field (some w) e).Passes d ↔ w.Admits e t := by
  have hpasses : (timeWindow field (some w) e).Passes d ↔
      (matchesOrder Ordering.isGE (some (e.encode t)) (e.encode w.start) = true ∧
        matchesOrder Ordering.isLE (some (e.encode t)) (e.encode w.stop) = true) ∧
      (e = .extended → t.FourDigitYear) := by
    rw [← typeIs_holds_encode]
    simp [timeWindow_some, Passes, conditions, h, Condition.holds, and_assoc]
  rw [hpasses]
  cases e with
  | extended =>
      by_cases ht : t.FourDigitYear
      · rw [matchesOrder_extended ht, matchesOrder_extended ht, ← Instant.compare_swap,
          Ordering.isGE_swap]
        simp only [Bool.and_eq_true, decide_eq_true_eq, TimeWindow.Admits, TimeWindow.Contains,
          Instant.NotAfter]
        constructor
        · rintro ⟨⟨⟨hs, hstart⟩, he, hstop⟩, -⟩
          exact ⟨⟨hs, ht, he⟩, hstart, hstop⟩
        · rintro ⟨⟨hs, -, he⟩, hstart, hstop⟩
          exact ⟨⟨⟨hs, hstart⟩, he, hstop⟩, fun _ => ht⟩
      · simp [TimeWindow.Admits, ht]
  | string =>
      rw [matchesOrder_string, matchesOrder_string, ← Instant.compareWritten_swap,
        Ordering.isGE_swap]
      simp [TimeWindow.Admits]

theorem passes_timeWindow_none_iff {e : DateEncoding} {field : FieldName} {d : Document}
    {t : Instant} (h : d.get? field.text = some (e.encode t)) :
    (timeWindow field none e).Passes d ↔ (e = .extended → t.FourDigitYear) := by
  rw [← typeIs_holds_encode]
  simp [timeWindow_none, Passes, conditions, h, Condition.holds, matchesPresence]

/-- What a window does to a stored time. It is exact between bounds of four-digit years. A bound
outside them is not: in a store of dates it lets nothing through, and in a store of texts an end
with a sign turns away every time whose year has none. -/
theorem accepts_timeWindow {e : DateEncoding} {field : FieldName} {w : TimeWindow} {d : Document}
    {t : Instant} (h : d.get? field.text = some (e.encode t)) :
    (timeWindow field (some w) e).accepts d = .ok (decide (w.Admits e t)) ∧
      (w.start.FourDigitYear → w.stop.FourDigitYear → (w.Admits e t ↔ w.Contains t)) ∧
      (e = .extended → ¬ (w.start.FourDigitYear ∧ w.stop.FourDigitYear) → ¬ w.Admits e t) ∧
      (e = .string → t.FourDigitYear → ¬ w.stop.FourDigitYear → ¬ w.Admits e t) := by
  refine ⟨?_, ?_, ?_, ?_⟩
  · rw [accepts_total (timeWindow_total field (some w) e) d]
    simp only [passes_timeWindow_iff h]
  · intro hs he
    exact TimeWindow.admits_iff_contains hs he e t
  · rintro rfl hfar hadmits
    exact hfar ⟨hadmits.1.1, hadmits.1.2.2⟩
  · rintro rfl ht hfar hadmits
    have hgt : (t.compareWritten w.stop).isLE = false := by
      rw [← Instant.compareWritten_swap, Instant.compareWritten_signed hfar ht]
      rfl
    rw [hadmits.2] at hgt
    cases hgt

theorem accepts_timeWindow_endless :
    (timeWindow ⟨"ts", by decide⟩ (some ⟨.epoch, .latest⟩) .extended).accepts
        [("ts", DateEncoding.extended.encode .epoch)] = .ok false ∧
      TimeWindow.Contains ⟨.epoch, .latest⟩ .epoch := by
  have h := @accepts_timeWindow .extended ⟨"ts", by decide⟩ ⟨.epoch, .latest⟩
    [("ts", DateEncoding.extended.encode .epoch)] .epoch rfl
  refine ⟨?_, by decide⟩
  rw [h.1, decide_eq_false (h.2.2.1 rfl (by decide))]

end Filter

end EventRollup
