import EventRollup.Event
import EventRollup.Proofs.Pipeline.TimeWindow
import EventRollup.Proofs.Store.Documents

namespace EventRollup

namespace Event

theorem normalize_eq_ok_iff {field : FieldName} {e : DateEncoding} {now : Instant}
    {d stored : Document} : normalize field e now d = .ok stored ↔
      ∃ t, time field now d = .ok t ∧ stored = d.insert field.text (e.encode t) := by
  cases h : time field now d with
  | error fault => simp [normalize, h, bind, Except.bind]
  | ok t => simp [normalize, h, bind, Except.bind, eq_comm]

theorem time_of_stored {field : FieldName} {e : DateEncoding} {t : Instant} {d : Document}
    (h : d.get? field.text = some (e.encode t)) (later : Instant) :
    (t.FourDigitYear → time field later d = .ok t.toMillis) ∧
      (¬ t.FourDigitYear → ∃ value fault, time field later d = .error (.timestamp value fault)) := by
  cases e with
  | extended =>
      have hdate := Json.asDate?_extended t
      rw [DateEncoding.encode] at h hdate
      constructor
      · intro hy
        rw [if_pos hy] at hdate
        simp only [time, h, hdate]
      · intro hy
        rw [if_neg hy] at hdate
        simp only [time, h, hdate]
        exact ⟨_, _, rfl⟩
  | string =>
      rw [DateEncoding.encode] at h
      constructor
      · intro hy
        simp only [time, h, Instant.coerce, Instant.parse, Timestamp.instant?_text hy]
      · intro hy
        simp only [time, h, Instant.coerce, Instant.parse, Timestamp.instant?_text_eq_none hy]
        exact ⟨_, _, rfl⟩

/-- What becomes of the time of an accepted document. In a year of four digits it reads back to the
millisecond, a query without a range sees it and can bin it, and normalizing again changes nothing.
In any other year the stored field is no time any more: it cannot be decoded or binned, the document
is refused when it comes back, and in a store of dates a query without a range does not see it. -/
theorem normalize_readsBack {field : FieldName} {e : DateEncoding} {now : Instant}
    {d stored : Document} (h : normalize field e now d = .ok stored) :
    ∃ t, time field now d = .ok t ∧
      (t.FourDigitYear →
        (stored.get? field.text).bind e.decode? = some t.toMillis ∧
        (∀ later, normalize field e later stored = .ok stored) ∧
        (Filter.timeWindow field none e).accepts stored = .ok true ∧
        readInstant (e == .string) (stored.get? field.text) = .ok t.toMillis) ∧
      (¬ t.FourDigitYear →
        (stored.get? field.text).bind e.decode? = none ∧
        (∀ later, ∃ value fault, normalize field e later stored = .error (.timestamp value fault)) ∧
        (Filter.timeWindow field none e).accepts stored = .ok (decide (e = .string)) ∧
        ∃ fault, readInstant (e == .string) (stored.get? field.text) = .error fault) := by
  obtain ⟨t, ht, rfl⟩ := normalize_eq_ok_iff.1 h
  have hget : (d.insert field.text (e.encode t)).get? field.text = some (e.encode t) := by
    rw [Document.get?_insert, if_pos rfl]
  have htime := fun later => time_of_stored hget later
  have hrangeless := Filter.accepts_total (Filter.timeWindow_total field none e)
    (d.insert field.text (e.encode t))
  simp only [Filter.passes_timeWindow_none_iff hget] at hrangeless
  refine ⟨t, ht, fun hy => ⟨?_, fun later => ?_, ?_, ?_⟩, fun hy => ⟨?_, fun later => ?_, ?_, ?_⟩⟩
  · rw [hget, Option.bind_some, e.decode?_encode, if_pos hy]
  · refine normalize_eq_ok_iff.2 ⟨t.toMillis, (htime later).1 hy, ?_⟩
    rw [e.encode_toMillis, Document.insert_of_get? hget]
  · rw [hrangeless, decide_eq_true fun _ => hy]
  · rw [hget, readInstant_encode hy]
  · rw [hget, Option.bind_some, e.decode?_encode, if_neg hy]
  · obtain ⟨value, fault, hfault⟩ := (htime later).2 hy
    exact ⟨value, fault, by simp [normalize, hfault, bind, Except.bind]⟩
  · rw [hrangeless]
    cases e <;> simp [hy]
  · rw [hget]
    exact readInstant_encode_far hy

theorem normalize_readsBack_yearTenThousand : ∃ stored : Document,
    normalize ⟨"ts", by decide⟩ .extended .epoch [("ts", .int 253402300800000)] = .ok stored ∧
      ∀ later, ∃ value fault,
        normalize ⟨"ts", by decide⟩ .extended later stored = .error (.timestamp value fault) := by
  have h : normalize ⟨"ts", by decide⟩ .extended .epoch [("ts", .int 253402300800000)] =
      .ok (Document.insert [("ts", .int 253402300800000)] "ts" (DateEncoding.extended.encode
        ⟨253402300800, 0, by decide, by decide, by decide, by decide⟩)) := rfl
  obtain ⟨t, ht, -, hfar⟩ := normalize_readsBack h
  cases ht
  exact ⟨_, h, (hfar (by decide)).2.1⟩

end Event

end EventRollup
