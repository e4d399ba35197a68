import EventRollup.Proofs.Time.CanonicalText
import EventRollup.Store.Group

namespace EventRollup

theorem Json.asDate?_extended (t : Instant) :
    asDate? (DateEncoding.extended.encode t) = if t.FourDigitYear then some t.toMillis else none := by
  have h : asDate? (DateEncoding.extended.encode t) = Timestamp.rfc3339? t.chars := by
    rw [DateEncoding.encode, asDate?, if_pos rfl, Instant.text, String.toList_ofList]
  rw [h]
  by_cases hy : t.FourDigitYear
  · rw [if_pos hy, Timestamp.rfc3339?_chars hy]
  · rw [if_neg hy, Timestamp.rfc3339?_chars_eq_none hy]

namespace DateEncoding

theorem encode_toMillis (e : DateEncoding) (t : Instant) : e.encode t.toMillis = e.encode t := by
  cases e <;> simp only [encode, Instant.text_toMillis]

theorem decode?_encode (e : DateEncoding) (t : Instant) :
    e.decode? (e.encode t) = if t.FourDigitYear then some t.toMillis else none := by
  cases e with
  | extended => exact Json.asDate?_extended t
  | string =>
      by_cases h : t.FourDigitYear
      · rw [if_pos h]
        exact Timestamp.instant?_text h
      · rw [if_neg h]
        exact Timestamp.instant?_text_eq_none h

/-- The instant that an encoding wrote, in whatever year. -/
def written? : DateEncoding → Json → Option Instant
  | .extended, .object [(key, .string s)] =>
    if key = dateKey then Timestamp.canonical? s else none
  | .string, .string s => Timestamp.canonical? s
  | _, _ => none

theorem written?_encode (e : DateEncoding) (t : Instant) :
    e.written? (e.encode t) = some t.toMillis := by
  cases e with
  | extended =>
      rw [encode, written?, if_pos rfl]
      exact Timestamp.canonical?_text t
  | string => exact Timestamp.canonical?_text t

end DateEncoding

theorem readInstant_eq_ok_iff {e : DateEncoding} {v : Json} {t : Instant} :
    readInstant (e == .string) (some v) = .ok t ↔ e.decode? v = some t := by
  cases e with
  | extended =>
      cases h : v.asDate? with
      | none => simp [readInstant, DateEncoding.decode?, h]
      | some u => simp [readInstant, DateEncoding.decode?, h]
  | string =>
      cases v with
      | string s =>
          cases h : Timestamp.instant? s with
          | none => simp [readInstant, DateEncoding.decode?, h]
          | some u => simp [readInstant, DateEncoding.decode?, h]
      | _ => simp [readInstant, DateEncoding.decode?]

theorem readInstant_encode {e : DateEncoding} {t : Instant} (h : t.FourDigitYear) :
    readInstant (e == .string) (some (e.encode t)) = .ok t.toMillis := by
  rw [readInstant_eq_ok_iff, e.decode?_encode, if_pos h]

theorem readInstant_encode_far {e : DateEncoding} {t : Instant} (h : ¬ t.FourDigitYear) :
    ∃ fault, readInstant (e == .string) (some (e.encode t)) = .error fault := by
  cases hr : readInstant (e == .string) (some (e.encode t)) with
  | error fault => exact ⟨fault, rfl⟩
  | ok u =>
      rw [readInstant_eq_ok_iff, e.decode?_encode, if_neg h] at hr
      cases hr

end EventRollup
