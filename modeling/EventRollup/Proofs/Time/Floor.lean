import EventRollup.Proofs.Time.Bucket

namespace EventRollup

namespace Granularity

/-- The whole second at which the bucket of an instant starts: a multiple of the width, not after the
instant and before no other such multiple. -/
structure StartsAt (g : Granularity) (t start : Instant) : Prop where
  nanos : start.nanos = 0
  multiple : g.width ∣ start.seconds
  notAfter : start.seconds ≤ t.seconds
  greatest : ∀ n : Int, g.width ∣ n → n ≤ t.seconds → n ≤ start.seconds

variable {f g h : Granularity} {t u start : Instant}

theorem width_pos (g : Granularity) : 0 < g.width := by
  cases g <;> decide

theorem startsAt_truncate (hg : g.isBinned = true) (t : Instant) : g.StartsAt t (g.truncate t) := by
  obtain ⟨hnanos, hseconds⟩ := truncate_spec hg t
  refine ⟨hnanos, ?_, ?_, ?_⟩
  · rw [hseconds]
    exact Int.dvd_mul_left _ _
  · rw [hseconds]
    exact Int.ediv_mul_le _ (Int.ne_of_gt g.width_pos)
  · rintro n ⟨k, rfl⟩ hn
    rw [hseconds, Int.mul_comm]
    rw [Int.mul_comm] at hn
    exact Int.mul_le_mul_of_nonneg_right ((Int.le_ediv_iff_mul_le g.width_pos).2 hn)
      (Int.le_of_lt g.width_pos)

namespace StartsAt

theorem compare_isLE (hstart : g.StartsAt t start) : (Instant.compare start t).isLE = true := by
  rw [Instant.compare_isLE_iff, hstart.nanos]
  have hle := hstart.notAfter
  omega

theorem mono {start' : Instant} (hstart : g.StartsAt t start) (hstart' : g.StartsAt u start')
    (hle : (Instant.compare t u).isLE = true) : (Instant.compare start start').isLE = true := by
  rw [Instant.compare_isLE_iff] at hle
  have hseconds : start.seconds ≤ start'.seconds :=
    hstart'.greatest start.seconds hstart.multiple (by have hnot := hstart.notAfter; omega)
  rw [Instant.compare_isLE_iff, hstart.nanos, hstart'.nanos]
  omega

theorem unique {start' : Instant} (hstart : g.StartsAt t start) (hstart' : g.StartsAt t start') :
    start = start' := by
  have hself : (Instant.compare t t).isLE = true := by
    rw [Instant.compare_isLE_iff]
    omega
  exact Instant.eq_of_compare_isLE (hstart.mono hstart' hself) (hstart'.mono hstart hself)

theorem self (hstart : g.StartsAt t start) : g.StartsAt start start :=
  ⟨hstart.nanos, hstart.multiple, Int.le_refl _, fun _ _ hn => hn⟩

end StartsAt

def Finer (g h : Granularity) : Prop := h.dateParts.length < g.dateParts.length

instance (g h : Granularity) : Decidable (g.Finer h) := by
  unfold Finer
  infer_instance

theorem Finer.isBinned (hfiner : g.Finer h) : g.isBinned = true := by
  cases g with
  | all => exact absurd hfiner (Nat.not_lt_zero _)
  | _ => rfl

theorem Finer.partsOf_eq_take (hfiner : g.Finer h) (t : Instant) :
    h.partsOf t = (g.partsOf t).take h.dateParts.length := by
  have hprefix : h.dateParts = g.dateParts.take h.dateParts.length := by
    revert hfiner
    cases g <;> cases h <;> decide
  rw [partsOf, partsOf, ← List.map_take, ← hprefix]

theorem truncate_truncate (hfiner : g.Finer h) (hh : h.isBinned = true) (t : Instant) :
    h.truncate (g.truncate t) = h.truncate t := by
  have hparts : h.partsOf (g.truncate t) = h.partsOf t := by
    rw [hfiner.partsOf_eq_take, hfiner.partsOf_eq_take, partsOf_truncate hfiner.isBinned]
  have hstart := bucketStart?_eq hh (g.truncate t)
  rw [hparts, bucketStart?_eq hh t] at hstart
  exact (Option.some.inj hstart).symm

/-- Truncation rounds down. The components of an instant always name a start, so truncation never
leaves the instant as it is for want of one, and the start they name is the greatest multiple of the
width up to the instant. Hence truncating twice is truncating once, later instants are truncated to
later starts or to the same one, no start is after its instant, and whoever has truncated to a finer
width loses nothing. -/
theorem truncate_rounds_down (hg : g.isBinned = true) (t : Instant) :
    bucketStart? (g.dateParts.map (·.extract t)) = some (g.truncate t) ∧
      g.StartsAt t (g.truncate t) ∧
      g.truncate (g.truncate t) = g.truncate t ∧
      (Instant.compare (g.truncate t) t).isLE = true ∧
      (∀ u, (Instant.compare t u).isLE = true →
        (Instant.compare (g.truncate t) (g.truncate u)).isLE = true) ∧
      ∀ f : Granularity, f.Finer g → g.truncate (f.truncate t) = g.truncate t := by
  have hstart := startsAt_truncate hg t
  refine ⟨bucketStart?_eq hg t, hstart, ?_, hstart.compare_isLE, fun u hle => ?_, fun f hfiner => ?_⟩
  · exact (startsAt_truncate hg (g.truncate t)).unique hstart.self
  · exact hstart.mono (startsAt_truncate hg u) hle
  · exact truncate_truncate hfiner hg t

/-- A leap second before the epoch: 1969-12-31T23:59:60.5Z, which is in the last minute of its
hour. -/
def leapEve : Instant := (Instant.ofSeconds? (-1) 1500000000).getD .epoch

theorem truncate_rounds_down_leapEve :
    Granularity.hour.isBinned = true ∧ (Granularity.hour.truncate leapEve).seconds = -3600 ∧
      Granularity.hour.StartsAt leapEve (Granularity.hour.truncate leapEve) ∧
      (Instant.compare leapEve .epoch).isLE = true ∧
      (Instant.compare (Granularity.hour.truncate leapEve) (Granularity.hour.truncate .epoch)).isLE =
        true ∧
      Granularity.second.Finer .hour ∧
      Granularity.hour.truncate (Granularity.second.truncate leapEve) =
        Granularity.hour.truncate leapEve := by
  obtain ⟨-, hstart, -, -, hmono, hfiner⟩ := truncate_rounds_down (g := .hour) rfl leapEve
  exact ⟨rfl, by decide, hstart, by decide, hmono .epoch (by decide), by decide,
    hfiner .second (by decide)⟩

end Granularity

end EventRollup
