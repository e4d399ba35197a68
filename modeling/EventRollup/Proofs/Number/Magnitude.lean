import EventRollup.Number.Double

namespace EventRollup.Double

theorem magnitude_block {k r : Nat} (hk : 2 ≤ k) (hr : r < 4503599627370496) :
    magnitude (k * 4503599627370496 + r) = (4503599627370496 + r) * Nat.pow 2 (k - 1) := by
  rw [magnitude, if_neg (by omega)]
  have hmod : (k * 4503599627370496 + r) % 4503599627370496 = r := by omega
  have hdiv : (k * 4503599627370496 + r) / 4503599627370496 = k := by omega
  rw [hmod, hdiv]

theorem magnitude_lt_succ (n : Nat) : magnitude n < magnitude (n + 1) := by
  by_cases hsmall : n + 1 < 9007199254740992
  · rw [magnitude, magnitude, if_pos (by omega), if_pos hsmall]
    exact Nat.lt_succ_self n
  by_cases hfirst : n < 9007199254740992
  · have hn : n = 9007199254740991 := by omega
    rw [hn]
    decide
  · obtain ⟨k, r, hk, hr, rfl⟩ : ∃ k r, 2 ≤ k ∧ r < 4503599627370496 ∧
        n = k * 4503599627370496 + r :=
      ⟨n / 4503599627370496, n % 4503599627370496, by omega, by omega, by omega⟩
    have hpos : 0 < Nat.pow 2 (k - 1) := Nat.pow_pos (by decide)
    rw [magnitude_block hk hr]
    by_cases hlast : r + 1 < 4503599627370496
    · rw [Nat.add_assoc, magnitude_block hk hlast]
      exact Nat.mul_lt_mul_of_pos_right (by omega) hpos
    · have hnext : k * 4503599627370496 + r + 1 = (k + 1) * 4503599627370496 + 0 := by omega
      have hdouble : Nat.pow 2 (k + 1 - 1) = 2 * Nat.pow 2 (k - 1) := by
        rw [show k + 1 - 1 = (k - 1) + 1 by omega]
        exact Nat.pow_succ'
      rw [hnext, magnitude_block (by omega) (by decide), hdouble]
      have hr' : r = 4503599627370495 := by omega
      rw [hr']
      omega

theorem magnitude_lt {m n : Nat} (h : m < n) : magnitude m < magnitude n := by
  induction n with
  | zero => cases h
  | succ n ih =>
      by_cases hm : m = n
      · rw [hm]
        exact magnitude_lt_succ n
      · exact Nat.lt_trans (ih (by omega)) (magnitude_lt_succ n)

theorem magnitude_le {m n : Nat} (h : m ≤ n) : magnitude m ≤ magnitude n := by
  rcases Nat.lt_or_eq_of_le h with hlt | rfl
  · exact Nat.le_of_lt (magnitude_lt hlt)
  · exact Nat.le_refl _

theorem unitsPerOne_eq : ∃ k, 53 ≤ k ∧ unitsPerOne = Nat.pow 2 k := by
  refine ⟨1074, by decide, ?_⟩
  unfold unitsPerOne
  congr

theorem unitsPerOne_pos : 0 < unitsPerOne := by
  obtain ⟨k, -, hk⟩ := unitsPerOne_eq
  rw [hk]
  exact Nat.pow_pos (by decide)

theorem roundHalfEven_cases (p q : Nat) :
    roundHalfEven p q = p / q ∨ roundHalfEven p q = p / q + 1 := by
  unfold roundHalfEven
  split
  · exact .inl rfl
  · split
    · exact .inr rfl
    · rcases Nat.mod_two_eq_zero_or_one (p / q) with h | h
      · exact .inl (by rw [h, Nat.add_zero])
      · exact .inr (by rw [h])

theorem roundHalfEven_mul (n q : Nat) (hq : 0 < q) : roundHalfEven (n * q) q = n := by
  rw [roundHalfEven, Nat.mul_mod_left, if_pos (by omega), Nat.mul_div_cancel n hq]

/-- Multiplied by a high power of two, an integer of at most fifty-three bits is a magnitude: its
leading bit moves to the top of a significand and no bit is lost. -/
theorem magnitude_nearestOrdinal_shifted {n k : Nat} (hn : n ≠ 0) (h : n < 9007199254740992)
    (hk : 53 ≤ k) : magnitude (nearestOrdinal (n * Nat.pow 2 k) 1) = n * Nat.pow 2 k := by
  obtain ⟨hlow, hhigh⟩ := (@Nat.log2_eq_iff n n.log2 hn).1 rfl
  have htop : n.log2 < 53 := (Nat.log2_lt hn).2 h
  have hsplit (i j : Nat) : Nat.pow 2 (i + j) = Nat.pow 2 i * Nat.pow 2 j := Nat.pow_add 2 i j
  have hlog : (n * Nat.pow 2 k / 1).log2 = n.log2 + k := by
    have hpos : 0 < Nat.pow 2 k := Nat.pow_pos (by decide)
    rw [Nat.div_one, Nat.log2_eq_iff (Nat.mul_ne_zero hn (Nat.ne_of_gt hpos))]
    constructor
    · rw [Nat.pow_add]
      exact Nat.mul_le_mul_right _ hlow
    · rw [show n.log2 + k + 1 = n.log2 + 1 + k by omega, Nat.pow_add]
      exact Nat.mul_lt_mul_of_pos_right hhigh hpos
  have hparts : n * Nat.pow 2 k =
      n * Nat.pow 2 (52 - n.log2) * Nat.pow 2 (n.log2 + k - 52) := by
    rw [Nat.mul_assoc, ← hsplit, show 52 - n.log2 + (n.log2 + k - 52) = k by omega]
  have hsignificand : 4503599627370496 ≤ n * Nat.pow 2 (52 - n.log2) ∧
      n * Nat.pow 2 (52 - n.log2) < 9007199254740992 := by
    have hpos : 0 < Nat.pow 2 (52 - n.log2) := Nat.pow_pos (by decide)
    have hl : Nat.pow 2 n.log2 * Nat.pow 2 (52 - n.log2) = 4503599627370496 := by
      rw [← hsplit, show n.log2 + (52 - n.log2) = 52 by omega]
    have hu : Nat.pow 2 (n.log2 + 1) * Nat.pow 2 (52 - n.log2) = 9007199254740992 := by
      rw [← hsplit, show n.log2 + 1 + (52 - n.log2) = 53 by omega]
    exact ⟨hl ▸ Nat.mul_le_mul_right _ hlow, hu ▸ Nat.mul_lt_mul_of_pos_right hhigh hpos⟩
  have hround : roundHalfEven (n * Nat.pow 2 (52 - n.log2) * Nat.pow 2 (n.log2 + k - 52))
      (Nat.pow 2 (n.log2 + k - 52)) = n * Nat.pow 2 (52 - n.log2) :=
    roundHalfEven_mul _ _ (Nat.pow_pos (by decide))
  rw [nearestOrdinal, hlog, Nat.one_mul, hparts, hround]
  obtain ⟨r, hr, hs⟩ : ∃ r, r < 4503599627370496 ∧
      n * Nat.pow 2 (52 - n.log2) = 4503599627370496 + r :=
    ⟨n * Nat.pow 2 (52 - n.log2) - 4503599627370496, by omega, by omega⟩
  have hordinal : (n.log2 + k - 52) * 4503599627370496 + (4503599627370496 + r) =
      (n.log2 + k - 52 + 1) * 4503599627370496 + r := by omega
  rw [hs, hordinal, magnitude_block (by omega) hr, Nat.add_sub_cancel]

theorem magnitude_nearestOrdinal {n : Nat} (h : n < 9007199254740992) :
    magnitude (nearestOrdinal (n * unitsPerOne) 1) = n * unitsPerOne := by
  obtain ⟨k, hk, hunit⟩ := unitsPerOne_eq
  rw [hunit]
  by_cases hn : n = 0
  · rw [hn, Nat.zero_mul]
    decide
  · exact magnitude_nearestOrdinal_shifted hn h hk

theorem compare_roundedUnits {a b : Int} (ha : a.natAbs < 9007199254740992)
    (hb : b.natAbs < 9007199254740992) :
    compare (roundedUnits a) (roundedUnits b) = compare a b := by
  have hunits {n : Int} (h : n.natAbs < 9007199254740992) : roundedUnits n = n * unitsPerOne := by
    rw [roundedUnits, magnitude_nearestOrdinal h]
    by_cases hn : n < 0
    · rw [if_pos hn, Int.natCast_mul, ← Int.neg_mul]
      congr 1
      omega
    · rw [if_neg hn, Int.natCast_mul]
      congr 1
      omega
  have hpos : (0 : Int) < unitsPerOne := Int.natCast_pos.2 unitsPerOne_pos
  rw [hunits ha, hunits hb]
  rcases Int.lt_trichotomy a b with hlt | rfl | hgt
  · rw [Int.compare_eq_lt.2 hlt, Int.compare_eq_lt.2 (Int.mul_lt_mul_of_pos_right hlt hpos)]
  · rw [Int.compare_eq_eq.2 rfl, Int.compare_eq_eq.2 rfl]
  · rw [Int.compare_eq_gt.2 hgt, Int.compare_eq_gt.2 (Int.mul_lt_mul_of_pos_right hgt hpos)]

end EventRollup.Double
