import EventRollup.Proofs.Number.Magnitude

namespace EventRollup.Double

theorem div_le_roundHalfEven (p q : Nat) : p / q ≤ roundHalfEven p q := by
  rcases roundHalfEven_cases p q with h | h <;> omega

theorem roundHalfEven_le (p q : Nat) : roundHalfEven p q ≤ p / q + 1 := by
  rcases roundHalfEven_cases p q with h | h <;> omega

theorem roundHalfEven_mono {p p' : Nat} (h : p ≤ p') (q : Nat) :
    roundHalfEven p q ≤ roundHalfEven p' q := by
  have hdiv : p / q ≤ p' / q := Nat.div_le_div_right h
  rcases Nat.lt_or_eq_of_le hdiv with hlt | heq
  · calc roundHalfEven p q ≤ p / q + 1 := roundHalfEven_le p q
      _ ≤ p' / q := hlt
      _ ≤ roundHalfEven p' q := div_le_roundHalfEven p' q
  · -- between the same two integers the remainders decide
    have hmod : p % q ≤ p' % q := by
      have hp := Nat.div_add_mod p q
      have hp' := Nat.div_add_mod p' q
      rw [heq] at hp
      omega
    unfold roundHalfEven
    rw [heq]
    split
    · exact div_le_roundHalfEven p' q
    · rw [if_neg (show ¬ 2 * (p' % q) < q by omega)]
      split
      · exact Nat.le_of_eq (if_pos (show q < 2 * (p' % q) by omega)).symm
      · split
        · omega
        · exact Nat.le_refl _

theorem nearestOrdinal_mono {p p' : Nat} (h : p ≤ p') :
    nearestOrdinal p 1 ≤ nearestOrdinal p' 1 := by
  by_cases hzero : p = 0
  · rw [hzero]
    exact Nat.zero_le _
  have hzero' : p' ≠ 0 := fun he => hzero (Nat.le_zero.1 (he ▸ h))
  have hlog : p.log2 ≤ p'.log2 :=
    (Nat.le_log2 hzero').2 (Nat.le_trans (Nat.log2_self_le hzero) h)
  rw [nearestOrdinal, nearestOrdinal, Nat.div_one, Nat.div_one, Nat.one_mul, Nat.one_mul]
  rcases Nat.lt_or_eq_of_le (Nat.sub_le_sub_right hlog 52) with hlt | heq
  · -- the one reaches at most the end of its binade, and the binade of the other starts there
    have hsplit (i j : Nat) : Nat.pow 2 (i + j) = Nat.pow 2 i * Nat.pow 2 j := Nat.pow_add 2 i j
    have hend : p / Nat.pow 2 (p.log2 - 52) < Nat.pow 2 53 := by
      apply Nat.div_lt_of_lt_mul
      rw [← hsplit]
      refine Nat.lt_of_lt_of_le Nat.lt_log2_self ?_
      exact Nat.pow_le_pow_right (by decide) (by omega)
    have hstart : Nat.pow 2 52 ≤ p' / Nat.pow 2 (p'.log2 - 52) := by
      have hpos : 0 < Nat.pow 2 (p'.log2 - 52) := Nat.pow_pos (by decide)
      rw [Nat.le_div_iff_mul_le hpos, ← hsplit, show 52 + (p'.log2 - 52) = p'.log2 by omega]
      exact Nat.log2_self_le hzero'
    have hle := roundHalfEven_le p (Nat.pow 2 (p.log2 - 52))
    have hge := div_le_roundHalfEven p' (Nat.pow 2 (p'.log2 - 52))
    have hwidths : Nat.pow 2 53 = 9007199254740992 ∧ Nat.pow 2 52 = 4503599627370496 := by decide
    rw [hwidths.1] at hend
    rw [hwidths.2] at hstart
    omega
  · rw [heq]
    exact Nat.add_le_add_left (roundHalfEven_mono h _) _

theorem magnitude_rounded_mono {m n : Nat} (h : m ≤ n) :
    magnitude (nearestOrdinal (m * unitsPerOne) 1) ≤
      magnitude (nearestOrdinal (n * unitsPerOne) 1) :=
  magnitude_le (nearestOrdinal_mono (Nat.mul_le_mul_right _ h))

theorem roundedUnits_mono {x y : Int} (h : x ≤ y) : roundedUnits x ≤ roundedUnits y := by
  rw [roundedUnits, roundedUnits]
  by_cases hy : y < 0
  · have hm := magnitude_rounded_mono (show y.natAbs ≤ x.natAbs by omega)
    rw [if_pos (show x < 0 by omega), if_pos hy]
    omega
  · rw [if_neg hy]
    by_cases hx : x < 0
    · rw [if_pos hx]
      omega
    · have hm := magnitude_rounded_mono (show x.natAbs ≤ y.natAbs by omega)
      rw [if_neg hx]
      omega

/-- Doubles keep two integers apart, if they are two. -/
def Resolves (x y : Int) : Prop := roundedUnits x = roundedUnits y → x = y

instance (x y : Int) : Decidable (Resolves x y) :=
  inferInstanceAs (Decidable (roundedUnits x = roundedUnits y → x = y))

theorem compare_roundedUnits_eq (x y : Int) :
    compare (roundedUnits x) (roundedUnits y) =
      if roundedUnits x = roundedUnits y then .eq else compare x y := by
  split
  · rename_i he
    exact Int.compare_eq_eq.2 he
  · rename_i hne
    rcases Int.lt_trichotomy x y with hlt | rfl | hgt
    · have hle := roundedUnits_mono (Int.le_of_lt hlt)
      rw [Int.compare_eq_lt.2 hlt, Int.compare_eq_lt.2 (by omega)]
    · exact absurd rfl hne
    · have hle := roundedUnits_mono (Int.le_of_lt hgt)
      rw [Int.compare_eq_gt.2 hgt, Int.compare_eq_gt.2 (by omega)]

theorem natAbs_roundedUnits (x : Int) :
    (roundedUnits x).natAbs = magnitude (nearestOrdinal (x.natAbs * unitsPerOne) 1) := by
  rw [roundedUnits]
  split <;> omega

theorem le_natAbs_roundedUnits {x : Int} (h : 9007199254740992 ≤ x.natAbs) :
    9007199254740992 * unitsPerOne ≤ (roundedUnits x).natAbs := by
  have hpower : magnitude (nearestOrdinal (9007199254740992 * unitsPerOne) 1) =
      9007199254740992 * unitsPerOne := by
    obtain ⟨k, hk, hunit⟩ := unitsPerOne_eq
    have hshift : 9007199254740992 * Nat.pow 2 k = 1 * Nat.pow 2 (53 + k) := by
      have hwidth : Nat.pow 2 53 = 9007199254740992 := by decide
      rw [Nat.one_mul, ← hwidth]
      exact (Nat.pow_add 2 53 k).symm
    rw [hunit, hshift]
    exact magnitude_nearestOrdinal_shifted (by decide) (by decide) (by omega)
  rw [natAbs_roundedUnits, ← hpower]
  exact magnitude_rounded_mono h

theorem resolves_of_lt {x y : Int} (hx : x.natAbs < 9007199254740992) : Resolves x y := by
  intro he
  by_cases hy : y.natAbs < 9007199254740992
  · have hcompare := compare_roundedUnits hx hy
    rw [Int.compare_eq_eq.2 he] at hcompare
    exact Int.compare_eq_eq.1 hcompare.symm
  · have hfar := le_natAbs_roundedUnits (Nat.le_of_not_lt hy)
    rw [← he, natAbs_roundedUnits, magnitude_nearestOrdinal hx] at hfar
    exact absurd (Nat.le_of_mul_le_mul_right hfar unitsPerOne_pos) (Nat.not_le_of_lt hx)

end EventRollup.Double
