import EventRollup.Number.Decimal
import EventRollup.Proofs.Number.Magnitude

namespace EventRollup.Decimal

theorem scaled_le {m n : Nat} (h : m ≤ n) : scaled m ≤ scaled n := Nat.mul_le_mul_right _ h

theorem tenPow_pos (k : Nat) : 0 < Nat.pow 10 k := Nat.pow_pos (by decide)

theorem scaled_lt {m n : Nat} (h : m < n) : scaled m < scaled n := by
  unfold scaled
  generalize 340 = k
  exact Nat.mul_lt_mul_of_pos_right h (tenPow_pos k)

theorem readsBack_magnitude (ordinal : Nat) :
    readsBack ordinal (scaled (2 * Double.magnitude ordinal)) = true := by
  have hbelow : Double.magnitude (ordinal - 1) ≤ Double.magnitude ordinal :=
    Double.magnitude_le (Nat.sub_le ordinal 1)
  have habove := Double.magnitude_lt_succ ordinal
  unfold readsBack
  by_cases heven : ordinal % 2 = 0
  · rw [if_pos heven, decide_eq_true_eq]
    exact ⟨scaled_le (by omega), scaled_le (by omega)⟩
  · have hstrict : Double.magnitude (ordinal - 1) < Double.magnitude ordinal :=
      Double.magnitude_lt (by omega)
    rw [if_neg heven, decide_eq_true_eq]
    exact ⟨scaled_lt (by omega), scaled_lt (by omega)⟩

/-- The values that read back as a lower ordinal lie below those of a higher one. Where two ranges
touch, the midpoint belongs to the even ordinal only. -/
theorem readsBack_lt {o p v w : Nat} (hop : o < p) (hv : readsBack o v = true)
    (hw : readsBack p w = true) : v < w := by
  have hlow : Double.magnitude o ≤ Double.magnitude (p - 1) := Double.magnitude_le (by omega)
  have hhigh : Double.magnitude (o + 1) ≤ Double.magnitude p := Double.magnitude_le hop
  have hmid : scaled (Double.magnitude o + Double.magnitude (o + 1)) ≤
      scaled (Double.magnitude p + Double.magnitude (p - 1)) := scaled_le (by omega)
  unfold readsBack at hv hw
  by_cases ho : o % 2 = 0
  · rw [if_pos ho, decide_eq_true_eq] at hv
    by_cases hp : p % 2 = 0
    · rw [if_pos hp, decide_eq_true_eq] at hw
      have hgap : Double.magnitude (o + 1) < Double.magnitude p := Double.magnitude_lt (by omega)
      have hstrict : scaled (Double.magnitude o + Double.magnitude (o + 1)) <
          scaled (Double.magnitude p + Double.magnitude (p - 1)) := scaled_lt (by omega)
      omega
    · rw [if_neg hp, decide_eq_true_eq] at hw
      omega
  · rw [if_neg ho, decide_eq_true_eq] at hv
    by_cases hp : p % 2 = 0
    · rw [if_pos hp, decide_eq_true_eq] at hw
      omega
    · rw [if_neg hp, decide_eq_true_eq] at hw
      omega

theorem readsBack_unique {o p v : Nat} (ho : readsBack o v = true) (hp : readsBack p v = true) :
    o = p := by
  rcases Nat.lt_trichotomy o p with h | h | h
  · exact absurd (readsBack_lt h ho hp) (Nat.lt_irrefl v)
  · exact h
  · exact absurd (readsBack_lt h hp ho) (Nat.lt_irrefl v)

/-- The value of a decimal, on a scale fine enough for every digit of a magnitude. -/
def onScale (d : Decimal) : Nat :=
  d.digits * Nat.pow 10 (d.exponent + 1074).toNat * (2 * Double.unitsPerOne)

def refinement : Nat := Nat.pow 10 734

theorem refinement_pos : 0 < refinement := by
  unfold refinement
  generalize 734 = k
  exact tenPow_pos k

/-- The decimal is written within the scale and reads back as the magnitude of this ordinal. -/
def Names (d : Decimal) (ordinal : Nat) : Prop :=
  -1074 ≤ d.exponent ∧ ∃ v, readsBack ordinal v = true ∧ d.onScale = v * refinement

theorem Names.unique {d e : Decimal} {o p : Nat} (hd : d.Names o) (he : e.Names p)
    (h : d.onScale = e.onScale) : o = p := by
  obtain ⟨-, v, hv, hdv⟩ := hd
  obtain ⟨-, w, hw, hew⟩ := he
  have hvw : v = w := by
    rw [hdv, hew] at h
    exact Nat.eq_of_mul_eq_mul_right refinement_pos h
  subst hvw
  exact readsBack_unique hv hw

theorem onScale_grid (digits g : Nat) :
    onScale ⟨digits, (g : Int) - 340⟩ = digits * step g * refinement := by
  obtain ⟨k, hk⟩ : ∃ k : Nat, k = 734 := ⟨_, rfl⟩
  have hexponent : ((g : Int) - 340 + 1074).toNat = g + k := by omega
  have hsplit : Nat.pow 10 (g + k) = Nat.pow 10 g * Nat.pow 10 k := Nat.pow_add 10 g k
  unfold onScale step refinement
  rw [hexponent, hsplit, ← hk]
  simp only [Nat.mul_assoc, Nat.mul_comm (Nat.pow 10 k)]

theorem onGrid?_names {ordinal g : Nat} {d : Decimal} (h : onGrid? ordinal g = some d) :
    d.Names ordinal := by
  have hgrid {n : Nat} (hn : readsBack ordinal (n * step g) = true) :
      Names ⟨n, (g : Int) - 340⟩ ordinal :=
    ⟨by dsimp only; omega, n * step g, hn, onScale_grid n g⟩
  unfold onGrid? at h
  dsimp only at h
  split at h
  · rename_i hbelow habove
    rw [← Option.some.inj h]
    rcases Double.roundHalfEven_cases (scaled (2 * Double.magnitude ordinal)) (step g) with hr | hr
    · rw [hr]
      exact hgrid hbelow
    · rw [hr]
      exact hgrid habove
  · rename_i hbelow _
    rw [← Option.some.inj h]
    exact hgrid hbelow
  · rename_i _ habove
    rw [← Option.some.inj h]
    exact hgrid habove
  · exact nomatch h

theorem exact_names (ordinal : Nat) : (exact ordinal).Names ordinal := by
  refine ⟨Int.le_refl _, scaled (2 * Double.magnitude ordinal), readsBack_magnitude ordinal, ?_⟩
  have hten (i j : Nat) :
      Nat.pow 5 (i + j) * Nat.pow 2 (i + j) = Nat.pow 10 i * Nat.pow 10 j :=
    calc Nat.pow 5 (i + j) * Nat.pow 2 (i + j) = Nat.pow (5 * 2) (i + j) :=
          (Nat.mul_pow 5 2 (i + j)).symm
      _ = Nat.pow 10 i * Nat.pow 10 j := Nat.pow_add 10 i j
  obtain ⟨i, hi⟩ : ∃ i : Nat, i = 340 := ⟨_, rfl⟩
  obtain ⟨j, hj⟩ : ∃ j : Nat, j = 734 := ⟨_, rfl⟩
  have hplaces : 1074 = i + j := by omega
  have hwhole : ((-1074 : Int) + 1074).toNat = 0 := by decide
  unfold onScale exact scaled refinement Double.unitsPerOne
  rw [hwhole, hplaces, ← hi, ← hj]
  calc Double.magnitude ordinal * Nat.pow 5 (i + j) * 1 * (2 * Nat.pow 2 (i + j))
      = 2 * Double.magnitude ordinal * (Nat.pow 5 (i + j) * Nat.pow 2 (i + j)) := by
        rw [Nat.mul_one, Nat.mul_comm 2 (Double.magnitude ordinal)]
        simp only [Nat.mul_assoc, Nat.mul_left_comm 2]
    _ = 2 * Double.magnitude ordinal * Nat.pow 10 i * Nat.pow 10 j := by
        rw [hten, ← Nat.mul_assoc]

theorem onScale_trimZeros (fuel : Nat) {d : Decimal} (h : -1074 ≤ d.exponent) :
    -1074 ≤ (trimZeros fuel d).exponent ∧ (trimZeros fuel d).onScale = d.onScale := by
  induction fuel generalizing d with
  | zero => exact ⟨h, rfl⟩
  | succ fuel ih =>
      rw [trimZeros]
      split
      · rename_i hzero
        have hnext : -1074 ≤ d.exponent + 1 := by omega
        obtain ⟨hexponent, hvalue⟩ := @ih ⟨d.digits / 10, d.exponent + 1⟩ hnext
        refine ⟨hexponent, hvalue.trans ?_⟩
        have hplace : (d.exponent + 1 + 1074).toNat = (d.exponent + 1074).toNat + 1 := by omega
        have hdigits : d.digits / 10 * 10 = d.digits := by omega
        have hpow (k : Nat) : Nat.pow 10 (k + 1) = 10 * Nat.pow 10 k := Nat.pow_succ'
        rw [onScale, onScale, hplace, hpow]
        dsimp only
        rw [← Nat.mul_assoc (d.digits / 10), hdigits]
      · exact ⟨h, rfl⟩

theorem shortest_names (ordinal : Nat) : (shortest ordinal).Names ordinal := by
  have hfound (found : Option Decimal) (h : ∀ d, found = some d → d.Names ordinal) :
      (trimZeros 17 (found.getD (exact ordinal))).Names ordinal := by
    have hnames : (found.getD (exact ordinal)).Names ordinal := by
      cases found with
      | none => exact exact_names ordinal
      | some d => exact h d rfl
    obtain ⟨hexponent, v, hv, hvalue⟩ := hnames
    obtain ⟨htrim, hsame⟩ := onScale_trimZeros 17 hexponent
    exact ⟨htrim, v, hv, hsame.trans hvalue⟩
  unfold shortest
  split
  · rename_i hzero
    subst hzero
    refine ⟨by decide, scaled (2 * Double.magnitude 0), readsBack_magnitude 0, ?_⟩
    have hzero : Double.magnitude 0 = 0 := by decide
    simp only [onScale, scaled, hzero, Nat.mul_zero, Nat.zero_mul]
  · refine hfound _ fun d hd => ?_
    obtain ⟨p, -, hp⟩ := List.exists_of_findSome?_eq_some hd
    exact onGrid?_names hp

end EventRollup.Decimal
