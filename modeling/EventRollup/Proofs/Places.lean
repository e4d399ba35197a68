import EventRollup.Text.Digits

namespace EventRollup

theorem compare_places {a b v w k : Int} (hv : 0 ≤ v ∧ v < k) (hw : 0 ≤ w ∧ w < k) :
    compare (a * k + v) (b * k + w) = (compare a b).then (compare v w) := by
  rcases Int.lt_trichotomy a b with h | rfl | h
  · have hmul : a * k + k ≤ b * k := by
      have hle := Int.mul_le_mul_of_nonneg_right (show a + 1 ≤ b from h) (show 0 ≤ k by omega)
      rwa [Int.add_mul, Int.one_mul] at hle
    rw [Int.compare_eq_lt.2 h, Int.compare_eq_lt.2 (by omega)]
    rfl
  · rw [Int.compare_eq_eq.2 rfl, Ordering.eq_then]
    rcases Int.lt_trichotomy v w with h | rfl | h
    · rw [Int.compare_eq_lt.2 h, Int.compare_eq_lt.2 (by omega)]
    · rw [Int.compare_eq_eq.2 rfl, Int.compare_eq_eq.2 rfl]
    · rw [Int.compare_eq_gt.2 h, Int.compare_eq_gt.2 (by omega)]
  · have hmul : b * k + k ≤ a * k := by
      have hle := Int.mul_le_mul_of_nonneg_right (show b + 1 ≤ a from h) (show 0 ≤ k by omega)
      rwa [Int.add_mul, Int.one_mul] at hle
    rw [Int.compare_eq_gt.2 h, Int.compare_eq_gt.2 (by omega)]
    rfl

theorem compare_natCast (m n : Nat) : compare (m : Int) (n : Int) = compare m n := by
  rcases Nat.lt_trichotomy m n with h | rfl | h
  · rw [Nat.compare_eq_lt.2 h, Int.compare_eq_lt.2 (by omega)]
  · rw [Nat.compare_eq_eq.2 rfl, Int.compare_eq_eq.2 rfl]
  · rw [Nat.compare_eq_gt.2 h, Int.compare_eq_gt.2 (by omega)]

theorem compare_natPlaces {a b v w k : Nat} (hv : v < k) (hw : w < k) :
    compare (a * k + v) (b * k + w) = (compare a b).then (compare v w) := by
  have h := @compare_places a b v w k (by omega) (by omega)
  rw [compare_natCast, compare_natCast] at h
  rw [← h, ← compare_natCast]
  push_cast
  rfl

theorem compare_char (c d : Char) : compare c d = compare c.toNat d.toNat := by
  simp only [compare, compareOfLessAndEq, Char.lt_def, ← Char.toNat_inj]
  rfl

theorem compare_chars (a b : List Char) : compare a b = compareOfLessAndEq a b := by
  induction a generalizing b with
  | nil =>
      cases b with
      | nil => rfl
      | cons d s => simp [compareOfLessAndEq]
  | cons c r ih =>
      cases b with
      | nil => simp [compareOfLessAndEq]
      | cons d s =>
          rw [List.compare_cons_cons, ih]
          simp only [compare, compareOfLessAndEq, List.cons_lt_cons_iff, List.cons.injEq]
          by_cases hlt : c < d
          · simp [hlt]
          · by_cases heq : c = d <;> simp [hlt, heq]

theorem compare_string (s t : String) : compare s t = compare s.toList t.toList := by
  rw [compare_chars]
  simp only [compare, String.compare, compareOfLessAndEq, String.lt_iff, String.ext_iff]

theorem compare_append {a b : List Char} (h : a.length = b.length) (x y : List Char) :
    compare (a ++ x) (b ++ y) = (compare a b).then (compare x y) := by
  induction a generalizing b with
  | nil =>
      cases b with
      | nil => rfl
      | cons d s => cases h
  | cons c r ih =>
      cases b with
      | nil => cases h
      | cons d s =>
          simp only [List.cons_append, List.compare_cons_cons, Ordering.then_assoc,
            ih (Nat.succ.inj h)]

theorem compare_cons_self (c : Char) (x y : List Char) : compare (c :: x) (c :: y) = compare x y := by
  rw [List.compare_cons_cons, compare_char, Nat.compare_eq_eq.2 rfl, Ordering.eq_then]

namespace Text

theorem digitsValue_cons (c : Char) (r : List Char) :
    digitsValue (c :: r) = (c.toNat - '0'.toNat) * Nat.pow 10 r.length + digitsValue r := by
  simp only [digitsValue]
  rw [Nat.ofDigitChars_cons, Nat.ofDigitChars_eq_ofDigitChars_zero, Nat.mul_zero, Nat.zero_add,
    Nat.mul_comm]
  rfl

theorem digitsValue_lt {cs : List Char} (h : ∀ c ∈ cs, c.isDigit = true) :
    digitsValue cs < Nat.pow 10 cs.length := by
  induction cs with
  | nil => decide
  | cons c r ih =>
      obtain ⟨hc, hr⟩ := List.forall_mem_cons.1 h
      have hdigit := Char.isDigit_iff_toNat.1 hc
      have hten : c.toNat - '0'.toNat ≤ 9 := by
        have h9 : '9'.toNat = '0'.toNat + 9 := rfl
        omega
      have hmul := Nat.mul_le_mul_right (Nat.pow 10 r.length) hten
      have hrest := ih hr
      have hpow : Nat.pow 10 (r.length + 1) = Nat.pow 10 r.length * 10 := rfl
      rw [digitsValue_cons, List.length_cons, hpow]
      omega

theorem compare_digits {a b : List Char} (hl : a.length = b.length)
    (ha : ∀ c ∈ a, c.isDigit = true) (hb : ∀ c ∈ b, c.isDigit = true) :
    compare a b = compare (digitsValue a) (digitsValue b) := by
  induction a generalizing b with
  | nil =>
      cases b with
      | nil => rfl
      | cons d s => cases hl
  | cons c r ih =>
      cases b with
      | nil => cases hl
      | cons d s =>
          obtain ⟨hc, hr⟩ := List.forall_mem_cons.1 ha
          obtain ⟨hd, hs⟩ := List.forall_mem_cons.1 hb
          have hlen : r.length = s.length := Nat.succ.inj hl
          have hlow := digitsValue_lt hs
          rw [List.compare_cons_cons, ih hlen hr hs, digitsValue_cons, digitsValue_cons, hlen,
            compare_natPlaces (hlen ▸ digitsValue_lt hr) hlow, compare_char]
          have hc0 := (Char.isDigit_iff_toNat.1 hc).1
          have hd0 := (Char.isDigit_iff_toNat.1 hd).1
          have hshift : compare c.toNat d.toNat =
              compare (c.toNat - '0'.toNat) (d.toNat - '0'.toNat) := by
            rcases Nat.lt_trichotomy c.toNat d.toNat with h | h | h
            · rw [Nat.compare_eq_lt.2 h, Nat.compare_eq_lt.2 (by omega)]
            · rw [h, Nat.compare_eq_eq.2 rfl, Nat.compare_eq_eq.2 rfl]
            · rw [Nat.compare_eq_gt.2 h, Nat.compare_eq_gt.2 (by omega)]
          rw [hshift]

theorem compare_padded {width m n : Nat} (hw : 0 < width) (hm : m < Nat.pow 10 width)
    (hn : n < Nat.pow 10 width) : compare (padded width m) (padded width n) = compare m n := by
  rw [compare_digits ((length_padded hw hm).trans (length_padded hw hn).symm)
    (fun c hc => isDigit_of_mem_padded hc) (fun c hc => isDigit_of_mem_padded hc),
    digitsValue_padded, digitsValue_padded]

end Text

end EventRollup
