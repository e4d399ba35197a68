import EventRollup.Json.Printer
import EventRollup.Proofs.Number.ShortestDecimal
import EventRollup.Proofs.Places
import EventRollup.Proofs.Text.Scanning

namespace EventRollup

namespace Text

theorem digitsValue_append (a b : List Char) :
    digitsValue (a ++ b) = digitsValue a * Nat.pow 10 b.length + digitsValue b := by
  simp only [digitsValue]
  rw [Nat.ofDigitChars_append, Nat.ofDigitChars_eq_ofDigitChars_zero, Nat.mul_comm]
  rfl

theorem digitsValue_zeros (n : Nat) : digitsValue (Decimal.zeros n) = 0 := by
  rw [digitsValue, Decimal.zeros, Nat.ofDigitChars_replicate_zero, Nat.mul_zero]

theorem digitsValue_toDigits (n : Nat) : digitsValue (Nat.toDigits 10 n) = n :=
  Nat.ofDigitChars_ten_toDigits

theorem isDigit_of_mem_toDigits {n : Nat} : ∀ c ∈ Nat.toDigits 10 n, c.isDigit = true :=
  fun _ hc => Nat.isDigit_of_mem_toDigits (by decide) (by decide) hc

theorem isDigit_of_mem_zeros {n : Nat} : ∀ c ∈ Decimal.zeros n, c.isDigit = true := by
  intro c hc
  rw [(List.mem_replicate.1 hc).2]
  rfl

theorem isDigit_of_mem_zero : ∀ c ∈ ['0'], c.isDigit = true := by
  intro c hc
  rw [List.mem_singleton.1 hc]
  rfl

theorem not_mem_digits {cs : List Char} (h : ∀ c ∈ cs, c.isDigit = true) {c : Char}
    (hc : c.isDigit = false) : c ∉ cs := by
  intro hmem
  rw [h c hmem] at hc
  cases hc

theorem cut_at {c : Char} {w : List Char} (h : c ∉ w) (r : List Char) :
    (w ++ c :: r).takeWhile (· != c) = w ∧ (w ++ c :: r).dropWhile (· != c) = c :: r := by
  have hw : ∀ d ∈ w, (d != c) = true := fun d hd => bne_iff_ne.2 fun he => h (he ▸ hd)
  rw [List.takeWhile_append_of_pos hw, List.dropWhile_append_of_pos hw]
  simp

theorem cut_nowhere {c : Char} {w : List Char} (h : c ∉ w) :
    w.takeWhile (· != c) = w ∧ w.dropWhile (· != c) = [] := by
  have hw : ∀ d ∈ w, (d != c) = true := fun d hd => bne_iff_ne.2 fun he => h (he ▸ hd)
  have htake : (w ++ []).takeWhile (· != c) = w ++ [].takeWhile (· != c) :=
    List.takeWhile_append_of_pos hw
  have hdrop : (w ++ []).dropWhile (· != c) = [].dropWhile (· != c) :=
    List.dropWhile_append_of_pos hw
  rw [List.append_nil, List.takeWhile_nil, List.append_nil] at htake
  rw [List.append_nil, List.dropWhile_nil] at hdrop
  exact ⟨htake, hdrop⟩

end Text

namespace Decimal

def mantissa (cs : List Char) : Decimal :=
  let fraction := (cs.dropWhile (· != '.')).drop 1
  ⟨Text.digitsValue (cs.takeWhile (· != '.') ++ fraction), -fraction.length⟩

def exponentOf : List Char → Int
  | 'e' :: '-' :: r => -(Text.digitsValue r : Int)
  | 'e' :: _ :: r => Text.digitsValue r
  | _ => 0

def read (cs : List Char) : Decimal :=
  let m := mantissa (cs.takeWhile (· != 'e'))
  ⟨m.digits, m.exponent + exponentOf (cs.dropWhile (· != 'e'))⟩

theorem mantissa_point {w f : List Char} (hw : ∀ c ∈ w, c.isDigit = true) :
    mantissa (w ++ '.' :: f) = ⟨Text.digitsValue (w ++ f), -f.length⟩ := by
  obtain ⟨htake, hdrop⟩ := Text.cut_at (Text.not_mem_digits hw (c := '.') rfl) f
  simp only [mantissa, htake, hdrop, List.drop_succ_cons, List.drop_zero]

theorem mantissa_whole {w : List Char} (hw : ∀ c ∈ w, c.isDigit = true) :
    mantissa w = ⟨Text.digitsValue w, 0⟩ := by
  obtain ⟨htake, hdrop⟩ := Text.cut_nowhere (Text.not_mem_digits hw (c := '.') rfl)
  simp [mantissa, htake, hdrop]

/-- A positional text is read as its digits, the ones behind the point being the places. -/
theorem read_point {w f : List Char} (hw : ∀ c ∈ w, c.isDigit = true)
    (hf : ∀ c ∈ f, c.isDigit = true) :
    read (w ++ '.' :: f) = ⟨Text.digitsValue (w ++ f), -f.length⟩ := by
  have hmem : 'e' ∉ w ++ '.' :: f := by
    rw [List.mem_append, List.mem_cons]
    rintro (h | h | h)
    · exact Text.not_mem_digits hw rfl h
    · cases h
    · exact Text.not_mem_digits hf rfl h
  obtain ⟨htake, hdrop⟩ := Text.cut_nowhere hmem
  simp only [read, htake, hdrop, mantissa_point hw, exponentOf, Int.add_zero]

theorem exponentOf_signed (n : Int) :
    exponentOf ('e' :: (if n < 0 then '-' else '+') :: Nat.toDigits 10 n.natAbs) = n := by
  by_cases h : n < 0
  · rw [if_pos h, exponentOf, Text.digitsValue_toDigits]
    omega
  · rw [if_neg h]
    have hplus : exponentOf ('e' :: '+' :: Nat.toDigits 10 n.natAbs) =
        Text.digitsValue (Nat.toDigits 10 n.natAbs) := rfl
    rw [hplus, Text.digitsValue_toDigits]
    omega

theorem read_exponent {m : List Char} (hm : 'e' ∉ m) (n : Int) :
    read (m ++ 'e' :: (if n < 0 then '-' else '+') :: Nat.toDigits 10 n.natAbs) =
      ⟨(mantissa m).digits, (mantissa m).exponent + n⟩ := by
  obtain ⟨htake, hdrop⟩ := Text.cut_at hm ((if n < 0 then '-' else '+') :: Nat.toDigits 10 n.natAbs)
  simp only [read, htake, hdrop, exponentOf_signed]

theorem onScale_shift {digits : Nat} {exponent : Int} (h : 0 ≤ exponent) :
    onScale ⟨digits * Nat.pow 10 (exponent.toNat + 1), -1⟩ = onScale ⟨digits, exponent⟩ := by
  obtain ⟨k, hk⟩ : ∃ k : Nat, k = 1073 := ⟨_, rfl⟩
  have hfine : ((-1 : Int) + 1074).toNat = k := by omega
  have hplaces : (exponent + 1074).toNat = exponent.toNat + 1 + k := by omega
  have hsplit : Nat.pow 10 (exponent.toNat + 1 + k) =
      Nat.pow 10 (exponent.toNat + 1) * Nat.pow 10 k := Nat.pow_add 10 _ _
  rw [onScale, onScale, hfine, hplaces, hsplit, Nat.mul_assoc digits]

section

variable {ds : List Char} (hds : ∀ c ∈ ds, c.isDigit = true) {exponent : Int}

include hds

theorem onScale_read_whole (h : 0 ≤ exponent) :
    (read (ds ++ zeros exponent.toNat ++ ['.', '0'])).onScale =
      onScale ⟨Text.digitsValue ds, exponent⟩ := by
  have hw : ∀ c ∈ ds ++ zeros exponent.toNat, c.isDigit = true := by
    intro c hc
    rcases List.mem_append.1 hc with h | h
    · exact hds c h
    · exact Text.isDigit_of_mem_zeros c h
  have hread := read_point hw Text.isDigit_of_mem_zero
  have hdigits : Text.digitsValue (ds ++ zeros exponent.toNat ++ ['0']) =
      Text.digitsValue ds * Nat.pow 10 (exponent.toNat + 1) := by
    have hzero : Text.digitsValue ['0'] = 0 := rfl
    have hlength : (zeros exponent.toNat).length = exponent.toNat := List.length_replicate
    rw [Text.digitsValue_append, Text.digitsValue_append, Text.digitsValue_zeros, hlength, hzero,
      Nat.add_zero, Nat.add_zero, Nat.mul_assoc]
    rfl
  rw [hread, hdigits]
  exact onScale_shift h

theorem read_inside (hpoint : 0 < ds.length + exponent) (h : exponent < 0) :
    read (ds.take (ds.length + exponent).toNat ++ '.' :: ds.drop (ds.length + exponent).toNat) =
      ⟨Text.digitsValue ds, exponent⟩ := by
  have hread := @read_point (ds.take (ds.length + exponent).toNat)
    (ds.drop (ds.length + exponent).toNat) (fun c hc => hds c (List.mem_of_mem_take hc))
    (fun c hc => hds c (List.mem_of_mem_drop hc))
  have hneg : -((ds.length - (ds.length + exponent).toNat : Nat) : Int) = exponent := by
    omega
  rw [hread, List.take_append_drop, List.length_drop, hneg]

theorem read_below (hpoint : ds.length + exponent ≤ 0) :
    read ('0' :: '.' :: (zeros (-(ds.length + exponent)).toNat ++ ds)) =
      ⟨Text.digitsValue ds, exponent⟩ := by
  have hf : ∀ c ∈ zeros (-(ds.length + exponent)).toNat ++ ds, c.isDigit = true := by
    intro c hc
    rcases List.mem_append.1 hc with h | h
    · exact Text.isDigit_of_mem_zeros c h
    · exact hds c h
  have hread := read_point Text.isDigit_of_mem_zero hf
  have hzero : '0'.toNat - '0'.toNat = 0 := rfl
  have hlength : (zeros (-(ds.length + exponent)).toNat).length =
      (-(ds.length + exponent)).toNat := List.length_replicate
  have hneg : -(((-(ds.length + exponent)).toNat + ds.length : Nat) : Int) = exponent := by
    omega
  rw [List.singleton_append, List.singleton_append] at hread
  rw [hread, Text.digitsValue_cons, hzero, Nat.zero_mul, Nat.zero_add, Text.digitsValue_append,
    Text.digitsValue_zeros, Nat.zero_mul, Nat.zero_add, List.length_append, hlength, hneg]

theorem read_digit_exponent {n : Int} (h : n = exponent) :
    read (ds ++ 'e' :: (if n < 0 then '-' else '+') :: Nat.toDigits 10 n.natAbs) =
      ⟨Text.digitsValue ds, exponent⟩ := by
  rw [read_exponent (Text.not_mem_digits hds rfl), mantissa_whole hds, h]
  dsimp only
  rw [Int.zero_add]

theorem read_digits_exponent {c : Char} (hc : c.isDigit = true) {n : Int}
    (h : n = ds.length + exponent) :
    read (c :: '.' :: ds ++ 'e' :: (if n < 0 then '-' else '+') :: Nat.toDigits 10 n.natAbs) =
      ⟨Text.digitsValue (c :: ds), exponent⟩ := by
  have hfirst : ∀ x ∈ [c], x.isDigit = true := by
    intro x hx
    rw [List.mem_singleton.1 hx]
    exact hc
  have hmantissa := @mantissa_point [c] ds hfirst
  have hmem : 'e' ∉ c :: '.' :: ds := by
    rw [List.mem_cons, List.mem_cons]
    rintro (he | he | he)
    · rw [← he] at hc
      cases hc
    · cases he
    · exact Text.not_mem_digits hds rfl he
  have hexponent : -(ds.length : Int) + (ds.length + exponent) = exponent := by
    omega
  rw [List.singleton_append, List.singleton_append] at hmantissa
  rw [read_exponent hmem, hmantissa, h]
  dsimp only
  rw [hexponent]

end

theorem onScale_read_render (layout : Layout) (d : Decimal) :
    (read (render layout d)).onScale = d.onScale := by
  have hds := @Text.isDigit_of_mem_toDigits d.digits
  have hvalue := Text.digitsValue_toDigits d.digits
  have hsome := @Nat.toDigits_ne_nil d.digits 10
  unfold render
  generalize Nat.toDigits 10 d.digits = ds at hds hvalue hsome
  have hd : ⟨Text.digitsValue ds, d.exponent⟩ = d := by
    rw [hvalue]
  dsimp only
  -- the layouts in the order in which they are tried
  split
  · rename_i hwhole
    exact (onScale_read_whole hds hwhole.1).trans (congrArg onScale hd)
  · rename_i hfraction
    split
    · rename_i hpoint
      rw [read_inside hds hpoint.1 (by omega), hd]
    · split
      · rename_i hsmall
        rw [read_below hds hsmall.2, hd]
      · cases ds with
        | nil => exact absurd rfl hsome
        | cons c r =>
            obtain ⟨hc, hr⟩ := List.forall_mem_cons.1 hds
            cases r with
            | nil =>
                have hexponent : (([c].length : Int) + d.exponent - 1) = d.exponent := by
                  rw [List.length_singleton]
                  omega
                rw [read_digit_exponent hds hexponent, hd]
            | cons c' r' =>
                have hexponent : (((c :: c' :: r').length : Int) + d.exponent - 1) =
                    (c' :: r').length + d.exponent := by
                  simp only [List.length_cons]
                  omega
                rw [read_digits_exponent hr hc hexponent, hd]

end Decimal

def Number.IsChar (c : Char) : Prop :=
  c.isDigit = true ∨ c = '-' ∨ c = '+' ∨ c = '.' ∨ c = 'e'

namespace Decimal

/-- A rendered decimal starts with a digit and has a point or an exponent. -/
theorem render_shape (layout : Layout) (d : Decimal) : ∃ c r, render layout d = c :: r ∧
    c.isDigit = true ∧ (∀ x ∈ r, Number.IsChar x) ∧ ('.' ∈ r ∨ 'e' ∈ r) := by
  have hds := @Text.isDigit_of_mem_toDigits d.digits
  have hsome := @Nat.toDigits_ne_nil d.digits 10
  unfold render
  generalize Nat.toDigits 10 d.digits = ds at hds hsome
  obtain ⟨c, r, rfl⟩ := List.exists_cons_of_ne_nil hsome
  obtain ⟨hc, hr⟩ := List.forall_mem_cons.1 hds
  have hdigits {cs : List Char} (h : ∀ x ∈ cs, x.isDigit = true) : ∀ x ∈ cs, Number.IsChar x :=
    fun x hx => .inl (h x hx)
  dsimp only
  split
  · refine ⟨c, r ++ zeros d.exponent.toNat ++ ['.', '0'], rfl, hc, ?_, .inl (by simp)⟩
    simp only [List.forall_mem_append]
    exact ⟨⟨hdigits hr, hdigits Text.isDigit_of_mem_zeros⟩, by simp [Number.IsChar]⟩
  · split
    · rename_i hpoint
      obtain ⟨n, hn⟩ : ∃ n, ((c :: r).length + d.exponent).toNat = n + 1 :=
        ⟨((c :: r).length + d.exponent).toNat - 1, by omega⟩
      rw [hn, List.take_succ_cons, List.drop_succ_cons, List.cons_append]
      refine ⟨c, _, rfl, hc, ?_, .inl (by simp)⟩
      rw [List.forall_mem_append, List.forall_mem_cons]
      exact ⟨fun x hx => .inl (hr x (List.mem_of_mem_take hx)), by simp [Number.IsChar],
        fun x hx => .inl (hr x (List.mem_of_mem_drop hx))⟩
    · split
      · refine ⟨'0', _, rfl, rfl, ?_, .inl (List.mem_cons_self ..)⟩
        rw [List.forall_mem_cons, List.forall_mem_append]
        exact ⟨by simp [Number.IsChar], hdigits Text.isDigit_of_mem_zeros, hdigits hds⟩
      · have hsign (n : Int) : Number.IsChar (if n < 0 then '-' else '+') := by
          split <;> simp [Number.IsChar]
        have hexponent (n : Int) : ∀ x ∈ 'e' :: (if n < 0 then '-' else '+') ::
            Nat.toDigits 10 n.natAbs, Number.IsChar x := by
          rw [List.forall_mem_cons, List.forall_mem_cons]
          exact ⟨by simp [Number.IsChar], hsign n, hdigits Text.isDigit_of_mem_toDigits⟩
        cases r with
        | nil => exact ⟨c, _, rfl, hc, hexponent _, .inr (List.mem_cons_self ..)⟩
        | cons c' r' =>
            refine ⟨c, '.' :: c' :: r' ++ _, rfl, hc, ?_, .inl (List.mem_cons_self ..)⟩
            rw [List.forall_mem_append, List.forall_mem_cons]
            exact ⟨⟨by simp [Number.IsChar], hdigits hr⟩, hexponent _⟩

end Decimal

namespace Double

theorem chars_injective {d e : Double} (h : d.chars = e.chars) : d = e := by
  obtain ⟨c, r, hc, hdigit, -, -⟩ :=
    Decimal.render_shape Decimal.plainLayout (Decimal.shortest d.ordinal)
  obtain ⟨c', r', hc', hdigit', -, -⟩ :=
    Decimal.render_shape Decimal.plainLayout (Decimal.shortest e.ordinal)
  have hsign : d.negative = e.negative ∧ c :: r = c' :: r' := by
    unfold chars at h
    rw [hc, hc'] at h
    cases hd : d.negative <;> cases he : e.negative <;> rw [hd, he] at h
    · exact ⟨rfl, h⟩
    · cases h
      cases hdigit
    · cases h
      cases hdigit'
    · exact ⟨rfl, List.tail_eq_of_cons_eq h⟩
  obtain ⟨hnegative, htext⟩ := hsign
  have hordinal : d.ordinal = e.ordinal := by
    refine (Decimal.shortest_names d.ordinal).unique (Decimal.shortest_names e.ordinal) ?_
    rw [← Decimal.onScale_read_render Decimal.plainLayout, hc, htext, ← hc',
      Decimal.onScale_read_render]
  obtain ⟨negative, ordinal, finite⟩ := d
  obtain ⟨negative', ordinal', finite'⟩ := e
  cases hnegative
  cases hordinal
  rfl

end Double

namespace Number

theorem isChar_of_mem_chars {n : Number} : ∀ c ∈ n.chars, IsChar c := by
  have hdigits (k : Nat) : ∀ c ∈ Nat.toDigits 10 k, IsChar c :=
    fun c hc => .inl (Text.isDigit_of_mem_toDigits c hc)
  cases n with
  | int n =>
      rw [chars]
      split
      · rw [List.forall_mem_cons]
        exact ⟨by simp [IsChar], hdigits n.natAbs⟩
      · exact hdigits n.natAbs
  | double d =>
      obtain ⟨c, r, hc, hdigit, hr, -⟩ :=
        Decimal.render_shape Decimal.plainLayout (Decimal.shortest d.ordinal)
      rw [chars, Double.chars, hc, List.forall_mem_append, List.forall_mem_cons]
      refine ⟨?_, .inl hdigit, hr⟩
      split <;> simp [IsChar]

theorem chars_int_ne_double (n : Int) (d : Double) : (int n).chars ≠ (double d).chars := by
  intro h
  obtain ⟨c, r, hc, -, -, hmark⟩ :=
    Decimal.render_shape Decimal.plainLayout (Decimal.shortest d.ordinal)
  have hplain {m : Char} (hm : m.isDigit = false) (hne : m ≠ '-') : m ∉ (int n).chars := by
    have hdigits : m ∉ Nat.toDigits 10 n.natAbs :=
      Text.not_mem_digits Text.isDigit_of_mem_toDigits hm
    rw [chars]
    split
    · rw [List.mem_cons]
      rintro (he | he)
      · exact hne he
      · exact hdigits he
    · exact hdigits
  have hmem {m : Char} (hm : m ∈ r) : m ∈ (int n).chars := by
    rw [h, chars, Double.chars, hc]
    exact List.mem_append_right _ (List.mem_cons_of_mem c hm)
  rcases hmark with hpoint | hexponent
  · exact hplain rfl (by decide) (hmem hpoint)
  · exact hplain rfl (by decide) (hmem hexponent)

theorem chars_int_injective {m n : Int} (h : (int m).chars = (int n).chars) : m = n := by
  have hvalue {k l : Nat} (h : Nat.toDigits 10 k = Nat.toDigits 10 l) : k = l := by
    rw [← Text.digitsValue_toDigits k, h, Text.digitsValue_toDigits]
  have hminus (k l : Nat) : '-' :: Nat.toDigits 10 k ≠ Nat.toDigits 10 l := by
    intro he
    have hmem : '-' ∈ Nat.toDigits 10 l := he ▸ List.mem_cons_self ..
    exact Text.not_mem_digits Text.isDigit_of_mem_toDigits rfl hmem
  rw [chars, chars] at h
  split at h <;> split at h
  · have habs := hvalue (List.tail_eq_of_cons_eq h)
    omega
  · exact absurd h (hminus _ _)
  · exact absurd h.symm (hminus _ _)
  · have habs := hvalue h
    omega

/-- Different numbers are written differently, `1` and `1.0` among them. -/
theorem chars_injective {m n : Number} (h : m.chars = n.chars) : m = n := by
  cases m with
  | int a =>
      cases n with
      | int b => rw [chars_int_injective h]
      | double d => exact absurd h (chars_int_ne_double a d)
  | double d =>
      cases n with
      | int b => exact absurd h.symm (chars_int_ne_double b d)
      | double e =>
          rw [chars, chars] at h
          rw [Double.chars_injective h]

theorem chars_ne_nil (n : Number) : n.chars ≠ [] := by
  cases n with
  | int n =>
      rw [chars]
      split
      · exact List.cons_ne_nil _ _
      · exact Nat.toDigits_ne_nil
  | double d =>
      obtain ⟨c, r, hc, -, -, -⟩ :=
        Decimal.render_shape Decimal.plainLayout (Decimal.shortest d.ordinal)
      rw [chars, Double.chars, hc]
      exact List.append_ne_nil_of_right_ne_nil _ (List.cons_ne_nil _ _)

theorem digitRun?_toDigits (n : Nat) :
    Text.digitRun? (Nat.toDigits 10 n) = some (Nat.toDigits 10 n, []) := by
  have hrun := Text.digitRun?_append (r := []) Text.isDigit_of_mem_toDigits
    (@Nat.toDigits_ne_nil n 10) (fun c hc => by cases hc)
  rwa [List.append_nil] at hrun

theorem toInt64?_chars {n : Int} (h : Text.leastInt64 ≤ n ∧ n ≤ Text.greatestInt64) :
    Text.toInt64? (String.ofList (int n).chars) = some n := by
  have hrun := digitRun?_toDigits n.natAbs
  have hfits : decide (Text.leastInt64 ≤ n ∧ n ≤ Text.greatestInt64) = true := decide_eq_true h
  rw [Text.toInt64?, String.toList_ofList, chars]
  by_cases hneg : n < 0
  · have hn : -(n.natAbs : Int) = n := by omega
    simp only [if_pos hneg, hrun, Text.digitsValue_toDigits, Option.map_some, Option.pure_def,
      Option.bind_eq_bind, Option.bind_some, hn, Option.filter_some, hfits, if_true]
  · have hn : (n.natAbs : Int) = n := by omega
    have hsign {c : Char} (hc : c.isDigit = false) (r : List Char) :
        Nat.toDigits 10 n.natAbs ≠ c :: r := by
      intro he
      exact Text.not_mem_digits Text.isDigit_of_mem_toDigits hc (he ▸ List.mem_cons_self)
    rw [if_neg hneg]
    split
    · rename_i r hplus
      exact absurd hplus (hsign (by decide) r)
    · rename_i r hminus
      exact absurd hminus (hsign (by decide) r)
    · simp only [hrun, Text.digitsValue_toDigits, Option.map_some, Option.pure_def,
        Option.bind_eq_bind, Option.bind_some, hn, Option.filter_some, hfits, if_true]

theorem chars_int_nonblank (n : Int) : ∀ c ∈ (int n).chars, Text.isBlank c = false := by
  have hdigits : ∀ c ∈ Nat.toDigits 10 n.natAbs, Text.isBlank c = false := fun c hc =>
    Text.not_isBlank_of_isDigit (Text.isDigit_of_mem_toDigits c hc)
  rw [chars]
  split
  · exact List.forall_mem_cons.2 ⟨by decide, hdigits⟩
  · exact hdigits

theorem toInt64?_trim_between {n : Int} (h : Text.leastInt64 ≤ n ∧ n ≤ Text.greatestInt64)
    {before after : List Char} (hbefore : ∀ b ∈ before, Text.isBlank b = true)
    (hafter : ∀ b ∈ after, Text.isBlank b = true) :
    Text.toInt64? (Text.trim (String.ofList (before ++ (int n).chars ++ after))) = some n := by
  have hhead := Text.head?_nonblank (chars_int_nonblank n) (chars_ne_nil _) []
  have hlast := Text.getLast?_nonblank (chars_int_nonblank n) (chars_ne_nil _) []
  rw [List.append_nil] at hhead
  rw [List.nil_append] at hlast
  rw [Text.trim, String.toList_ofList, Text.trimChars_between hbefore hafter hhead hlast,
    toInt64?_chars h]

end Number

end EventRollup
