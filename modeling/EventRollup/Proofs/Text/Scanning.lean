import EventRollup.Text.Blank
import EventRollup.Text.Digits

namespace EventRollup.Text

/-- Blanks around a text that begins and ends otherwise are what is trimmed from it. -/
theorem trimChars_between {before cs after : List Char} (hbefore : ∀ b ∈ before, isBlank b = true)
    (hafter : ∀ b ∈ after, isBlank b = true) (hhead : ∀ c ∈ cs.head?, isBlank c = false)
    (hlast : ∀ c ∈ cs.getLast?, isBlank c = false) : trimChars (before ++ cs ++ after) = cs := by
  have hafter' : ∀ b ∈ after.reverse, isBlank b = true := fun b hb =>
    hafter b (List.mem_reverse.1 hb)
  rw [trimChars, List.append_assoc, List.dropWhile_append_of_pos hbefore]
  cases cs with
  | nil =>
      have hdrop := @List.dropWhile_append_of_pos _ isBlank after [] hafter
      rw [List.append_nil, List.dropWhile_nil] at hdrop
      rw [List.nil_append, hdrop]
      rfl
  | cons c r =>
      have hc : isBlank c = false := hhead c rfl
      rw [List.cons_append, List.dropWhile_cons_of_neg (by simp [hc]), ← List.cons_append,
        List.reverse_append, List.dropWhile_append_of_pos hafter']
      cases hrev : (c :: r).reverse with
      | nil => simp at hrev
      | cons d s =>
          have hd : isBlank d = false := hlast d (by
            rw [← List.head?_reverse, hrev]
            rfl)
          rw [List.dropWhile_cons_of_neg (by simp [hd]), ← hrev, List.reverse_reverse]

theorem head?_nonblank {front : List Char} (h : ∀ c ∈ front, isBlank c = false) (hne : front ≠ [])
    (rest : List Char) : ∀ c ∈ (front ++ rest).head?, isBlank c = false := by
  intro c hc
  cases front with
  | nil => exact absurd rfl hne
  | cons d r => exact h c (Option.some.inj hc ▸ List.mem_cons_self)

theorem getLast?_nonblank {back : List Char} (h : ∀ c ∈ back, isBlank c = false) (hne : back ≠ [])
    (front : List Char) : ∀ c ∈ (front ++ back).getLast?, isBlank c = false := by
  intro c hc
  cases hlast : back.getLast? with
  | none => exact absurd (List.getLast?_eq_none_iff.1 hlast) hne
  | some d =>
      rw [List.getLast?_append, hlast] at hc
      exact h c (Option.some.inj hc ▸ List.mem_of_getLast? hlast)

theorem not_isBlank_of_isDigit {c : Char} (h : c.isDigit = true) : isBlank c = false := by
  obtain ⟨hl, hu⟩ := Char.isDigit_iff_toNat.1 h
  have h0 : '0'.toNat = 48 := rfl
  have h9 : '9'.toNat = 57 := rfl
  simp only [isBlank, Bool.or_eq_false_iff, Bool.and_eq_false_iff, decide_eq_false_iff_not,
    beq_eq_false_iff_ne]
  omega

theorem digitRun?_append {ds r : List Char} (hds : ∀ d ∈ ds, d.isDigit = true) (hne : ds ≠ [])
    (hr : ∀ c ∈ r.head?, c.isDigit = false) : digitRun? (ds ++ r) = some (ds, r) := by
  have hrest : r.takeWhile Char.isDigit = [] ∧ r.dropWhile Char.isDigit = r := by
    cases r with
    | nil => exact ⟨rfl, rfl⟩
    | cons c s => simp [hr c rfl]
  simp only [digitRun?, List.takeWhile_append_of_pos hds, List.dropWhile_append_of_pos hds,
    hrest, List.append_nil]

theorem padded_cons (width n : Nat) : ∃ c r, padded width n = c :: r ∧
    c.isDigit = true ∧ ∀ d ∈ r, d.isDigit = true := by
  cases h : padded width n with
  | nil =>
      have hnil : Nat.toDigits 10 n = [] := (List.append_eq_nil_iff.1 h).2
      exact absurd hnil Nat.toDigits_ne_nil
  | cons c r =>
      have hdigit : ∀ d ∈ c :: r, d.isDigit = true := fun d hd => isDigit_of_mem_padded (h ▸ hd)
      obtain ⟨hc, hr⟩ := List.forall_mem_cons.1 hdigit
      exact ⟨c, r, rfl, hc, hr⟩

theorem upToDigits?_padded {width n : Nat} (hw : 0 < width) (h : n < Nat.pow 10 width)
    (r : List Char) : upToDigits? width (padded width n ++ r) = some (n, r) := by
  have hl := length_padded hw h
  have hrun : (padded width n).takeWhile Char.isDigit = padded width n := by
    have happend := @List.takeWhile_append_of_pos _ Char.isDigit (padded width n) []
      fun c hc => isDigit_of_mem_padded hc
    simpa only [List.append_nil, List.takeWhile_nil] using happend
  obtain ⟨c, s, hcons, _⟩ := padded_cons width n
  simp only [upToDigits?, List.take_left' hl, hrun]
  rw [hcons]
  simp only [← hcons]
  rw [List.drop_left, digitsValue_padded]

theorem digitRun?_padded {c : Char} (hc : c.isDigit = false) (width n : Nat) (r : List Char) :
    digitRun? (padded width n ++ c :: r) = some (padded width n, c :: r) := by
  obtain ⟨d, s, hcons, -⟩ := padded_cons width n
  refine digitRun?_append (fun d hd => isDigit_of_mem_padded hd) (hcons ▸ List.cons_ne_nil d s) ?_
  rintro d hd
  rwa [← Option.some.inj hd]

end EventRollup.Text
