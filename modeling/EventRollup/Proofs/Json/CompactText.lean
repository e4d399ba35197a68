import EventRollup.Json.Reader
import EventRollup.Proofs.Json.Order
import EventRollup.Proofs.Number.DecimalText

namespace EventRollup.Json

theorem escaped_cases (c : Char) :
    (∃ e, e ≠ 'u' ∧ simpleEscape? e = some c ∧ escaped c = ['\\', e]) ∨
      (c.toNat < 0x20 ∧ escaped c =
        ['\\', 'u', '0', '0', hexDigit (c.toNat / 16), hexDigit (c.toNat % 16)]) ∨
      (c ≠ '"' ∧ c ≠ '\\' ∧ ¬ c.toNat < 0x20 ∧ escaped c = [c]) := by
  unfold escaped
  by_cases hquote : c = '"'
  · exact .inl ⟨'"', by decide, by rw [hquote]; rfl, if_pos hquote⟩
  by_cases hbackslash : c = '\\'
  · exact .inl ⟨'\\', by decide, by rw [hbackslash]; rfl, by rw [if_neg hquote, if_pos hbackslash]⟩
  rw [if_neg hquote, if_neg hbackslash]
  by_cases hcontrol : c.toNat < 0x20
  · repeat' split
    all_goals first
      | exact .inr (.inl ⟨hcontrol, rfl⟩)
      | exact .inl ⟨_, by decide, by rename_i h; rw [h]; rfl, rfl⟩
  · have hplain {e : Char} (he : e.toNat < 0x20) : c ≠ e := by
      rintro rfl
      exact hcontrol he
    rw [if_neg (hplain (by decide)), if_neg (hplain (by decide)), if_neg (hplain (by decide)),
      if_neg (hplain (by decide)), if_neg (hplain (by decide)), if_neg hcontrol]
    exact .inr (.inr ⟨hquote, hbackslash, hcontrol, rfl⟩)

theorem stringTail?_escaped (fuel : Nat) (seen : List Char) (c : Char) (r : List Char) :
    stringTail? (fuel + 1) seen (escaped c ++ r) = stringTail? fuel (c :: seen) r := by
  rcases escaped_cases c with ⟨e, he, hsimple, h⟩ | ⟨hcontrol, h⟩ | ⟨hquote, hbackslash, hplain, h⟩
  · rw [h]
    simp [stringTail?, hsimple]
  · have hunit : ∀ n < 0x20, hexValue? (hexDigit (n / 16)) = some (n / 16) ∧
        hexValue? (hexDigit (n % 16)) = some (n % 16) := by decide
    obtain ⟨hhigh, hlow⟩ := hunit c.toNat hcontrol
    have hzero : hexValue? '0' = some 0 := rfl
    have hvalue : ((0 * 16 + 0) * 16 + c.toNat / 16) * 16 + c.toNat % 16 = c.toNat := by omega
    have hread : escapedUnit? ('0' :: '0' :: hexDigit (c.toNat / 16) :: hexDigit (c.toNat % 16) :: r) =
        some (c, r) := by
      simp only [escapedUnit?, unit?, hzero, hhigh, hlow, bind, Option.bind, hvalue]
      rw [if_neg (by omega), if_neg (by omega), Char.ofNat_toNat]
    rw [h]
    simp only [List.cons_append, List.nil_append, stringTail?, hread, bind, Option.bind]
  · rw [h]
    simp [stringTail?, hbackslash, hplain]

/-- A string is read back as it was written, whatever follows it. -/
theorem stringTail?_quoted (fuel : Nat) (seen cs r : List Char) :
    stringTail? (cs.length + fuel + 1) seen (cs.flatMap escaped ++ '"' :: r) =
      some (String.ofList (seen.reverse ++ cs), r) := by
  induction cs generalizing seen with
  | nil => simp [stringTail?]
  | cons c s ih =>
      have hfuel : (c :: s).length + fuel + 1 = s.length + fuel + 1 + 1 := by
        rw [List.length_cons]
        omega
      rw [List.flatMap_cons, List.append_assoc, hfuel, stringTail?_escaped, ih, List.reverse_cons,
        List.append_assoc, List.singleton_append]

theorem quoted_append_inj {s t : String} {x y : List Char} (h : quoted s ++ x = quoted t ++ y) :
    s = t ∧ x = y := by
  have htail : s.toList.flatMap escaped ++ '"' :: x = t.toList.flatMap escaped ++ '"' :: y := by
    simpa [quoted] using h
  have hs := stringTail?_quoted t.toList.length [] s.toList x
  have ht := stringTail?_quoted s.toList.length [] t.toList y
  rw [htail, Nat.add_comm s.toList.length, ht] at hs
  simpa using (Option.some.inj hs).symm

def Follows (r : List Char) : Prop := ∀ c s, r = c :: s → c = ',' ∨ c = ']' ∨ c = '}'

theorem follows_itemsTail (items : List Json) (r : List Char) : Follows (itemsTail items ++ r) := by
  intro c s h
  cases items with
  | nil =>
      cases h
      exact .inr (.inl rfl)
  | cons v q =>
      cases h
      exact .inl rfl

theorem follows_entriesTail (entries : List (String × Json)) (r : List Char) :
    Follows (entriesTail entries ++ r) := by
  intro c s h
  cases entries with
  | nil =>
      cases h
      exact .inr (.inr rfl)
  | cons e q =>
      cases h
      exact .inl rfl

theorem number_append_inj {m n : Number} {x y : List Char} (hx : Follows x) (hy : Follows y)
    (h : m.chars ++ x = n.chars ++ y) : m = n ∧ x = y := by
  have hends {k : List Char} (hk : Follows k) : ∀ c s, k = c :: s → ¬ Number.IsChar c := by
    rintro c s hc (hd | hs | hs | hs | hs) <;> rcases hk c s hc with rfl | rfl | rfl <;>
      first | cases hd | cases hs
  have hsame (a b : List Char) (ha : ∀ c ∈ a, Number.IsChar c) (hb : ∀ c ∈ b, Number.IsChar c)
      (h : a ++ x = b ++ y) : a = b ∧ x = y := by
    induction a generalizing b with
    | nil =>
        cases b with
        | nil => exact ⟨rfl, h⟩
        | cons d s => exact absurd (hb d (List.mem_cons_self ..)) (hends hx d _ h)
    | cons c r ih =>
        obtain ⟨hc, hr⟩ := List.forall_mem_cons.1 ha
        cases b with
        | nil => exact absurd hc (hends hy c _ h.symm)
        | cons d s =>
            obtain ⟨-, hs⟩ := List.forall_mem_cons.1 hb
            obtain ⟨hcd, hrest⟩ := List.cons.inj h
            obtain ⟨hrs, hxy⟩ := ih s hr hs hrest
            exact ⟨by rw [hcd, hrs], hxy⟩
  obtain ⟨hchars, hxy⟩ := hsame m.chars n.chars Number.isChar_of_mem_chars
    Number.isChar_of_mem_chars h
  exact ⟨Number.chars_injective hchars, hxy⟩

def Kind.ofLead : Char → Kind
  | 'n' => .null
  | 't' => .bool
  | 'f' => .bool
  | '"' => .string
  | '[' => .array
  | '{' => .object
  | _ => .number

theorem ofLead_number {c : Char} (h : Number.IsChar c) : Kind.ofLead c = .number ∧ c ≠ ']' := by
  constructor
  · unfold Kind.ofLead
    split <;> first
      | rfl
      | rcases h with hd | hs | hs | hs | hs <;> first | cases hd | cases hs
  · rintro rfl
    rcases h with hd | hs | hs | hs | hs <;> first | cases hd | cases hs

theorem lead_chars (v : Json) :
    ∃ c r, v.chars = c :: r ∧ Kind.ofLead c = v.kind ∧ c ≠ ']' := by
  cases v with
  | null => exact ⟨_, _, rfl, rfl, by decide⟩
  | bool b => cases b <;> exact ⟨_, _, rfl, rfl, by decide⟩
  | number n =>
      obtain ⟨c, r, hc⟩ := List.exists_cons_of_ne_nil n.chars_ne_nil
      refine ⟨c, r, by rw [chars, hc], ?_⟩
      exact ofLead_number (Number.isChar_of_mem_chars c (hc ▸ List.mem_cons_self ..))
  | string s => exact ⟨_, _, rfl, rfl, by decide⟩
  | array items => cases items <;> exact ⟨_, _, rfl, rfl, by decide⟩
  | object entries => cases entries <;> exact ⟨_, _, rfl, rfl, by decide⟩

theorem kind_eq {v w : Json} {x y : List Char} (h : v.chars ++ x = w.chars ++ y) :
    v.kind = w.kind := by
  obtain ⟨c, r, hc, hv, -⟩ := v.lead_chars
  obtain ⟨d, s, hd, hw, -⟩ := w.lead_chars
  rw [hc, hd] at h
  rw [← hv, ← hw, (List.cons.inj h).1]

theorem chars_ne_bracket (v : Json) (x y : List Char) : v.chars ++ x ≠ ']' :: y := by
  obtain ⟨c, r, hc, -, hne⟩ := v.lead_chars
  rw [hc]
  intro h
  exact hne (List.cons.inj h).1

mutual

/-- The text of a value and what follows it tell the value. -/
theorem chars_append_inj (v w : Json) {x y : List Char} (hx : Follows x) (hy : Follows y)
    (h : v.chars ++ x = w.chars ++ y) : v = w ∧ x = y := by
  have hkind := kind_eq h
  match v, w with
  | .null, .null => exact ⟨rfl, List.append_cancel_left h⟩
  | .bool true, .bool true => exact ⟨rfl, List.append_cancel_left h⟩
  | .bool false, .bool false => exact ⟨rfl, List.append_cancel_left h⟩
  | .bool true, .bool false => cases h
  | .bool false, .bool true => cases h
  | .number m, .number n =>
      obtain ⟨hmn, hxy⟩ := number_append_inj hx hy h
      exact ⟨by rw [hmn], hxy⟩
  | .string s, .string t =>
      obtain ⟨hst, hxy⟩ := quoted_append_inj h
      exact ⟨by rw [hst], hxy⟩
  | .array [], .array [] => exact ⟨rfl, List.append_cancel_left h⟩
  | .array [], .array (w :: s) =>
      simp only [chars, List.cons_append, List.nil_append, List.cons.injEq, true_and,
        List.append_assoc] at h
      exact absurd h.symm (w.chars_ne_bracket _ _)
  | .array (v :: r), .array [] =>
      simp only [chars, List.cons_append, List.nil_append, List.cons.injEq, true_and,
        List.append_assoc] at h
      exact absurd h (v.chars_ne_bracket _ _)
  | .array (v :: r), .array (w :: s) =>
      simp only [chars, List.cons_append, List.append_assoc, List.cons.injEq, true_and] at h
      obtain ⟨hvw, hrest⟩ := chars_append_inj v w (follows_itemsTail r x)
        (follows_itemsTail s y) h
      obtain ⟨hrs, hxy⟩ := itemsTail_append_inj r s hrest
      exact ⟨by rw [hvw, hrs], hxy⟩
  | .object [], .object [] => exact ⟨rfl, List.append_cancel_left h⟩
  | .object [], .object ((l, w) :: s) => cases h
  | .object ((k, v) :: r), .object [] => cases h
  | .object ((k, v) :: r), .object ((l, w) :: s) =>
      simp only [chars, List.cons_append, List.append_assoc, List.cons.injEq, true_and] at h
      obtain ⟨hkl, hvalue⟩ := quoted_append_inj h
      obtain ⟨hvw, hrest⟩ := chars_append_inj v w (follows_entriesTail r x)
        (follows_entriesTail s y) (List.cons.inj hvalue).2
      obtain ⟨hrs, hxy⟩ := entriesTail_append_inj r s hrest
      exact ⟨by rw [hkl, hvw, hrs], hxy⟩

theorem itemsTail_append_inj (a b : List Json) {x y : List Char}
    (h : itemsTail a ++ x = itemsTail b ++ y) : a = b ∧ x = y := by
  match a, b with
  | [], [] => exact ⟨rfl, (List.cons.inj h).2⟩
  | [], _ :: _ => cases h
  | _ :: _, [] => cases h
  | v :: r, w :: s =>
      simp only [itemsTail, List.cons_append, List.append_assoc, List.cons.injEq, true_and] at h
      obtain ⟨hvw, hrest⟩ := chars_append_inj v w (follows_itemsTail r x)
        (follows_itemsTail s y) h
      obtain ⟨hrs, hxy⟩ := itemsTail_append_inj r s hrest
      exact ⟨by rw [hvw, hrs], hxy⟩

theorem entriesTail_append_inj (a b : List (String × Json)) {x y : List Char}
    (h : entriesTail a ++ x = entriesTail b ++ y) : a = b ∧ x = y := by
  match a, b with
  | [], [] => exact ⟨rfl, (List.cons.inj h).2⟩
  | [], _ :: _ => cases h
  | _ :: _, [] => cases h
  | (k, v) :: r, (l, w) :: s =>
      simp only [entriesTail, List.cons_append, List.append_assoc, List.cons.injEq, true_and] at h
      obtain ⟨hkl, hvalue⟩ := quoted_append_inj h
      obtain ⟨hvw, hrest⟩ := chars_append_inj v w (follows_entriesTail r x)
        (follows_entriesTail s y) (List.cons.inj hvalue).2
      obtain ⟨hrs, hxy⟩ := entriesTail_append_inj r s hrest
      exact ⟨by rw [hkl, hvw, hrs], hxy⟩

end

theorem compact_injective {v w : Json} (h : v.compact = w.compact) : v = w := by
  have hnil : Follows [] := fun c s hs => by cases hs
  have hchars : v.chars ++ [] = w.chars ++ [] := by rw [String.ofList_injective h]
  exact (chars_append_inj v w hnil hnil hchars).1

end EventRollup.Json
