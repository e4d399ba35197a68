import EventRollup.Store.Accumulator
import Mathlib.Algebra.BigOperators.Group.List.Basic
import Mathlib.Algebra.Order.Ring.Int

namespace EventRollup

/-- What a value adds to a sum of integers; anything but a number adds nothing. -/
def Json.amount : Option Json → Int
  | some (.number n) => n.toInt64?.getD 0
  | _ => 0

def Json.addsInteger : Option Json → Bool
  | some (.number n) => n.toInt64?.isSome
  | _ => true

theorem Json.addsInteger_iff {v : Option Json} : addsInteger v = true ↔
    ∀ n, v = some (.number n) → n.toInt64?.isSome = true := by
  constructor
  · rintro h n rfl
    exact h
  · intro h
    match v with
    | some (.number n) => exact h n rfl
    | none | some .null | some (.bool _) | some (.string _) | some (.array _)
    | some (.object _) => rfl

namespace Tally

def Fits (total : Int) : Prop := Text.leastInt64 ≤ total ∧ total ≤ Text.greatestInt64

instance (total : Int) : Decidable (Fits total) :=
  inferInstanceAs (Decidable (Text.leastInt64 ≤ total ∧ total ≤ Text.greatestInt64))

theorem fits_of_natAbs {total : Int} (h : total.natAbs ≤ Text.greatestInt64) : Fits total := by
  have hleast : Text.leastInt64 = -Text.greatestInt64 - 1 := by decide
  exact ⟨by omega, by omega⟩

theorem feed_amount {v : Option Json} {total : Int} (hv : Json.addsInteger v = true)
    (hfits : Fits (total + Json.amount v)) :
    (integer total).feed v = integer (total + Json.amount v) := by
  match v with
  | some (.number n) =>
      obtain ⟨i, hi⟩ := Option.isSome_iff_exists.1 hv
      rw [Json.amount, hi, Option.getD_some] at hfits ⊢
      simp only [feed, addInteger, hi]
      exact if_pos hfits
  | none | some .null | some (.bool _) | some (.string _) | some (.array _) | some (.object _) =>
      exact congrArg integer (Int.add_zero total).symm

theorem feed_overflow {v : Option Json} {total : Int} (hv : Json.addsInteger v = true)
    (hfits : Fits total) (hover : ¬ Fits (total + Json.amount v)) :
    ∃ d, (integer total).feed v = double d := by
  match v with
  | some (.number n) =>
      obtain ⟨i, hi⟩ := Option.isSome_iff_exists.1 hv
      rw [Json.amount, hi, Option.getD_some] at hover
      refine ⟨addDouble (Double.ofInt? total) (.int i), ?_⟩
      simp only [feed, addInteger, hi]
      exact if_neg hover
  | none | some .null | some (.bool _) | some (.string _) | some (.array _) | some (.object _) =>
      exact absurd (by simpa [Json.amount] using hfits) hover

theorem foldl_double (vs : List (Option Json)) (d : Option Double) :
    ∃ e, vs.foldl feed (double d) = double e := by
  induction vs generalizing d with
  | nil => exact ⟨d, rfl⟩
  | cons v r ih =>
      have hstep : ∃ e, (double d).feed v = double e := by
        match v with
        | some (.number n) => exact ⟨_, rfl⟩
        | none | some .null | some (.bool _) | some (.string _) | some (.array _)
        | some (.object _) => exact ⟨d, rfl⟩
      obtain ⟨e, he⟩ := hstep
      rw [List.foldl_cons, he]
      exact ih e

/-- Every partial sum of the numbers has 64 bits, after what is there before. -/
def StaysWithin (total : Int) (vs : List (Option Json)) : Prop :=
  ∀ front, front <+: vs → Fits (total + (front.map Json.amount).sum)

theorem staysWithin_nil {total : Int} : StaysWithin total [] ↔ Fits total := by
  simp [StaysWithin]

theorem StaysWithin.start {total : Int} {vs : List (Option Json)} (h : StaysWithin total vs) :
    Fits total := by
  simpa using h [] List.nil_prefix

theorem staysWithin_cons {total : Int} {v : Option Json} {r : List (Option Json)} :
    StaysWithin total (v :: r) ↔ Fits total ∧ StaysWithin (total + Json.amount v) r := by
  constructor
  · intro h
    refine ⟨h.start, fun front hfront => ?_⟩
    have hcons := h (v :: front) ((List.prefix_cons_inj v).2 hfront)
    rwa [List.map_cons, List.sum_cons, ← Int.add_assoc] at hcons
  · rintro ⟨htotal, hr⟩ front hfront
    rcases List.prefix_cons_iff.1 hfront with rfl | ⟨front, rfl, hrest⟩
    · simpa using htotal
    · rw [List.map_cons, List.sum_cons, ← Int.add_assoc]
      exact hr front hrest

/-- An integer total comes to the sum while it stays within 64 bits, and to a double otherwise. -/
theorem foldl_integer {vs : List (Option Json)} (h : ∀ v ∈ vs, Json.addsInteger v = true)
    {total : Int} (hfits : Fits total) :
    StaysWithin total vs ∧
        vs.foldl feed (integer total) = integer (total + (vs.map Json.amount).sum) ∨
      ¬ StaysWithin total vs ∧ ∃ d, vs.foldl feed (integer total) = double d := by
  induction vs generalizing total with
  | nil => exact .inl ⟨staysWithin_nil.2 hfits, by simp⟩
  | cons v r ih =>
      obtain ⟨hv, hr⟩ := List.forall_mem_cons.1 h
      rw [staysWithin_cons, List.foldl_cons, List.map_cons, List.sum_cons, ← Int.add_assoc]
      by_cases hnext : Fits (total + Json.amount v)
      · rw [feed_amount hv hnext]
        rcases ih hr hnext with ⟨hstays, hsum⟩ | ⟨hleaves, hdouble⟩
        · exact .inl ⟨⟨hfits, hstays⟩, hsum⟩
        · exact .inr ⟨fun hstays => hleaves hstays.2, hdouble⟩
      · obtain ⟨d, hd⟩ := feed_overflow hv hfits hnext
        rw [hd]
        exact .inr ⟨fun hstays => hnext hstays.2.start, foldl_double r d⟩

theorem staysWithin_of_natAbs {vs : List (Option Json)} {total : Int}
    (h : (total.natAbs + (vs.map fun v => (Json.amount v).natAbs).sum : Int) ≤
      Text.greatestInt64) : StaysWithin total vs := by
  induction vs generalizing total with
  | nil =>
      rw [staysWithin_nil]
      exact fits_of_natAbs (by simpa using h)
  | cons v r ih =>
      rw [List.map_cons, List.sum_cons] at h
      have habs := Int.natAbs_add_le total (Json.amount v)
      exact staysWithin_cons.2 ⟨fits_of_natAbs (by omega), ih (by omega)⟩

theorem foldl_amount {vs : List (Option Json)} (hinteger : ∀ v ∈ vs, Json.addsInteger v = true)
    (total : Int) (hfits : (total.natAbs + (vs.map fun v => (Json.amount v).natAbs).sum : Int) ≤
      Text.greatestInt64) :
    vs.foldl feed (integer total) = integer (total + (vs.map Json.amount).sum) := by
  have hstays := staysWithin_of_natAbs hfits
  rcases foldl_integer hinteger hstays.start with ⟨-, hsum⟩ | ⟨hleaves, -⟩
  · exact hsum
  · exact absurd hstays hleaves

theorem foldl_one {α : Type} (l : List α) (hfits : l.length ≤ Text.greatestInt64) :
    l.foldl (fun t _ => t.feed (some (.int 1))) (integer 0) = integer l.length := by
  have hone : Json.amount (some (.int 1)) = 1 := by decide
  have hinteger : ∀ v ∈ l.map fun _ => some (Json.int 1), Json.addsInteger v = true := by
    intro v hv
    obtain ⟨-, -, rfl⟩ := List.mem_map.1 hv
    decide
  rw [← List.foldl_map, foldl_amount hinteger 0 (by simpa [hone] using hfits)]
  simp [hone]

def sumOf (p : Int → Bool) (vs : List (Option Json)) : Int :=
  ((vs.map Json.amount).filter p).sum

theorem sumOf_cons (p : Int → Bool) (v : Option Json) (r : List (Option Json)) :
    sumOf p (v :: r) = (if p (Json.amount v) then Json.amount v else 0) + sumOf p r := by
  rw [sumOf, List.map_cons, List.filter_cons]
  split
  · exact List.sum_cons
  · exact (Int.zero_add _).symm

theorem sum_between {front vs : List (Option Json)} (h : front.Sublist vs) :
    sumOf (· < 0) vs ≤ (front.map Json.amount).sum ∧
      (front.map Json.amount).sum ≤ sumOf (0 < ·) vs := by
  induction h with
  | slnil => exact ⟨Int.le_refl 0, Int.le_refl 0⟩
  | cons v _ ih =>
      rw [sumOf_cons, sumOf_cons]
      simp only [decide_eq_true_eq]
      split <;> split <;> omega
  | cons_cons v _ ih =>
      rw [sumOf_cons, sumOf_cons, List.map_cons, List.sum_cons]
      simp only [decide_eq_true_eq]
      split <;> split <;> omega

theorem sumOf_perm (p : Int → Bool) {vs ws : List (Option Json)} (h : ws.Perm vs) :
    sumOf p ws = sumOf p vs :=
  ((h.map _).filter _).sum_eq

/-- If no arrangement leaves the 64 bits, neither does a sum of some of the numbers: they could be
the first to arrive. -/
theorem fits_sumOf {vs : List (Option Json)} (h : ∀ ws, ws.Perm vs → StaysWithin 0 ws)
    (p : Int → Bool) : Fits (sumOf p vs) := by
  have hfirst := h _ (List.filter_append_perm (fun v => p (Json.amount v)) vs) _
    (List.prefix_append _ _)
  rw [Int.zero_add] at hfirst
  rw [sumOf, List.filter_map]
  exact hfirst

theorem staysWithin_arranged {vs ws : List (Option Json)} (hlosses : Fits (sumOf (· < 0) vs))
    (hgains : Fits (sumOf (0 < ·) vs)) (h : ws.Perm vs) : StaysWithin 0 ws := by
  intro front hfront
  have hbetween := sum_between hfront.sublist
  rw [sumOf_perm _ h, sumOf_perm _ h] at hbetween
  rw [Int.zero_add]
  exact ⟨Int.le_trans hlosses.1 hbetween.1, Int.le_trans hbetween.2 hgains.2⟩

/-- What a sum comes to that is fed these values. -/
def summed (vs : List (Option Json)) : Json := (vs.foldl feed (start .sum)).result

/-- A sum over integers of 64 bits comes to their sum if every partial sum has 64 bits in the order
in which they arrive, and otherwise to no integer at all. It comes to their sum in every order if
and only if the positive ones have 64 bits together and the negative ones have. -/
theorem sum_exact_iff {vs : List (Option Json)} (h : ∀ v ∈ vs, Json.addsInteger v = true) :
    (StaysWithin 0 vs → summed vs = .int (vs.map Json.amount).sum) ∧
      (¬ StaysWithin 0 vs → ∀ n, summed vs ≠ .int n) ∧
      ((∀ ws, ws.Perm vs → summed ws = .int (vs.map Json.amount).sum) ↔
        Fits (sumOf (0 < ·) vs) ∧ Fits (sumOf (· < 0) vs)) := by
  have hexact {ws : List (Option Json)} (hws : ∀ v ∈ ws, Json.addsInteger v = true) :
      StaysWithin 0 ws ∧ summed ws = .int (ws.map Json.amount).sum ∨
        ¬ StaysWithin 0 ws ∧ ∀ n, summed ws ≠ .int n := by
    rcases foldl_integer hws (show Fits 0 by decide) with ⟨hstays, hsum⟩ | ⟨hleaves, d, hd⟩
    · refine .inl ⟨hstays, ?_⟩
      rw [summed, start, hsum, Int.zero_add]
      rfl
    · refine .inr ⟨hleaves, fun n hn => ?_⟩
      rw [summed, start, hd] at hn
      cases d with
      | none => cases hn
      | some d => cases hn
  have hsame {ws : List (Option Json)} (hperm : ws.Perm vs) :
      (ws.map Json.amount).sum = (vs.map Json.amount).sum := (hperm.map _).sum_eq
  refine ⟨fun hstays => ?_, fun hleaves => ?_, fun hall => ?_, ?_⟩
  · rcases hexact h with ⟨-, hsum⟩ | ⟨hleaves, -⟩
    · exact hsum
    · exact absurd hstays hleaves
  · rcases hexact h with ⟨hstays, -⟩ | ⟨-, hnone⟩
    · exact absurd hstays hleaves
    · exact hnone
  · have hstays : ∀ ws, ws.Perm vs → StaysWithin 0 ws := by
      intro ws hperm
      rcases hexact fun v hv => h v (hperm.mem_iff.1 hv) with ⟨hstays, -⟩ | ⟨-, hnone⟩
      · exact hstays
      · exact absurd (hall ws hperm) (hnone _)
    exact ⟨fits_sumOf hstays _, fits_sumOf hstays _⟩
  · rintro ⟨hgains, hlosses⟩ ws hperm
    rcases hexact fun v hv => h v (hperm.mem_iff.1 hv) with ⟨-, hsum⟩ | ⟨hleaves, -⟩
    · rw [hsum, hsame hperm]
    · exact absurd (staysWithin_arranged hlosses hgains hperm) hleaves

def peaked : List (Option Json) := [some (.int Text.greatestInt64), some (.int 1), some (.int (-1))]

/-- The total leaves 64 bits on the way and does not come back, though the sum has them. -/
theorem sum_lost : (∀ v ∈ peaked, Json.addsInteger v = true) ∧
    Fits (peaked.map Json.amount).sum ∧ summed peaked ≠ .int (peaked.map Json.amount).sum := by
  decide +kernel

def dented : List (Option Json) :=
  [none, some (.int Text.greatestInt64), some (.string "none"), some (.int (-1))]

theorem sum_exact_iff_dented :
    (∀ ws, ws.Perm dented → summed ws = .int (Text.greatestInt64 - 1)) ∧
      (∀ n, summed peaked ≠ .int n) ∧
      ¬ ∀ ws, ws.Perm peaked → summed ws = .int Text.greatestInt64 := by
  have hdented : ∀ v ∈ dented, Json.addsInteger v = true := by decide +kernel
  have hpeaked : ∀ v ∈ peaked, Json.addsInteger v = true := by decide +kernel
  obtain ⟨-, hnone, horders⟩ := sum_exact_iff hpeaked
  refine ⟨fun ws hws => ?_, hnone fun hstays => ?_, fun hall => ?_⟩
  · exact (sum_exact_iff hdented).2.2.2 (by decide +kernel) ws hws
  · exact absurd (hstays (peaked.take 2) (List.take_prefix 2 peaked)) (by decide +kernel)
  · exact absurd (horders.1 hall).1 (by decide +kernel)

end Tally

end EventRollup
