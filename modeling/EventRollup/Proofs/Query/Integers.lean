import EventRollup.Proofs.Number.Rounding
import EventRollup.Proofs.Query.Measured
import EventRollup.Store.Match

namespace EventRollup

open Double

namespace Json

theorem compare_int (x y : Int) : compare (.int x) (.int y) =
    if roundedUnits x = roundedUnits y then .eq else Ord.compare x y := by
  rw [int, int, compare]
  exact compare_roundedUnits_eq x y

theorem compare_int_eq_eq (x y : Int) :
    compare (.int x) (.int y) = .eq ↔ roundedUnits x = roundedUnits y := by
  rw [compare_int]
  split
  · exact iff_of_true rfl ‹_›
  · rename_i hne
    refine iff_of_false (fun he => hne ?_) hne
    rw [Int.compare_eq_eq.1 he]

theorem compare_int_exact_iff (x y : Int) :
    compare (.int x) (.int y) = Ord.compare x y ↔ Resolves x y := by
  rw [compare_int]
  split
  · rename_i he
    rw [eq_comm, Int.compare_eq_eq, Resolves]
    exact ⟨fun h _ => h, fun h => h he⟩
  · rename_i hne
    exact iff_of_true rfl fun he => absurd he hne

theorem equivalent_int (x y : Int) :
    equivalent (.int x) (.int y) = decide (roundedUnits x = roundedUnits y) := by
  rw [Bool.eq_iff_iff, decide_eq_true_iff, equivalent, beq_iff_eq, compare_int_eq_eq]

variable {o : Ordering}

/-- Of integers the foremost in the order of values is the first that rounds to what the foremost in
their own order rounds to. -/
theorem Foremost.find?_int (ho : o ≠ .eq) {xs : List Int} {v : Json}
    (h : Foremost o (xs.map .int) v) {m : Int} (hm : m ∈ xs)
    (hforemost : ∀ w ∈ xs, Ord.compare m w ≠ o.swap) :
    (xs.find? fun w => roundedUnits w = roundedUnits m).map .int = some v := by
  have hnot := h.not_behind ho (List.mem_map_of_mem hm)
  obtain ⟨before, after, hsplit, hbefore, -⟩ := h
  obtain ⟨l, r, rfl, rfl, hr⟩ := List.map_eq_append_iff.1 hsplit
  obtain ⟨x, s, rfl, rfl, rfl⟩ := List.map_eq_cons_iff.1 hr
  have hx : roundedUnits x = roundedUnits m := by
    rw [compare_int] at hnot
    by_cases he : roundedUnits x = roundedUnits m
    · exact he
    · -- neither is strictly ahead of the other
      rw [if_neg he] at hnot
      have hback := hforemost x (by simp)
      rw [← Int.compare_swap] at hback
      have hequal : Ord.compare x m = .eq := by
        cases hc : Ord.compare x m <;> cases o <;> simp_all
      rw [Int.compare_eq_eq.1 hequal]
  have hl : l.find? (fun w => roundedUnits w = roundedUnits m) = none := by
    refine List.find?_eq_none.2 fun w hw he => ?_
    have hwx := hbefore _ (List.mem_map_of_mem hw)
    rw [(compare_int_eq_eq x w).2 (hx.trans (of_decide_eq_true he).symm)] at hwx
    exact ho hwx.symm
  rw [List.find?_append, hl, Option.none_or, List.find?_cons, decide_eq_true hx]
  rfl

end Json

namespace Condition

/-- The comparisons of a filter hold of two integers as the integers compare. -/
structure ExactOn (x y : Int) : Prop where
  eq : (compare .eq (.int y)).holds (some (.int x)) = .ok (decide (x = y))
  ne : (compare .ne (.int y)).holds (some (.int x)) = .ok (decide (x ≠ y))
  lt : (compare .lt (.int y)).holds (some (.int x)) = .ok (decide (x < y))
  lte : (compare .lte (.int y)).holds (some (.int x)) = .ok (decide (x ≤ y))
  gt : (compare .gt (.int y)).holds (some (.int x)) = .ok (decide (y < x))
  gte : (compare .gte (.int y)).holds (some (.int x)) = .ok (decide (y ≤ x))

theorem exactOn_iff (x y : Int) : ExactOn x y ↔ Resolves x y := by
  have heq : matchesEq (some (.int x)) (.int y) = decide (roundedUnits x = roundedUnits y) :=
    Json.equivalent_int x y
  constructor
  · intro h hunits
    have hholds := h.eq
    rw [holds, heq, decide_eq_true hunits] at hholds
    exact of_decide_eq_true (Except.ok.inj hholds).symm
  · intro h
    have hunits : decide (roundedUnits x = roundedUnits y) = decide (x = y) :=
      decide_eq_decide.2 ⟨h, congrArg roundedUnits⟩
    have horder (accept : Ordering → Bool) :
        matchesOrder accept (some (.int x)) (.int y) = accept (Ord.compare x y) := by
      rw [← (Json.compare_int_exact_iff x y).2 h]
      rfl
    refine ⟨?_, ?_, ?_, ?_, ?_, ?_⟩
    · rw [holds, heq, hunits]
    · rw [holds, heq, hunits, ← decide_not]
    all_goals
      rw [holds, horder]
      rcases Int.lt_trichotomy x y with hlt | rfl | hgt
      · rw [Int.compare_eq_lt.2 hlt]
        simp
        omega
      · rw [Int.compare_eq_eq.2 rfl]
        simp
      · rw [Int.compare_eq_gt.2 hgt]
        simp
        omega

structure ExactAmong (x : Int) (ys : List Int) : Prop where
  isIn : (compare .isIn (.array (ys.map .int))).holds (some (.int x)) = .ok (decide (x ∈ ys))
  notIn : (compare .notIn (.array (ys.map .int))).holds (some (.int x)) = .ok (decide (x ∉ ys))

theorem exactAmong_iff (x : Int) (ys : List Int) :
    ExactAmong x ys ↔ x ∈ ys ∨ ∀ y ∈ ys, Resolves x y := by
  have hin : matchesIn (some (.int x)) (.array (ys.map .int)) =
      decide (∃ y ∈ ys, roundedUnits x = roundedUnits y) := by
    rw [Bool.eq_iff_iff, decide_eq_true_iff, matchesIn, List.any_map, List.any_eq_true]
    refine exists_congr fun y => and_congr_right fun _ => ?_
    change Json.equivalent (.int x) (.int y) = true ↔ _
    rw [Json.equivalent_int, decide_eq_true_iff]
  have hexact : (∃ y ∈ ys, roundedUnits x = roundedUnits y) = (x ∈ ys) ↔
      x ∈ ys ∨ ∀ y ∈ ys, Resolves x y := by
    rw [eq_iff_iff]
    constructor
    · intro h
      by_cases hx : x ∈ ys
      · exact .inl hx
      · exact .inr fun y hy he => absurd (h.1 ⟨y, hy, he⟩) hx
    · rintro (hx | hy)
      · exact iff_of_true ⟨x, hx, rfl⟩ hx
      · exact ⟨fun ⟨y, hmem, he⟩ => hy y hmem he ▸ hmem, fun hx => ⟨x, hx, rfl⟩⟩
  rw [← hexact, eq_iff_iff]
  constructor
  · intro h
    have hholds := h.isIn
    rw [holds, hin] at hholds
    exact decide_eq_decide.1 (Except.ok.inj hholds)
  · intro h
    constructor
    · rw [holds, hin, decide_eq_decide.2 h]
    · rw [holds, hin, decide_eq_decide.2 h, ← decide_not]

end Condition

namespace Tally

def ofField (op : AggregateOperator) (name : String) (docs : List Document) : Json :=
  (docs.foldl (fun t d => t.feed (d.get? name)) (start op)).result

variable {name : String} {docs : List Document} {xs : List Int} {m : Int}

theorem find?_resolved (hm : m ∈ xs) (h : ∀ w ∈ xs, Resolves m w) :
    (xs.find? fun w => roundedUnits w = roundedUnits m) = some m := by
  cases hw : xs.find? fun w => roundedUnits w = roundedUnits m with
  | none => exact absurd (decide_eq_true rfl) (List.find?_eq_none.1 hw m hm)
  | some w =>
      have hunits : roundedUnits w = roundedUnits m := by simpa using List.find?_some hw
      rw [h w (List.mem_of_find?_eq_some hw) hunits.symm]

theorem find?_foremost {o : Ordering} (ho : o ≠ .eq) {v : Json}
    (hheld : held name docs = xs.map .int)
    (hv : held name docs = [] ∧ v = .null ∨ Json.Foremost o (held name docs) v) (hm : m ∈ xs)
    (hforemost : ∀ w ∈ xs, Ord.compare m w ≠ o.swap) :
    (xs.find? fun w => roundedUnits w = roundedUnits m).map .int = some v ∧
      ((∀ w ∈ xs, Resolves m w) → v = .int m) := by
  have hfirst : (xs.find? fun w => roundedUnits w = roundedUnits m).map .int = some v := by
    rw [hheld] at hv
    rcases hv with ⟨hnil, -⟩ | hv
    · rw [List.map_eq_nil_iff.1 hnil] at hm
      cases hm
    · exact hv.find?_int ho hm hforemost
  refine ⟨hfirst, fun h => ?_⟩
  rw [find?_resolved hm h] at hfirst
  exact (Option.some.inj hfirst).symm

theorem ofField_min (hheld : held name docs = xs.map .int) (hm : xs.min? = some m) :
    (xs.find? fun w => roundedUnits w = roundedUnits m).map .int =
        some (ofField .min name docs) ∧
      ((∀ w ∈ xs, Resolves m w) → ofField .min name docs = .int m) := by
  obtain ⟨hmem, hle⟩ := List.min?_eq_some_iff.1 hm
  refine find?_foremost (by decide) hheld (foremost_least name docs) hmem fun w hw hgt => ?_
  exact absurd (hle w hw) (Int.not_le_of_gt (Int.compare_eq_gt.1 hgt))

theorem ofField_max (hheld : held name docs = xs.map .int) (hm : xs.max? = some m) :
    (xs.find? fun w => roundedUnits w = roundedUnits m).map .int =
        some (ofField .max name docs) ∧
      ((∀ w ∈ xs, Resolves m w) → ofField .max name docs = .int m) := by
  obtain ⟨hmem, hle⟩ := List.max?_eq_some_iff.1 hm
  refine find?_foremost (by decide) hheld (foremost_greatest name docs) hmem fun w hw hlt => ?_
  exact absurd (hle w hw) (Int.not_le_of_gt (Int.compare_eq_lt.1 hlt))

end Tally

/-- Integers are compared exactly where doubles keep them apart, and there alone; integers that are
not kept apart compare equal. Filters go by this comparison. So do extremes: the first of the
integers that round to what the extreme rounds to is taken for it. -/
theorem Json.compare_integers (x y : Int) (ys : List Int) {name : String} {docs : List Document}
    {xs : List Int} (hheld : Tally.held name docs = xs.map .int) (m : Int) :
    (compare (.int x) (.int y) = Ord.compare x y ↔ Resolves x y) ∧
      (¬ Resolves x y → compare (.int x) (.int y) = .eq) ∧
      (x.natAbs < 9007199254740992 → Resolves x y) ∧
      (Condition.ExactOn x y ↔ Resolves x y) ∧
      (Condition.ExactAmong x ys ↔ x ∈ ys ∨ ∀ z ∈ ys, Resolves x z) ∧
      (xs.min? = some m →
        (xs.find? fun w => roundedUnits w = roundedUnits m).map .int =
          some (Tally.ofField .min name docs) ∧
        ((∀ w ∈ xs, Resolves m w) → Tally.ofField .min name docs = .int m)) ∧
      (xs.max? = some m →
        (xs.find? fun w => roundedUnits w = roundedUnits m).map .int =
          some (Tally.ofField .max name docs) ∧
        ((∀ w ∈ xs, Resolves m w) → Tally.ofField .max name docs = .int m)) := by
  refine ⟨compare_int_exact_iff x y, fun h => ?_, resolves_of_lt, Condition.exactOn_iff x y,
    Condition.exactAmong_iff x ys, Tally.ofField_min hheld, Tally.ofField_max hheld⟩
  rw [compare_int_eq_eq]
  exact Decidable.byContradiction fun hne => h fun he => absurd he hne

def adjacent : List Document := [[("n", .int 9007199254740993)], [("n", .int 9007199254740992)]]

theorem Json.compare_integers_adjacent :
    ¬ Resolves 9007199254740993 9007199254740992 ∧
      compare (.int 9007199254740993) (.int 9007199254740992) = .eq ∧
      ¬ Condition.ExactOn 9007199254740993 9007199254740992 ∧
      ¬ Condition.ExactAmong 9007199254740993 [9007199254740992] ∧
      Tally.ofField .min "n" adjacent = .int 9007199254740993 ∧
      Condition.ExactOn (-9007199254740991) 9007199254740992 ∧
      Tally.ofField .max "n" (adjacent.drop 1) = .int 9007199254740992 := by
  have hmerged : ¬ Resolves 9007199254740993 9007199254740992 := by decide +kernel
  have hfound : ([9007199254740993, 9007199254740992].find? fun w : Int =>
      roundedUnits w = roundedUnits 9007199254740992) = some 9007199254740993 := by
    decide +kernel
  obtain ⟨-, hequal, -, hexact, hamong, hleast, -⟩ :=
    compare_integers 9007199254740993 9007199254740992 [9007199254740992]
      (show Tally.held "n" adjacent = [9007199254740993, 9007199254740992].map .int from rfl)
      9007199254740992
  obtain ⟨-, -, hsmall, hexact', -, -, hgreatest⟩ :=
    compare_integers (-9007199254740991) 9007199254740992 []
      (show Tally.held "n" (adjacent.drop 1) = [9007199254740992].map .int from rfl)
      9007199254740992
  refine ⟨hmerged, hequal hmerged, fun h => hmerged (hexact.1 h), fun h => ?_, ?_,
    hexact'.2 (hsmall (by decide)), (hgreatest (by decide)).2 (by decide +kernel)⟩
  · rcases hamong.1 h with hmem | hall
    · exact absurd hmem (by decide)
    · exact hmerged (hall _ List.mem_cons_self)
  · have hfirst := (hleast (by decide)).1
    rw [hfound] at hfirst
    exact (Option.some.inj hfirst).symm

end EventRollup
