import EventRollup.Proofs.Time.Chronology
import EventRollup.Store.Order

namespace EventRollup

/-- Results that comparisons of a first and a second, the second and a third, and the first and the
third thing can have in an order: equal things are exchangeable, and agreeing results carry over. -/
def Chained (x y z : Ordering) : Prop := (x = .eq → z = y) ∧ (y = .eq → z = x) ∧ (x = y → z = x)

namespace Chained

theorem of_transOrd {α : Type} [Ord α] [Std.TransOrd α] (a b c : α) :
    Chained (Ord.compare a b) (Ord.compare b c) (Ord.compare a c) := by
  refine ⟨fun h => Std.TransCmp.congr_left h, fun h => (Std.TransCmp.congr_right h).symm, fun h => ?_⟩
  cases hx : Ord.compare a b with
  | lt => exact Std.TransCmp.lt_trans hx (h ▸ hx)
  | eq => exact Std.TransCmp.eq_trans hx (h ▸ hx)
  | gt => exact Std.TransCmp.gt_trans hx (h ▸ hx)

/-- A second comparison only has to be chained where the first one leaves everything equal. -/
theorem then_of_eq {x y z u v w : Ordering} (h : Chained x y z)
    (h' : x = .eq → y = .eq → Chained u v w) : Chained (x.then u) (y.then v) (z.then w) := by
  obtain ⟨hx, hy, hxy⟩ := h
  cases x with
  | eq =>
      rw [hx rfl]
      cases y with
      | eq => exact h' rfl rfl
      | lt => exact ⟨fun _ => rfl, nofun, fun he => he.symm⟩
      | gt => exact ⟨fun _ => rfl, nofun, fun he => he.symm⟩
  | lt =>
      cases y with
      | eq =>
          rw [hy rfl]
          exact ⟨nofun, fun _ => rfl, fun _ => rfl⟩
      | lt =>
          rw [hxy rfl]
          exact ⟨nofun, nofun, fun _ => rfl⟩
      | gt => exact ⟨nofun, nofun, nofun⟩
  | gt =>
      cases y with
      | eq =>
          rw [hy rfl]
          exact ⟨nofun, fun _ => rfl, fun _ => rfl⟩
      | lt => exact ⟨nofun, nofun, nofun⟩
      | gt =>
          rw [hxy rfl]
          exact ⟨nofun, nofun, fun _ => rfl⟩

theorem equal : Chained .eq .eq .eq := ⟨fun _ => rfl, fun _ => rfl, fun _ => rfl⟩

theorem below (o : Ordering) : Chained .lt o .lt := ⟨nofun, fun _ => rfl, fun _ => rfl⟩

theorem above (o : Ordering) : Chained o .gt .gt := ⟨fun _ => rfl, nofun, fun h => h.symm⟩

theorem lt_of_lt {x y z : Ordering} (h : Chained x y z) (hx : x = .lt) (hy : y ≠ .gt) : z = .lt := by
  cases y with
  | lt => exact (h.2.2 hx).trans hx
  | eq => exact (h.2.1 rfl).trans hx
  | gt => exact absurd rfl hy

theorem gt_of_gt {x y z : Ordering} (h : Chained x y z) (hx : x = .gt) (hy : y ≠ .lt) : z = .gt := by
  cases y with
  | lt => exact absurd rfl hy
  | eq => exact (h.2.1 rfl).trans hx
  | gt => exact (h.2.2 hx).trans hx

end Chained

theorem Instant.compare_chained (t u v : Instant) :
    Chained (compare t u) (compare u v) (compare t v) :=
  (Chained.of_transOrd t.seconds u.seconds v.seconds).then_of_eq fun _ _ =>
    Chained.of_transOrd t.nanos u.nanos v.nanos

namespace Json

inductive Kind where
  | null
  | bool
  | number
  | string
  | array
  | object
deriving DecidableEq

def kind : Json → Kind
  | .null => .null
  | .bool _ => .bool
  | .number _ => .number
  | .string _ => .string
  | .array _ => .array
  | .object _ => .object

theorem kind_of_typeRank {a b : Json} (h : a.typeRank = b.typeRank) : a.kind = b.kind := by
  cases a <;> cases b <;> first
    | rfl
    | cases h
    | (simp only [typeRank] at h
       split at h <;> cases h)

theorem compare_of_typeRank {a b : Json} (h : a.typeRank ≠ b.typeRank) :
    compare a b = Ord.compare a.typeRank b.typeRank := by
  cases a <;> cases b <;> first
    | rfl
    | exact absurd rfl h
    | skip
  rename_i as bs
  rw [typeRank, typeRank] at h ⊢
  rw [compare]
  cases ha : asDate? (.object as) <;> cases hb : asDate? (.object bs) <;> rw [ha, hb] at h <;> first
    | rfl
    | exact absurd rfl h

theorem typeRank_of_compare_eq {a b : Json} (h : compare a b = .eq) : a.typeRank = b.typeRank := by
  refine Decidable.byContradiction fun hne => ?_
  rw [compare_of_typeRank hne] at h
  exact hne (Nat.compare_eq_eq.1 h)

theorem compare_eq_then (a b : Json) :
    compare a b = (Ord.compare a.typeRank b.typeRank).then (compare a b) := by
  by_cases h : a.typeRank = b.typeRank
  · rw [h, Nat.compare_eq_eq.2 rfl, Ordering.eq_then]
  · rw [compare_of_typeRank h, Ordering.then_self]

theorem asDate?_of_typeRank {a b : List (String × Json)}
    (h : typeRank (.object a) = typeRank (.object b)) :
    (asDate? (.object a)).isSome = (asDate? (.object b)).isSome := by
  rw [typeRank, typeRank] at h
  cases ha : (asDate? (.object a)).isSome <;> cases hb : (asDate? (.object b)).isSome <;>
    rw [ha, hb] at h <;> first | rfl | cases h

mutual

theorem compare_chained (a b c : Json) : Chained (compare a b) (compare b c) (compare a c) := by
  rw [compare_eq_then a b, compare_eq_then b c, compare_eq_then a c]
  refine (Chained.of_transOrd a.typeRank b.typeRank c.typeRank).then_of_eq fun hab hbc => ?_
  have hrank := Nat.compare_eq_eq.1 hab
  have hrank' := Nat.compare_eq_eq.1 hbc
  have hkind := kind_of_typeRank hrank
  have hkind' := kind_of_typeRank hrank'
  match a, b, c with
  | .null, .null, .null => exact Chained.equal
  | .bool x, .bool y, .bool z => exact Chained.of_transOrd x y z
  | .number x, .number y, .number z => exact Chained.of_transOrd x.units y.units z.units
  | .string x, .string y, .string z => exact Chained.of_transOrd x y z
  | .array x, .array y, .array z => exact compareItems_chained x y z
  | .object x, .object y, .object z =>
      have hxy := asDate?_of_typeRank hrank
      have hyz := asDate?_of_typeRank hrank'
      simp only [compare]
      cases hx : asDate? (.object x) with
      | some s =>
          rw [hx] at hxy
          obtain ⟨t, ht⟩ := Option.isSome_iff_exists.1 hxy.symm
          rw [ht] at hyz
          obtain ⟨u, hu⟩ := Option.isSome_iff_exists.1 hyz.symm
          rw [ht, hu]
          exact Instant.compare_chained s t u
      | none =>
          rw [hx] at hxy
          have hy := Option.isSome_eq_false_iff.1 hxy.symm
          rw [Option.isNone_iff_eq_none] at hy
          rw [hy] at hyz
          have hz := Option.isSome_eq_false_iff.1 hyz.symm
          rw [Option.isNone_iff_eq_none] at hz
          rw [hy, hz]
          exact compareEntries_chained x y z

theorem compareItems_chained (a b c : List Json) :
    Chained (compareItems a b) (compareItems b c) (compareItems a c) := by
  match a, b, c with
  | [], [], [] => exact Chained.equal
  | [], [], _ :: _ => exact ⟨fun _ => rfl, nofun, nofun⟩
  | [], _ :: _, [] => exact ⟨nofun, nofun, nofun⟩
  | [], _ :: _, _ :: _ => exact Chained.below _
  | _ :: _, [], [] => exact ⟨nofun, fun _ => rfl, nofun⟩
  | _ :: _, [], _ :: _ => exact ⟨nofun, nofun, nofun⟩
  | _ :: _, _ :: _, [] => exact Chained.above _
  | x :: xs, y :: ys, z :: zs =>
      exact (compare_chained x y z).then_of_eq fun _ _ => compareItems_chained xs ys zs

theorem compareEntries_chained (a b c : List (String × Json)) :
    Chained (compareEntries a b) (compareEntries b c) (compareEntries a c) := by
  match a, b, c with
  | [], [], [] => exact Chained.equal
  | [], [], _ :: _ => exact ⟨fun _ => rfl, nofun, nofun⟩
  | [], _ :: _, [] => exact ⟨nofun, nofun, nofun⟩
  | [], _ :: _, _ :: _ => exact Chained.below _
  | _ :: _, [], [] => exact ⟨nofun, fun _ => rfl, nofun⟩
  | _ :: _, [], _ :: _ => exact ⟨nofun, nofun, nofun⟩
  | _ :: _, _ :: _, [] => exact Chained.above _
  | (j, x) :: xs, (k, y) :: ys, (l, z) :: zs =>
      exact ((Chained.of_transOrd j k l).then_of_eq fun _ _ =>
        compare_chained x y z).then_of_eq fun _ _ => compareEntries_chained xs ys zs

end

mutual

theorem compare_swap (a b : Json) : (compare a b).swap = compare b a := by
  by_cases hrank : a.typeRank = b.typeRank
  · have hkind := kind_of_typeRank hrank
    match a, b with
    | .null, .null => rfl
    | .bool x, .bool y => exact Std.OrientedOrd.eq_swap.symm
    | .number x, .number y => exact Std.OrientedOrd.eq_swap.symm
    | .string x, .string y => exact Std.OrientedOrd.eq_swap.symm
    | .array x, .array y => exact compareItems_swap x y
    | .object x, .object y =>
        simp only [compare]
        cases asDate? (.object x) <;> cases asDate? (.object y)
        · exact compareEntries_swap x y
        · rfl
        · rfl
        · exact Instant.compare_swap _ _
  · rw [compare_of_typeRank hrank, compare_of_typeRank (Ne.symm hrank)]
    exact Std.OrientedOrd.eq_swap.symm

theorem compareItems_swap (a b : List Json) : (compareItems a b).swap = compareItems b a := by
  match a, b with
  | [], [] => rfl
  | [], _ :: _ => rfl
  | _ :: _, [] => rfl
  | x :: xs, y :: ys =>
      rw [compareItems, compareItems, Ordering.swap_then, compare_swap x y, compareItems_swap xs ys]

theorem compareEntries_swap (a b : List (String × Json)) :
    (compareEntries a b).swap = compareEntries b a := by
  match a, b with
  | [], [] => rfl
  | [], _ :: _ => rfl
  | _ :: _, [] => rfl
  | (k, x) :: xs, (l, y) :: ys =>
      have hname : (Ord.compare k l).swap = Ord.compare l k := Std.OrientedOrd.eq_swap.symm
      rw [compareEntries, compareEntries, Ordering.swap_then, Ordering.swap_then, hname,
        compare_swap x y, compareEntries_swap xs ys]

end

end Json

end EventRollup
