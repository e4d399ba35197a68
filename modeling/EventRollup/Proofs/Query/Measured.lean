import EventRollup.Proofs.Json.Order
import EventRollup.Proofs.Query.Meaning
import EventRollup.Proofs.Store.Totals

namespace EventRollup

namespace Json

/-- The earliest of the values that come first in an order, which is smaller first for `lt` and
greater first for `gt`: it is strictly ahead of what stands before it, and nothing after it is
strictly ahead. -/
def Foremost (o : Ordering) (vs : List Json) (v : Json) : Prop :=
  ∃ before after, vs = before ++ v :: after ∧ (∀ w ∈ before, compare v w = o) ∧
    ∀ w ∈ after, compare v w ≠ o.swap

variable {o : Ordering}

theorem ahead_of_ahead (ho : o ≠ .eq) {u v w : Json} (huv : compare u v = o)
    (hvw : compare v w ≠ o.swap) : compare u w = o := by
  have hchain := compare_chained u v w
  cases o with
  | lt => exact hchain.lt_of_lt huv hvw
  | eq => exact absurd rfl ho
  | gt => exact hchain.gt_of_gt huv hvw

theorem Foremost.not_behind (ho : o ≠ .eq) {vs : List Json} {v w : Json} (h : Foremost o vs v)
    (hw : w ∈ vs) : compare v w ≠ o.swap := by
  obtain ⟨before, after, rfl, hbefore, hafter⟩ := h
  have hne : o ≠ o.swap := by
    cases o with
    | eq => exact absurd rfl ho
    | _ => decide
  rcases List.mem_append.1 hw with hmem | hmem
  · rw [hbefore w hmem]
    exact hne
  · rcases List.mem_cons.1 hmem with rfl | hmem
    · intro hself
      have hswap := compare_swap w w
      rw [hself] at hswap
      cases o with
      | eq => exact ho rfl
      | _ => cases hswap
    · exact hafter w hmem

theorem Foremost.concat (ho : o ≠ .eq) {vs : List Json} {v : Json} (h : Foremost o vs v)
    (w : Json) : Foremost o (vs ++ [w]) (if compare w v = o then w else v) := by
  by_cases hahead : compare w v = o
  · rw [if_pos hahead]
    refine ⟨vs, [], rfl, fun x hx => ?_, fun x hx => by cases hx⟩
    exact ahead_of_ahead ho hahead (h.not_behind ho hx)
  · rw [if_neg hahead]
    obtain ⟨before, after, rfl, hbefore, hafter⟩ := h
    refine ⟨before, after ++ [w], by simp, hbefore, fun x hx => ?_⟩
    rcases List.mem_append.1 hx with hmem | hmem
    · exact hafter x hmem
    · rw [List.mem_singleton.1 hmem]
      intro hbehind
      have hswap := compare_swap v w
      rw [hbehind, Ordering.swap_swap] at hswap
      exact hahead hswap.symm

end Json

namespace Tally

variable {o : Ordering} {wins : Ordering → Bool}

theorem foremost_foldl_better (ho : o ≠ .eq) (hwins : ∀ x, wins x = true ↔ x = o)
    {seen : List Json} {v : Json} (h : Json.Foremost o seen v) (vs : List Json) :
    ∃ u, vs.foldl (better wins) (some v) = some u ∧ Json.Foremost o (seen ++ vs) u := by
  -- what was found is the foremost of what was seen
  induction vs generalizing seen v with
  | nil => exact ⟨v, rfl, by rwa [List.append_nil]⟩
  | cons w r ih =>
      have hnext := h.concat ho w
      have hstep : better wins (some v) w = some (if Json.compare w v = o then w else v) := by
        rw [better]
        by_cases hahead : Json.compare w v = o
        · rw [if_pos ((hwins _).2 hahead), if_pos hahead]
        · rw [if_neg fun he => hahead ((hwins _).1 he), if_neg hahead]
      obtain ⟨u, hu, hforemost⟩ := ih hnext
      rw [List.append_assoc, List.singleton_append] at hforemost
      exact ⟨u, by rw [List.foldl_cons, hstep, hu], hforemost⟩

def held (name : String) (docs : List Document) : List Json :=
  (docs.filterMap fun d => d.get? name).filter fun v => !v.isNull

theorem foldl_held {state : Option Json → Tally} (name : String)
    (hmissing : ∀ found, (state found).feed none = state found)
    (hvalue : ∀ found v, (state found).feed (some v) =
      if v.isNull then state found else state (better wins found v))
    (docs : List Document) (found : Option Json) :
    docs.foldl (fun t d => t.feed (d.get? name)) (state found) =
      state ((held name docs).foldl (better wins) found) := by
  induction docs generalizing found with
  | nil => rfl
  | cons d r ih =>
      rw [List.foldl_cons]
      cases hv : d.get? name with
      | none =>
          have hheld : held name (d :: r) = held name r := by
            simp only [held, List.filterMap_cons, hv]
          rw [hmissing, hheld, ih]
      | some v =>
          have hheld : held name (d :: r) =
              if v.isNull then held name r else v :: held name r := by
            simp only [held, List.filterMap_cons, hv, List.filter_cons]
            cases v.isNull <;> rfl
          rw [hvalue, hheld]
          cases v.isNull with
          | true => exact ih found
          | false => exact ih _

theorem foremost_foldl_held {state : Option Json → Tally} (ho : o ≠ .eq)
    (hwins : ∀ x, wins x = true ↔ x = o) (name : String)
    (hresult : ∀ found, (state found).result = found.getD .null)
    (hmissing : ∀ found, (state found).feed none = state found)
    (hvalue : ∀ found v, (state found).feed (some v) =
      if v.isNull then state found else state (better wins found v)) (docs : List Document) :
    let r := (docs.foldl (fun t d => t.feed (d.get? name)) (state none)).result
    held name docs = [] ∧ r = .null ∨ Json.Foremost o (held name docs) r := by
  intro r
  have hr : r = ((held name docs).foldl (better wins) none).getD .null := by
    rw [← hresult, ← foldl_held name hmissing hvalue]
  rw [hr]
  cases held name docs with
  | nil => exact .inl ⟨rfl, rfl⟩
  | cons v vs =>
      have hfirst : Json.Foremost o [v] v :=
        ⟨[], [], rfl, fun w hw => (by cases hw), fun w hw => by cases hw⟩
      obtain ⟨u, hu, hforemost⟩ := foremost_foldl_better ho hwins hfirst vs
      right
      have hfold : (v :: vs).foldl (better wins) none = some u := hu
      rw [hfold]
      exact hforemost

theorem foremost_least (name : String) (docs : List Document) :
    let r := (docs.foldl (fun t d => t.feed (d.get? name)) (start .min)).result
    held name docs = [] ∧ r = .null ∨ Json.Foremost .lt (held name docs) r :=
  foremost_foldl_held (by decide) (fun x => by cases x <;> decide) name (fun _ => rfl)
    (fun _ => rfl) (fun _ _ => rfl) docs

theorem foremost_greatest (name : String) (docs : List Document) :
    let r := (docs.foldl (fun t d => t.feed (d.get? name)) (start .max)).result
    held name docs = [] ∧ r = .null ∨ Json.Foremost .gt (held name docs) r :=
  foremost_foldl_held (by decide) (fun x => by cases x <;> decide) name (fun _ => rfl)
    (fun _ => rfl) (fun _ _ => rfl) docs

theorem foldl_first (name : String) (docs : List Document) (v : Json) :
    docs.foldl (fun t d => t.feed (d.get? name)) (first (some v)) = first (some v) := by
  induction docs with
  | nil => rfl
  | cons d r ih => exact ih

theorem foldl_last (name : String) (docs : List Document) (v : Json) :
    ∃ w, docs.foldl (fun t d => t.feed (d.get? name)) (last v) = last w := by
  induction docs generalizing v with
  | nil => exact ⟨v, rfl⟩
  | cons d r ih => exact ih _

end Tally

/-- What a value says of documents as the value of a measure. The count measure counts them, whatever
operator it names; sums and means depend on the order in which numbers are added. -/
def Measure.Describes (settings : Settings) (m : Measure) (docs : List Document) (v : Json) : Prop :=
  if m.field = settings.countMeasure then docs.length ≤ Text.greatestInt64 → v = .int docs.length
  else match m.effective with
    | .min => Tally.held m.field docs = [] ∧ v = .null ∨
        Json.Foremost .lt (Tally.held m.field docs) v
    | .max => Tally.held m.field docs = [] ∧ v = .null ∨
        Json.Foremost .gt (Tally.held m.field docs) v
    | .first => v = (docs.head?.bind fun d => d.get? m.field).getD .null
    | .last => v = (docs.getLast?.bind fun d => d.get? m.field).getD .null
    | op => v = (docs.foldl (fun t d => t.feed (d.get? m.field)) (Tally.start op)).result

namespace QuerySpec

open Tally

theorem measured_describes (settings : Settings) (m : Measure) (docs : List Document) :
    m.Describes settings docs (measured settings m docs) := by
  rw [Measure.Describes, measured]
  by_cases hcount : m.field = settings.countMeasure
  · rw [if_pos hcount, if_pos hcount]
    intro hfits
    rw [start, foldl_one docs hfits]
    rfl
  · rw [if_neg hcount, if_neg hcount]
    cases m.effective with
    | sum => rfl
    | avg => rfl
    | min => exact foremost_least m.field docs
    | max => exact foremost_greatest m.field docs
    | first =>
        cases docs with
        | nil => rfl
        | cons d r => exact congrArg result (foldl_first m.field r ((d.get? m.field).getD .null))
    | last =>
        rcases List.eq_nil_or_concat docs with rfl | ⟨front, d, rfl⟩
        · rfl
        · obtain ⟨v, hv⟩ := foldl_last m.field front .null
          rw [List.concat_eq_append, List.foldl_append, List.getLast?_concat, start, hv]
          rfl

end QuerySpec

end EventRollup
