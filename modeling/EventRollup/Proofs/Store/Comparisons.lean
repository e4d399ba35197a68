import EventRollup.Proofs.Json.Order
import EventRollup.Proofs.Store.Matching
import Mathlib.Logic.ExistsUnique

namespace EventRollup

/-- Equality of what is not one and the same value: a missing field equals null, and an array equals
what one of its items equals. -/
def LooselyEquals (field : Option Json) (operand : Json) : Prop :=
  match field with
  | none => operand = .null
  | some (.array items) =>
    operand.isArray = false ∧ ∃ item ∈ items, Json.compare item operand = .eq
  | some _ => False

section Values

variable {field : Option Json} {operand : Json}

theorem Json.equivalent_iff {a b : Json} : equivalent a b = true ↔ compare a b = .eq := beq_iff_eq

theorem Json.isArray_of_typeRank {a b : Json} (h : a.typeRank = b.typeRank) :
    a.isArray = b.isArray := by
  have hkind := kind_of_typeRank h
  cases a <;> cases b <;> first | rfl | cases hkind

theorem matchesOrder_iff {accept : Ordering → Bool} : matchesOrder accept field operand = true ↔
    ∃ v, field = some v ∧ v.typeRank = operand.typeRank ∧
      accept (Json.compare v operand) = true := by
  cases field with
  | none => simp [matchesOrder]
  | some v => simp [matchesOrder]

theorem LooselyEquals.typeRank_ne (h : LooselyEquals field operand) {v : Json}
    (hv : field = some v) : v.typeRank ≠ operand.typeRank := by
  subst hv
  cases v with
  | array items =>
      intro hrank
      have harray := Json.isArray_of_typeRank hrank
      rw [h.1] at harray
      cases harray
  | _ => exact h.elim

theorem matchesEq_iff : matchesEq field operand = true ↔
    LooselyEquals field operand ∨ ∃ v, field = some v ∧ Json.compare v operand = .eq := by
  cases field with
  | none =>
      have hnull : operand.isNull = true ↔ operand = .null := by
        cases operand <;> simp [Json.isNull]
      simp [matchesEq, LooselyEquals, hnull]
  | some v =>
      by_cases harray : ∃ items, v = .array items
      · obtain ⟨items, rfl⟩ := harray
        cases hoperand : operand.isArray with
        | true => simp [matchesEq, LooselyEquals, hoperand, Json.equivalent_iff]
        | false =>
            have hwhole : Json.compare (.array items) operand ≠ .eq := by
              intro he
              have hsame := Json.isArray_of_typeRank (Json.typeRank_of_compare_eq he)
              rw [hoperand] at hsame
              cases hsame
            simp [matchesEq, LooselyEquals, hoperand, hwhole, Json.equivalent_iff]
      · have hloose : ¬ LooselyEquals (some v) operand := by
          intro h
          cases v with
          | array items => exact harray ⟨items, rfl⟩
          | _ => exact h
        have hmatches : matchesEq (some v) operand = Json.equivalent v operand := by
          cases v with
          | array items => exact absurd ⟨items, rfl⟩ harray
          | _ => rfl
        rw [hmatches, Json.equivalent_iff]
        simp [hloose]

end Values

def Filter.only (field : FieldName) (op : FilterOperator) (operand : Json) : Filter :=
  empty.push field (.compare op operand)

theorem Filter.accepts_only (field : FieldName) (op : FilterOperator) (operand : Json)
    (d : Document) : (only field op operand).accepts d =
      (Condition.compare op operand).holds (d.get? field.text) := by
  change (do
    if ← (do
        if ← (Condition.compare op operand).holds (d.get? field.text) then .ok true
        else .ok false) then .ok true
    else .ok false) = _
  cases (Condition.compare op operand).holds (d.get? field.text) with
  | error fault => rfl
  | ok b => cases b <;> rfl

namespace Document

/-- A document passes the filter that asks one thing of one field. -/
def Meets (d : Document) (field : FieldName) (op : FilterOperator) (operand : Json) : Prop :=
  (Filter.only field op operand).accepts d = .ok true

instance (d : Document) (field : FieldName) (op : FilterOperator) (operand : Json) :
    Decidable (d.Meets field op operand) :=
  decidable_of_iff _ Filter.accepts_eq_true_iff.symm

variable {d : Document} {field : FieldName} {v : Json}

theorem meets_eq_iff : d.Meets field .eq v ↔ LooselyEquals (d.get? field.text) v ∨
    ∃ x, d.get? field.text = some x ∧ Json.compare x v = .eq := by
  rw [Meets, Filter.accepts_only, Condition.holds, Except.ok.injEq, matchesEq_iff]

theorem meets_isIn_iff : d.Meets field .isIn (.array [v]) ↔ d.Meets field .eq v := by
  rw [Meets, Meets, Filter.accepts_only, Filter.accepts_only, Condition.holds, Condition.holds,
    matchesIn, List.any_cons, List.any_nil, Bool.or_false]

def accepted? : FilterOperator → Option (Ordering → Bool)
  | .gt => some Ordering.isGT
  | .gte => some Ordering.isGE
  | .lt => some Ordering.isLT
  | .lte => some Ordering.isLE
  | _ => none

theorem meets_order_iff {op : FilterOperator} {accept : Ordering → Bool}
    (h : accepted? op = some accept) : d.Meets field op v ↔
      ∃ x, d.get? field.text = some x ∧ x.typeRank = v.typeRank ∧
        accept (Json.compare x v) = true := by
  rw [← matchesOrder_iff, Meets, Filter.accepts_only]
  cases op <;> cases h <;> rw [Condition.holds, Except.ok.injEq]

theorem not_meets_of_loose {op : FilterOperator} {accept : Ordering → Bool}
    (h : accepted? op = some accept) (hloose : LooselyEquals (d.get? field.text) v) :
    ¬ d.Meets field op v := by
  rw [meets_order_iff h]
  rintro ⟨x, hx, hrank, -⟩
  exact hloose.typeRank_ne hx hrank

theorem meets_weak_iff {strict weak : FilterOperator} {accept acceptWeak : Ordering → Bool}
    (hstrict : accepted? strict = some accept) (hweak : accepted? weak = some acceptWeak)
    (h : ∀ o, acceptWeak o = true ↔ accept o = true ∨ o = .eq) :
    d.Meets field weak v ↔ (d.Meets field strict v ∨ d.Meets field .eq v) ∧
      ¬ LooselyEquals (d.get? field.text) v := by
  constructor
  · intro hmeets
    have hloose : ¬ LooselyEquals (d.get? field.text) v := fun hl =>
      not_meets_of_loose hweak hl hmeets
    obtain ⟨x, hx, hrank, haccept⟩ := (meets_order_iff hweak).1 hmeets
    refine ⟨?_, hloose⟩
    rcases (h _).1 haccept with hs | he
    · exact .inl ((meets_order_iff hstrict).2 ⟨x, hx, hrank, hs⟩)
    · exact .inr (meets_eq_iff.2 (.inr ⟨x, hx, he⟩))
  · rintro ⟨hs | he, hloose⟩
    · obtain ⟨x, hx, hrank, haccept⟩ := (meets_order_iff hstrict).1 hs
      exact (meets_order_iff hweak).2 ⟨x, hx, hrank, (h _).2 (.inl haccept)⟩
    · obtain ⟨x, hx, he⟩ := (meets_eq_iff.1 he).resolve_left hloose
      exact (meets_order_iff hweak).2
        ⟨x, hx, Json.typeRank_of_compare_eq he, (h _).2 (.inr he)⟩

/-- The comparison that holds of values of one type which compare with this result. -/
def comparison : Ordering → FilterOperator
  | .lt => .lt
  | .eq => .eq
  | .gt => .gt

theorem meets_comparison_iff {x : Json} (hx : d.get? field.text = some x)
    (hrank : x.typeRank = v.typeRank) (o : Ordering) :
    d.Meets field (comparison o) v ↔ Json.compare x v = o := by
  have hloose : ¬ LooselyEquals (d.get? field.text) v := fun h => h.typeRank_ne hx hrank
  cases o with
  | lt =>
      rw [comparison, meets_order_iff rfl]
      simp [hx, hrank]
  | eq =>
      rw [comparison, meets_eq_iff]
      simp [hx, hx ▸ hloose]
  | gt =>
      rw [comparison, meets_order_iff rfl]
      simp [hx, hrank]

/-- The comparisons of a filter always give an answer and make one family. Weak ones are the strict
ones or equality, except where the field is only loosely equal to the operand, which no ordered one
sees. A list of one member is equality with it. Of values of one type, arrays among them, exactly one
of less, equal and greater holds. -/
theorem comparisons_cohere (d : Document) (field : FieldName) (v : Json) :
    (∀ op, op ≠ .regex → ∃ b, (Filter.only field op v).accepts d = .ok b) ∧
      (d.Meets field .gte v ↔ (d.Meets field .gt v ∨ d.Meets field .eq v) ∧
        ¬ LooselyEquals (d.get? field.text) v) ∧
      (d.Meets field .lte v ↔ (d.Meets field .lt v ∨ d.Meets field .eq v) ∧
        ¬ LooselyEquals (d.get? field.text) v) ∧
      (LooselyEquals (d.get? field.text) v →
        d.Meets field .eq v ∧ ¬ d.Meets field .gt v ∧ ¬ d.Meets field .lt v) ∧
      (d.Meets field .isIn (.array [v]) ↔ d.Meets field .eq v) ∧
      ∀ x, d.get? field.text = some x → x.typeRank = v.typeRank →
        ∃! op, op ∈ [FilterOperator.lt, .eq, .gt] ∧ d.Meets field op v := by
  refine ⟨?_, ?_, ?_, ?_, meets_isIn_iff, ?_⟩
  · intro op hop
    rw [Filter.accepts_only]
    exact Condition.total_of_ne_regex hop v _
  · exact meets_weak_iff rfl rfl fun o => by cases o <;> decide
  · exact meets_weak_iff rfl rfl fun o => by cases o <;> decide
  · intro hloose
    exact ⟨meets_eq_iff.2 (.inl hloose), not_meets_of_loose rfl hloose,
      not_meets_of_loose rfl hloose⟩
  · intro x hx hrank
    have hiff := meets_comparison_iff hx hrank
    refine ⟨comparison (Json.compare x v), ⟨?_, (hiff _).2 rfl⟩, ?_⟩
    · cases Json.compare x v <;> simp [comparison]
    · rintro op ⟨hmem, hop⟩
      have hnamed : ∃ o, op = comparison o := by
        simp only [List.mem_cons, List.not_mem_nil, or_false] at hmem
        rcases hmem with rfl | rfl | rfl
        · exact ⟨.lt, rfl⟩
        · exact ⟨.eq, rfl⟩
        · exact ⟨.gt, rfl⟩
      obtain ⟨o, rfl⟩ := hnamed
      rw [(hiff o).1 hop]

def levels : Document :=
  [("levels", .array [.int 1, .int 2]), ("at", .object [("$date", .int 0)])]

def taken : Json := .object [("$date", .string "1970-01-01T01:00:00+01:00")]

theorem comparisons_cohere_levels :
    (LooselyEquals (levels.get? "levels") (.int 2) ∧
        levels.Meets ⟨"levels", by decide⟩ .eq (.int 2) ∧
        ¬ levels.Meets ⟨"levels", by decide⟩ .gte (.int 2)) ∧
      (LooselyEquals (levels.get? "mean") .null ∧ levels.Meets ⟨"mean", by decide⟩ .eq .null ∧
        ¬ levels.Meets ⟨"mean", by decide⟩ .lte .null) ∧
      ∃! op, op ∈ [FilterOperator.lt, .eq, .gt] ∧ levels.Meets ⟨"at", by decide⟩ op taken := by
  have hitem : LooselyEquals (levels.get? "levels") (.int 2) :=
    ⟨rfl, .int 2, List.mem_cons_of_mem _ List.mem_cons_self, by decide +kernel⟩
  have hmissing : LooselyEquals (levels.get? "mean") .null := rfl
  obtain ⟨-, hgte, -, hitems, -, -⟩ := comparisons_cohere levels ⟨"levels", by decide⟩ (.int 2)
  obtain ⟨-, -, hlte, hnull, -, -⟩ := comparisons_cohere levels ⟨"mean", by decide⟩ .null
  obtain ⟨-, -, -, -, -, hone⟩ := comparisons_cohere levels ⟨"at", by decide⟩ taken
  refine ⟨⟨hitem, (hitems hitem).1, fun h => (hgte.1 h).2 hitem⟩,
    ⟨hmissing, (hnull hmissing).1, fun h => (hlte.1 h).2 hmissing⟩, ?_⟩
  exact hone (.object [("$date", .int 0)]) rfl (by decide +kernel)

/-- What equals an item of a list is not at least that item, and what is missing is not at most
null. -/
theorem comparisons_come_apart :
    ¬ (levels.Meets ⟨"levels", by decide⟩ .gte (.int 2) ↔
        levels.Meets ⟨"levels", by decide⟩ .gt (.int 2) ∨
          levels.Meets ⟨"levels", by decide⟩ .eq (.int 2)) ∧
      ¬ (levels.Meets ⟨"mean", by decide⟩ .lte .null ↔
        levels.Meets ⟨"mean", by decide⟩ .lt .null ∨
          levels.Meets ⟨"mean", by decide⟩ .eq .null) := by
  decide +kernel

end Document

end EventRollup
