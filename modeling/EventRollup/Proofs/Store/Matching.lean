import EventRollup.Store.Run

namespace EventRollup

namespace Condition

instance (c : Condition) (field : Option Json) : Decidable (c.holds field = .ok true) :=
  match c.holds field with
  | .ok true => isTrue rfl
  | .ok false => isFalse nofun
  | .error _ => isFalse nofun

theorem allHold_eq_true_iff {field : Option Json} {cs : List Condition} :
    allHold field cs = .ok true ↔ ∀ c ∈ cs, c.holds field = .ok true := by
  induction cs with
  | nil => simp [allHold]
  | cons c r ih =>
      rw [List.forall_mem_cons, ← ih]
      cases h : c.holds field with
      | error e => simp [allHold, h, bind, Except.bind]
      | ok b => cases b <;> simp [allHold, h, bind, Except.bind]

/-- A condition that can be evaluated whatever it is asked of. -/
def Total (c : Condition) : Prop := ∀ field, ∃ b, c.holds field = .ok b

theorem allHold_total {cs : List Condition} (h : ∀ c ∈ cs, c.Total) (field : Option Json) :
    ∃ b, allHold field cs = .ok b := by
  induction cs with
  | nil => exact ⟨true, rfl⟩
  | cons c r ih =>
      obtain ⟨hc, hr⟩ := List.forall_mem_cons.1 h
      obtain ⟨b, hb⟩ := hc field
      cases b with
      | false => exact ⟨false, by simp [allHold, hb, bind, Except.bind]⟩
      | true =>
          obtain ⟨b, hb'⟩ := ih hr
          exact ⟨b, by simp [allHold, hb, hb', bind, Except.bind]⟩

theorem total_of_ne_regex {op : FilterOperator} (h : op ≠ .regex) (v : Json) :
    (compare op v).Total := by
  intro field
  cases op <;> first | exact ⟨_, rfl⟩ | exact absurd rfl h

theorem total_typeIs (type : ValueType) : (typeIs type).Total := by
  intro field
  cases type <;> exact ⟨_, rfl⟩

theorem total_regex {pattern : String} (h : Pattern.isValid pattern = true) :
    (compare .regex (.string pattern)).Total := by
  intro field
  obtain ⟨r, hr⟩ := Option.isSome_iff_exists.1 h
  simp only [holds, matchesPattern, hr]
  exact ⟨_, rfl⟩

end Condition

namespace Filter

def Passes (f : Filter) (d : Document) : Prop :=
  ∀ c ∈ f.conditions, c.2.holds (d.get? c.1.text) = .ok true

theorem predicatesHold_eq_true_iff {d : Document} {ps : List Predicate} :
    predicatesHold d ps = .ok true ↔
      ∀ p ∈ ps, ∀ c ∈ p.conditions, c.holds (d.get? p.field.text) = .ok true := by
  induction ps with
  | nil => simp [predicatesHold]
  | cons p r ih =>
      rw [List.forall_mem_cons, ← ih, ← Condition.allHold_eq_true_iff]
      cases h : Condition.allHold (d.get? p.field.text) p.conditions with
      | error e => simp [predicatesHold, h, bind, Except.bind]
      | ok b => cases b <;> simp [predicatesHold, h, bind, Except.bind]

theorem accepts_eq_true_iff {f : Filter} {d : Document} : f.accepts d = .ok true ↔ f.Passes d := by
  rw [accepts, predicatesHold_eq_true_iff, Passes]
  simp only [conditions, List.mem_flatMap, List.mem_map]
  constructor
  · rintro h _ ⟨p, hp, c, hc, rfl⟩
    exact h p hp c hc
  · intro h p hp c hc
    exact h (p.field, c) ⟨p, hp, c, hc, rfl⟩

instance (f : Filter) (d : Document) : Decidable (f.Passes d) := by
  unfold Passes
  infer_instance

def kept (f : Filter) (docs : List Document) : List Document :=
  docs.filter fun d => decide (f.Passes d)

theorem mem_kept {f : Filter} {docs : List Document} {d : Document} :
    d ∈ f.kept docs ↔ d ∈ docs ∧ f.Passes d := by
  rw [kept, List.mem_filter, decide_eq_true_eq]

def Total (f : Filter) : Prop := ∀ c ∈ f.conditions, c.2.Total

theorem predicatesHold_total {ps : List Predicate} (h : ∀ p ∈ ps, ∀ c ∈ p.conditions, c.Total)
    (d : Document) : ∃ b, predicatesHold d ps = .ok b := by
  induction ps with
  | nil => exact ⟨true, rfl⟩
  | cons p r ih =>
      obtain ⟨hp, hr⟩ := List.forall_mem_cons.1 h
      obtain ⟨b, hb⟩ := Condition.allHold_total hp (d.get? p.field.text)
      cases b with
      | false => exact ⟨false, by simp [predicatesHold, hb, bind, Except.bind]⟩
      | true =>
          obtain ⟨b, hb'⟩ := ih hr
          exact ⟨b, by simp [predicatesHold, hb, hb', bind, Except.bind]⟩

theorem accepts_total {f : Filter} (h : f.Total) (d : Document) :
    f.accepts d = .ok (decide (f.Passes d)) := by
  have hps : ∀ p ∈ f.predicates, ∀ c ∈ p.conditions, c.Total := by
    intro p hp c hc
    exact h (p.field, c) (List.mem_flatMap.2 ⟨p, hp, List.mem_map.2 ⟨c, hc, rfl⟩⟩)
  obtain ⟨b, hb⟩ := predicatesHold_total hps d
  have hb' : f.accepts d = .ok b := hb
  cases b with
  | true => rw [hb', decide_eq_true (accepts_eq_true_iff.1 hb')]
  | false =>
      have hnot : ¬ f.Passes d := fun hp => by
        rw [accepts_eq_true_iff.2 hp] at hb'
        cases hb'
      rw [hb', decide_eq_false hnot]

/-- A filter that can be evaluated on given documents keeps those that pass, in their order. -/
theorem run_answered {f : Filter} {docs : List Document}
    (h : ∀ d ∈ docs, ∃ b, f.accepts d = .ok b) : f.run docs = .ok (f.kept docs) := by
  induction docs with
  | nil => rfl
  | cons d r ih =>
      obtain ⟨⟨b, hb⟩, hr⟩ := List.forall_mem_cons.1 h
      have hpasses : b = decide (f.Passes d) := by
        rw [Bool.eq_iff_iff, decide_eq_true_iff, ← accepts_eq_true_iff, hb, Except.ok.injEq]
      simp only [run, hb, ih hr, bind, Except.bind, kept, List.filter_cons, hpasses]

theorem run_total {f : Filter} (h : f.Total) (docs : List Document) :
    f.run docs = .ok (f.kept docs) :=
  run_answered fun d _ => ⟨_, accepts_total h d⟩

end Filter

end EventRollup
