import EventRollup.Proofs.Query.FlatRows
import EventRollup.Proofs.Store.Totals
import Mathlib.Data.List.Nodup

namespace EventRollup

namespace Measure

def read (settings : Settings) (m : Measure) (d : Document) : Option Json :=
  if m.field = settings.countMeasure then some (.int 1) else d.get? m.field

def amount (settings : Settings) (m : Measure) (d : Document) : Int :=
  Json.amount (m.read settings d)

/-- The measure counts or sums, every number it reads is an integer of 64 bits, and their absolute
values have 64 bits together. Of a count this says that there are no more documents than memory can
hold. -/
structure Additive (settings : Settings) (m : Measure) (docs : List Document) : Prop where
  operator : m.field = settings.countMeasure ∨ m.effective = .sum
  integers : ∀ d ∈ docs, ∀ n, m.read settings d = some (.number n) → n.toInt64?.isSome = true
  fits : ((docs.map fun d => (m.amount settings d).natAbs).sum : Int) ≤ Text.greatestInt64

variable {settings : Settings} {m : Measure}

theorem additive_iff {docs : List Document} : m.Additive settings docs ↔
    (m.field = settings.countMeasure ∨ m.effective = .sum) ∧
      (∀ d ∈ docs, Json.addsInteger (m.read settings d) = true) ∧
      ((docs.map fun d => (m.amount settings d).natAbs).sum : Int) ≤ Text.greatestInt64 := by
  simp only [Json.addsInteger_iff]
  constructor
  · intro h
    exact ⟨h.operator, h.integers, h.fits⟩
  · rintro ⟨hoperator, hintegers, hfits⟩
    exact ⟨hoperator, hintegers, hfits⟩

instance (settings : Settings) (m : Measure) (docs : List Document) :
    Decidable (m.Additive settings docs) :=
  decidable_of_iff _ additive_iff.symm

theorem Additive.count {docs : List Document} (hcount : m.field = settings.countMeasure)
    (hfew : docs.length ≤ Text.greatestInt64) : m.Additive settings docs := by
  have hread (d : Document) : m.read settings d = some (.int 1) := if_pos hcount
  have hamount (d : Document) : m.amount settings d = 1 := by
    rw [amount, hread]
    rfl
  refine ⟨.inl hcount, fun d _ n hn => ?_, ?_⟩
  · rw [hread] at hn
    cases hn
    rfl
  · simpa [hamount] using hfew

theorem Additive.sublist {docs part : List Document} (h : m.Additive settings docs)
    (hpart : part.Sublist docs) : m.Additive settings part := by
  refine ⟨h.operator, fun d hd => h.integers d (hpart.subset hd), ?_⟩
  have hle : (part.map fun d => (m.amount settings d).natAbs).sum ≤
      (docs.map fun d => (m.amount settings d).natAbs).sum := by
    clear h
    induction hpart with
    | slnil => exact Nat.le_refl _
    | cons d _ ih =>
        rw [List.map_cons, List.sum_cons]
        omega
    | cons_cons d _ ih =>
        rw [List.map_cons, List.map_cons, List.sum_cons, List.sum_cons]
        omega
  have hfits := h.fits
  omega

end Measure

theorem sum_members {α β : Type} [DecidableEq β] {key : α → β} {l : List α} {classes : List β}
    (hnodup : classes.Nodup) (hcover : ∀ a ∈ l, key a ∈ classes) (f : α → Int) :
    (classes.map fun c => ((l.filter fun a => key a = c).map f).sum).sum = (l.map f).sum := by
  induction l with
  | nil => simp
  | cons a r ih =>
      obtain ⟨ha, hr⟩ := List.forall_mem_cons.1 hcover
      have hsplit (c : β) : (((a :: r).filter fun b => key b = c).map f).sum =
          (if c = key a then f a else 0) + ((r.filter fun b => key b = c).map f).sum := by
        by_cases h : key a = c
        · simp [h]
        · simp [h, Ne.symm h]
      -- of all classes only the one of this member counts it, and once
      have hown : (classes.map fun c => if c = key a then f a else 0).sum = f a := by
        rw [List.sum_map_ite_eq, List.count_eq_one_of_mem hnodup ha, one_nsmul, sub_zero,
          List.sum_map_zero, add_zero]
      simp only [hsplit]
      rw [List.sum_map_add, hown, ih hr, List.map_cons, List.sum_cons]

def Document.int? (row : Document) (name : String) : Option Int :=
  match row.get? name with
  | some (.number (.int n)) => some n
  | _ => none

def totalOf? (name : String) (rows : List Document) : Option Int :=
  (rows.mapM fun row => Document.int? row name).map List.sum

namespace QuerySpec

variable {settings : Settings} {spec : QuerySpec} {p : Plan.Parts} {m : Measure}

theorem measured_eq {docs : List Document} (h : m.Additive settings docs) :
    measured settings m docs = .int (docs.map (m.amount settings)).sum := by
  have hread : measured settings m docs =
      (docs.foldl (fun t d => t.feed (m.read settings d)) (Tally.integer 0)).result := by
    rw [measured]
    split
    · rename_i hcount
      have hone : m.read settings = fun _ => some (.int 1) := funext fun d => if_pos hcount
      rw [hone]
      rfl
    · rename_i hfield
      have hheld : m.read settings = fun d => d.get? m.field := funext fun d => if_neg hfield
      rw [hheld, h.operator.resolve_left hfield]
      rfl
  have hintegers : ∀ v ∈ docs.map (m.read settings), Json.addsInteger v = true :=
    List.forall_mem_map.2 (Measure.additive_iff.1 h).2.1
  have hfits : ((docs.map (m.read settings)).map fun v => (Json.amount v).natAbs).sum ≤
      Text.greatestInt64 := by
    rw [List.map_map]
    exact h.fits
  rw [hread, ← List.foldl_map, Tally.foldl_amount hintegers 0 (by omega), Int.zero_add,
    List.map_map]
  rfl

/-- The rows of an answer that are shown add up to what the documents do that are selected, if a row
is shown for selected documents and no others. -/
theorem totalOf?_rows (hp : p.Sound settings spec) (hlimit : spec.limit.getD 0 = 0)
    {docs : List Document} (hm : m ∈ spec.measures) (hadds : m.Additive settings docs)
    {shown selected : Document → Bool}
    (hshown : ∀ d ∈ docs,
      shown (spec.rowOf settings docs (spec.classOf settings d)) = selected d) :
    totalOf? m.field ((spec.rows settings docs).filter shown) =
      some ((docs.filter selected).map (m.amount settings)).sum := by
  let visible := (spec.orderedClasses settings docs).filter (shown ∘ spec.rowOf settings docs)
  have hrows : (spec.rows settings docs).filter shown =
      visible.map (spec.rowOf settings docs) := by
    rw [rows_unlimited hlimit, List.filter_map]
  -- a visible class has among the selected documents the members that it has among all
  have hmembers : ∀ c ∈ visible, spec.members settings docs c =
      (docs.filter selected).filter fun d => decide (spec.classOf settings d = c) := by
    intro c hc
    rw [members, List.filter_filter]
    refine List.filter_congr fun d hd => ?_
    by_cases hclass : spec.classOf settings d = c
    · have hselected : selected d = true := by
        rw [← hshown d hd, hclass]
        exact (List.mem_filter.1 hc).2
      rw [hselected, Bool.and_true]
    · rw [decide_eq_false hclass, Bool.false_and]
  have hcover : ∀ d ∈ docs.filter selected, spec.classOf settings d ∈ visible := by
    intro d hd
    obtain ⟨hmem, hselected⟩ := List.mem_filter.1 hd
    refine List.mem_filter.2 ⟨mem_orderedClasses.2 ⟨d, hmem, rfl⟩, ?_⟩
    rw [Function.comp_apply, hshown d hmem, hselected]
  have hvalue : ∀ c ∈ visible, (spec.rowOf settings docs c).int? m.field = some
      (((docs.filter selected).filter fun d => spec.classOf settings d = c).map
        (m.amount settings)).sum := by
    intro c hc
    obtain ⟨d, -, rfl⟩ := mem_orderedClasses.1 (List.mem_filter.1 hc).1
    rw [Document.int?, get?_rowOf_measure hp docs d hm, hmembers _ hc,
      measured_eq (hadds.sublist (List.filter_sublist.trans List.filter_sublist))]
    rfl
  have hcolumn : (visible.map (spec.rowOf settings docs)).mapM
      (fun row => Document.int? row m.field) = some (visible.map fun c =>
        (((docs.filter selected).filter fun d => spec.classOf settings d = c).map
          (m.amount settings)).sum) := by
    rw [List.mapM_map]
    exact mapM_eq_some hvalue
  rw [totalOf?, hrows, hcolumn, Option.map_some,
    sum_members ((nodup_orderedClasses docs).filter _) hcover]

end QuerySpec

end EventRollup
