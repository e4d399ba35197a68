import EventRollup.Proofs.Pipeline.Rendering
import Mathlib.Data.List.Forall2
import Mathlib.Data.List.Nodup

namespace EventRollup

namespace QuerySpec

def Ordered (spec : QuerySpec) : Prop :=
  spec.granularity.isBinned = true ∨ ∃ m ∈ spec.measures, m.sort ≠ none

instance (spec : QuerySpec) : Decidable spec.Ordered := by
  unfold Ordered
  infer_instance

end QuerySpec

/-- The accumulator of a measure. One that is called like the count measure adds a one for each
document, whatever operator it names. -/
structure Measure.AccumulatedBy (settings : Settings) (m : Measure) (a : Accumulator) : Prop where
  output : a.output.text = m.field
  counting : m.field = settings.countMeasure → a.op = .sum ∧ a.input = .constant 1
  reading : m.field ≠ settings.countMeasure → a.op = m.effective ∧ a.input = .field a.output

namespace Plan

/-- The stages of a compiled query and what is in them. -/
structure Shaped (settings : Settings) (spec : QuerySpec) (plan : Plan) (filter : Filter)
    (projection : Projection) (grouping : Grouping) (sort : SortOrder) : Prop where
  stages : plan.pipeline.stages =
    [.filter filter, .project projection, .group grouping] ++
      (if spec.Ordered then [.sort sort] else []) ++
      (spec.limit.filter (0 < ·)).toList.map .limit
  timestamp_text : plan.timestampField.text = spec.timestampName settings
  dimensions_text : plan.dimensions.map (·.text) = spec.dimensionNames
  key : grouping.key =
    (spec.granularity.dateParts.map fun part =>
      (part.key, .datePart part plan.timestampField (settings.encoding == .string))) ++
      plan.dimensions.map fun f => (f.text, .field f)
  key_nodup : (grouping.key.map Prod.fst).Nodup
  accumulators : List.Forall₂ (Measure.AccumulatedBy settings) spec.measures grouping.accumulators
  outputs_nodup : (grouping.accumulators.map (·.output)).Nodup
  outputs_beside : ∀ a ∈ grouping.accumulators, a.output ∉ plan.dimensions ∧
    (spec.granularity.isBinned = true → a.output ≠ plan.timestampField)
  count_unprojected : ∀ m ∈ spec.measures, m.field = settings.countMeasure →
    m.field ∉ projection.fields.map (·.text)
  projection_nodup : projection.fields.Nodup
  projection_reads : ∀ f, f ∈ projection.fields ↔ f ∈ grouping.reads
  projection_enough : ∀ docs : List Document, (∀ d ∈ docs, d.keys.Nodup) →
    grouping.run (docs.map projection.apply) = grouping.run docs
  sort_binned : spec.granularity.isBinned = true → sort.keys = [(.groupKey, .ascending)]
  sort_unbinned : spec.granularity.isBinned = false → sort.named = spec.sortedBy ∧
    ∀ k ∈ sort.keys, k.1 ≠ .groupKey ∧ k.1.text ≠ groupKey ∧
      ∃ a ∈ grouping.accumulators, k.1 = .field a.output

namespace Parts

variable {settings : Settings} {spec : QuerySpec} {p : Parts}

theorem accumulated (hp : p.Sound settings spec) :
    List.Forall₂ (Measure.AccumulatedBy settings) spec.measures
      (p.outputs.map Output.accumulator) := by
  have htold : List.Forall₂ Eq (spec.measures.map fun m =>
      (m.field, m.effective, m.field == settings.countMeasure)) (p.outputs.map Output.told) := by
    rw [List.forall₂_eq_eq_eq]
    exact hp.outputs_told.symm
  rw [List.forall₂_map_left_iff, List.forall₂_map_right_iff] at htold
  rw [List.forall₂_map_right_iff]
  refine htold.imp fun m o ho => ?_
  simp only [Output.told, Prod.mk.injEq] at ho
  obtain ⟨hfield, heffective, hcounts⟩ := ho
  refine ⟨?_, fun hcount => ?_, fun hother => ?_⟩
  · rw [o.output_accumulator, hfield]
  · rw [Output.accumulator, ← hcounts, if_pos (beq_iff_eq.2 hcount)]
    exact ⟨rfl, rfl⟩
  · rw [Output.accumulator, ← hcounts, if_neg (mt beq_iff_eq.1 hother)]
    exact ⟨heffective.symm, rfl⟩

theorem sorting_isEmpty_iff (hp : p.Sound settings spec) :
    (p.sorting spec).keys.isEmpty = true ↔ ¬ spec.Ordered := by
  rw [QuerySpec.Ordered]
  cases hg : spec.granularity.isBinned with
  | true => simp [sorting, sortOrder, hg]
  | false =>
      have hnamed : (p.sorting spec).keys = [] ↔ spec.sortedBy = [] := by
        rw [← QuerySpec.named_sorting hp hg, SortOrder.named, List.map_eq_nil_iff]
      rw [List.isEmpty_iff, hnamed, QuerySpec.sortedBy]
      simp

theorem stages_plan (hp : p.Sound settings spec) (e : DateEncoding) :
    (p.plan spec e).pipeline.stages =
      [.filter (p.filter e),
        .project (projection spec.granularity p.timestamp p.dimensions p.outputs),
        .group (grouping spec.granularity p.timestamp e p.dimensions p.outputs)] ++
      (if spec.Ordered then [.sort (p.sorting spec)] else []) ++
      (spec.limit.filter (0 < ·)).toList.map .limit := by
  have hsort : (if (p.sorting spec).keys.isEmpty then [] else [.sort (p.sorting spec)] :
      List Stage) = if spec.Ordered then [.sort (p.sorting spec)] else [] := by
    by_cases hordered : spec.Ordered
    · rw [if_pos hordered, if_neg fun hempty => (sorting_isEmpty_iff hp).1 hempty hordered]
    · rw [if_neg hordered, if_pos ((sorting_isEmpty_iff hp).2 hordered)]
  have hlimit : limitStage spec.limit = (spec.limit.filter (0 < ·)).toList.map .limit := by
    cases spec.limit with
    | none => rfl
    | some n => by_cases hn : 0 < n <;> simp [limitStage, Option.filter, hn]
  rw [plan, hsort, hlimit]

theorem count_not_mem_projection (hp : p.Sound settings spec) {o : Output} (ho : o ∈ p.outputs)
    (hcounts : o.counts = true) :
    o.field ∉ (projection spec.granularity p.timestamp p.dimensions p.outputs).fields := by
  obtain ⟨hdims, htimestamp⟩ := hp.outputs_beside o ho
  rw [mem_projection]
  rintro (⟨hg, hfield⟩ | hdim | ⟨o', ho', hreads, hfield⟩)
  · exact htimestamp hg hfield
  · exact hdims hdim
  · obtain rfl := List.inj_on_of_nodup_map hp.outputs_nodup ho' ho hfield
    rw [hcounts] at hreads
    cases hreads

theorem unprojected (hp : p.Sound settings spec) {m : Measure} (hm : m ∈ spec.measures)
    (hcount : m.field = settings.countMeasure) :
    m.field ∉ (projection spec.granularity p.timestamp p.dimensions p.outputs).fields.map
      (·.text) := by
  have htold : (m.field, m.effective, true) ∈ p.outputs.map Output.told := by
    rw [hp.outputs_told, List.mem_map]
    exact ⟨m, hm, by rw [beq_iff_eq.2 hcount]⟩
  obtain ⟨o, ho, htold⟩ := List.mem_map.1 htold
  simp only [Output.told, Prod.mk.injEq] at htold
  obtain ⟨hfield, -, hcounts⟩ := htold
  rw [← hfield, FieldName.mem_texts]
  exact count_not_mem_projection hp ho hcounts

theorem sorting_output (hg : spec.granularity.isBinned = false) {k : SortKey × SortDirection}
    (hk : k ∈ (p.sorting spec).keys) :
    ∃ a ∈ p.outputs.map Output.accumulator, k.1 = .field a.output := by
  rw [sorting, sortOrder, hg, if_neg (by decide)] at hk
  obtain ⟨⟨m, o⟩, hzip, hk⟩ := List.mem_filterMap.1 hk
  obtain ⟨direction, -, rfl⟩ := Option.map_eq_some_iff.1 hk
  refine ⟨o.accumulator, List.mem_map_of_mem (List.of_mem_zip hzip).2, ?_⟩
  rw [o.output_accumulator]

theorem shaped (hp : p.Sound settings spec) :
    (p.plan spec settings.encoding).Shaped settings spec (p.filter settings.encoding)
      (projection spec.granularity p.timestamp p.dimensions p.outputs)
      (grouping spec.granularity p.timestamp settings.encoding p.dimensions p.outputs)
      (p.sorting spec) := by
  have hdistinct := distinct_grouping hp settings.encoding
  exact {
    stages := stages_plan hp settings.encoding
    timestamp_text := hp.timestamp_text
    dimensions_text := hp.dimensions_text
    key := rfl
    key_nodup := hdistinct.1
    accumulators := accumulated hp
    outputs_nodup := hdistinct.2
    outputs_beside := by
      intro a ha
      obtain ⟨o, ho, rfl⟩ := List.mem_map.1 ha
      rw [o.output_accumulator]
      exact hp.outputs_beside o ho
    count_unprojected := fun m hm hcount => unprojected hp hm hcount
    projection_nodup := Projection.nodup_foldl_keep List.nodup_nil _
    projection_reads := fun _ => mem_projection_iff
    projection_enough := fun _ hdocs => grouping_projected _ _ _ _ _ hdocs
    sort_binned := by
      intro hg
      rw [sorting, sortOrder, hg, if_pos rfl]
    sort_unbinned := by
      intro hg
      refine ⟨QuerySpec.named_sorting hp hg, fun k hk => ?_⟩
      obtain ⟨a, ha, hfield⟩ := sorting_output hg hk
      rw [hfield]
      exact ⟨fun he => (by cases he), a.output.text_ne_groupKey, a, ha, rfl⟩ }

end Parts

/-- Every query that compiles compiles to stages of this shape. -/
theorem compile_shaped {settings : Settings} {presets : List Preset} {spec : QuerySpec}
    {now : Instant} {plan : Plan} (h : compile settings presets spec now = .ok plan) :
    ∃ filter projection grouping sort,
      plan.Shaped settings spec filter projection grouping sort := by
  obtain ⟨p, hp, rfl⟩ := parts_of_compile h
  exact ⟨_, _, _, _, Parts.shaped (parts_sound hp)⟩

def countedYears : QuerySpec where
  ns := "events"
  range := none
  dimensions := [⟨"kind", some .ne, some .null⟩, ⟨"year", none, none⟩,
    ⟨"kind", some .ne, some (.string "test")⟩]
  measures := [⟨"load", some .max, none⟩, ⟨"count", some .last, some .descending⟩,
    ⟨"cost", none, some .ascending⟩]
  granularity := .all
  limit := some 3
  timestampField := some "count"
  debug := false

theorem compile_shaped_countedYears :
    ∃ plan, compile .standard [] countedYears .epoch = .ok plan ∧
      plan.pipeline.stages.map Stage.name = ["$match", "$project", "$group", "$sort", "$limit"] ∧
      (plan.pipeline.projection?.map fun q => q.fields.map (·.text)) =
        some ["kind", "year", "load", "cost"] ∧
      ∃ filter projection grouping sort,
        plan.Shaped .standard countedYears filter projection grouping sort := by
  have hcompiled : (compile .standard [] countedYears .epoch).toOption.map (fun plan =>
      (plan.pipeline.stages.map Stage.name,
        plan.pipeline.projection?.map fun q => q.fields.map (·.text))) =
      some (["$match", "$project", "$group", "$sort", "$limit"],
        some ["kind", "year", "load", "cost"]) := by
    decide +kernel
  obtain ⟨plan, hplan, htold⟩ := eq_ok_of_toOption hcompiled
  obtain ⟨hstages, hprojected⟩ := Prod.mk.inj htold
  exact ⟨plan, hplan, hstages, hprojected, compile_shaped hplan⟩

end Plan

end EventRollup
