import EventRollup.Proofs.Pipeline.GroupingReads
import EventRollup.Proofs.Query.Measured
import EventRollup.Proofs.Query.Rows

namespace EventRollup

namespace Plan

theorem mem_conditions_pushAll {cs : List (FieldName × Condition)} {f : Filter}
    {c : FieldName × Condition} :
    c ∈ (pushAll cs f).conditions ↔ c ∈ cs ∨ c ∈ f.conditions := by
  rw [(conditions_pushAll cs f).mem_iff, List.mem_append]

namespace Parts

variable {settings : Settings} {spec : QuerySpec} {p : Parts}

theorem passes_filter_iff {e : DateEncoding} {d : Document} : (p.filter e).Passes d ↔
    (Filter.timeWindow p.timestamp p.window e).Passes d ∧
      ∀ c ∈ p.conditions, c.2.holds (d.get? c.1.text) = .ok true := by
  simp only [Filter.Passes, filter, mem_conditions_pushAll]
  constructor
  · intro h
    exact ⟨fun c hc => h c (.inr hc), fun c hc => h c (.inl hc)⟩
  · rintro ⟨hwindow, hconditions⟩ c (hc | hc)
    · exact hconditions c hc
    · exact hwindow c hc

theorem filter_total (hp : p.Sound settings spec) (e : DateEncoding) : (p.filter e).Total := by
  intro c hc
  rcases mem_conditions_pushAll.1 hc with h | h
  · exact hp.conditions_total c h
  · exact Filter.timeWindow_total p.timestamp p.window e c h

theorem typeIs_of_passes {e : DateEncoding} {d : Document} (h : (p.filter e).Passes d) :
    (Condition.typeIs (.ofEncoding e)).holds (d.get? p.timestamp.text) = .ok true := by
  refine (passes_filter_iff.1 h).1 (p.timestamp, .typeIs (.ofEncoding e)) ?_
  cases p.window with
  | none => simp [Filter.timeWindow_none, Filter.conditions]
  | some w => simp [Filter.timeWindow_some, Filter.conditions]

theorem timeOf_of_passes (hp : p.Sound settings spec) (he : settings.encoding = .extended)
    {d : Document} (h : (p.filter settings.encoding).Passes d) :
    ∃ t, spec.timeOf settings d = some t := by
  have hdate := typeIs_of_passes h
  rw [he, ValueType.ofEncoding, Condition.holds, Except.ok.injEq, Option.isSome_iff_exists] at hdate
  obtain ⟨t, ht⟩ := hdate
  refine ⟨t, ?_⟩
  rw [QuerySpec.timeOf, QuerySpec.timestampName, ← hp.timestamp_text, he]
  exact ht

/-- A plan groups the documents that pass; sorting and cutting come after. -/
theorem run_plan_kept (hp : p.Sound settings spec) {docs : List Document}
    (hdocs : ∀ d ∈ docs, d.keys.Nodup) :
    (p.plan spec settings.encoding).pipeline.run docs =
      ((grouping spec.granularity p.timestamp settings.encoding p.dimensions p.outputs).run
        ((p.filter settings.encoding).kept docs)).bind fun rows =>
          runStages ((if (p.sorting spec).keys.isEmpty then [] else [.sort (p.sorting spec)]) ++
            limitStage spec.limit) rows := by
  have hkept : ∀ d ∈ (p.filter settings.encoding).kept docs, d.keys.Nodup := fun d hd =>
    hdocs d (Filter.mem_kept.1 hd).1
  rw [Pipeline.run, plan]
  dsimp only
  rw [List.append_assoc, QuerySpec.runStages_append]
  simp only [runStages, Stage.run, Filter.run_total (filter_total hp settings.encoding),
    grouping_projected _ _ _ _ _ hkept, bind, Except.bind]
  cases (grouping spec.granularity p.timestamp settings.encoding p.dimensions p.outputs).run
    ((p.filter settings.encoding).kept docs) <;> rfl

theorem run_plan_grouped (hp : p.Sound settings spec) {docs kept : List Document}
    (hkept : kept = (p.filter settings.encoding).kept docs) (hdocs : ∀ d ∈ docs, d.keys.Nodup)
    (hread : ∀ d ∈ kept, spec.Readable settings d) :
    (p.plan spec settings.encoding).pipeline.run docs = .ok (limited (spec.limit.filter (0 < ·))
      ((spec.orderedClasses settings kept).map (spec.groupedRow settings kept))) := by
  rw [run_plan_kept hp hdocs, ← hkept, QuerySpec.grouping_run hp hread]
  dsimp only [Except.bind]
  rw [QuerySpec.runStages_append, QuerySpec.runStages_sort, QuerySpec.sortBy_groupedRows hp hread]
  exact QuerySpec.runStages_limit spec.limit _

theorem run_plan (hp : p.Sound settings spec) {docs : List Document}
    (hdocs : ∀ d ∈ docs, d.keys.Nodup)
    (hread : ∀ d ∈ docs, (p.filter settings.encoding).Passes d → spec.Readable settings d) :
    ((p.plan spec settings.encoding).pipeline.run docs).map
        (p.plan spec settings.encoding).reshape =
      .ok (spec.rows settings ((p.filter settings.encoding).kept docs)) := by
  obtain ⟨kept, hkept⟩ : ∃ kept, kept = (p.filter settings.encoding).kept docs := ⟨_, rfl⟩
  have hreadable : ∀ d ∈ kept, spec.Readable settings d := by
    intro d hd
    rw [hkept] at hd
    obtain ⟨hmem, hpasses⟩ := Filter.mem_kept.1 hd
    exact hread d hmem hpasses
  have hrow : ∀ c ∈ spec.orderedClasses settings kept,
      Record.ofRow spec.granularity p.dimensions p.timestamp settings.encoding
        (spec.groupedRow settings kept c) = spec.rowOf settings kept c := by
    intro c hc
    obtain ⟨d, hd, rfl⟩ := List.mem_map.1 (List.mem_eraseDups.1 (List.mem_mergeSort.1 hc))
    exact QuerySpec.ofRow_groupedRow hp kept (hreadable d hd)
  rw [run_plan_grouped hp hkept hdocs hreadable, ← hkept, QuerySpec.rows, Except.map, reshape,
    QuerySpec.limited_map, QuerySpec.limited_map, List.map_map]
  congr 1
  apply List.map_congr_left
  intro c hc
  exact hrow c (List.mem_of_mem_take hc)

end Parts

/-- What a query that compiles comes to. Its pipeline keeps the documents that meet every condition
of its filter, and running it and flattening what comes back gives the rows that the query means of
them. In a store of texts the times of what passes have to be readable, if they are to be binned; in
a store of dates they are. The rows are told apart by bucket and dimensions, and a measure describes
the documents of a row and no others. -/
theorem run_compile {settings : Settings} {presets : List Preset} {spec : QuerySpec}
    {now : Instant} {plan : Plan} (h : compile settings presets spec now = .ok plan) :
    ∃ f, plan.pipeline.filter? = some f ∧ ∀ docs : List Document,
      (∀ d ∈ docs, d.keys.Nodup) →
      (settings.datesAsStrings = true → ∀ d ∈ docs, f.Passes d → spec.Readable settings d) →
      (plan.pipeline.run docs).map plan.reshape =
          .ok (spec.rows settings (docs.filter fun d => decide (f.Passes d))) ∧
        (∀ d e, spec.classOf settings d = spec.classOf settings e ↔
          (spec.granularity.isBinned = true →
            (spec.timeOf settings d).map spec.granularity.truncate =
              (spec.timeOf settings e).map spec.granularity.truncate) ∧
          ∀ x ∈ spec.dimensions, d.get? x.field = e.get? x.field) ∧
        ∀ m ∈ spec.measures, ∀ members, m.Describes settings members
          (QuerySpec.measured settings m members) := by
  rw [compile_eq_parts] at h
  obtain ⟨p, hparts, hplan⟩ : ∃ p, parts settings presets spec now = .ok p ∧
      p.plan spec settings.encoding = plan := by
    cases hparts : parts settings presets spec now with
    | error e =>
        rw [hparts] at h
        cases h
    | ok p =>
        rw [hparts] at h
        exact ⟨p, rfl, Except.ok.inj h⟩
  have hsound := parts_sound hparts
  subst hplan
  refine ⟨p.filter settings.encoding, rfl, fun docs hdocs hread => ⟨?_, ?_, ?_⟩⟩
  · refine Parts.run_plan hsound hdocs fun d hd hpasses => ?_
    cases hmode : settings.datesAsStrings with
    | true => exact hread hmode d hd hpasses
    | false =>
        have hencoding : settings.encoding = .extended := by
          rw [Settings.encoding, hmode]
          rfl
        exact fun _ => Parts.timeOf_of_passes hsound hencoding hpasses
  · exact spec.classOf_eq_iff settings
  · exact fun m _ members => QuerySpec.measured_describes settings m members

def hourlyLoads : QuerySpec where
  ns := "events"
  range := none
  dimensions := [⟨"region", none, none⟩]
  measures := [⟨"count", none, none⟩, ⟨"load", some .max, none⟩]
  granularity := .hour
  limit := none
  timestampField := none
  debug := false

def readings : List Document :=
  [[("ts", .string "2024-03-01T10:59:00Z"), ("region", .string "eu"), ("load", .int 1)],
    [("ts", .string "2024-03-01T10:01:00.250Z"), ("region", .string "eu"), ("load", .int 5)],
    [("ts", .string "2024-03-01T09:30:00+00:00")],
    [("region", .string "us"), ("load", .int 7)]]

theorem run_compile_hourlyLoads :
    ∃ plan, compile ⟨[], "ts", "count", true⟩ [] hourlyLoads .epoch = .ok plan ∧
      (plan.pipeline.run readings).map plan.reshape = .ok
        [[("load", .null), ("count", .int 1), ("ts", .string "2024-03-01T09:00:00.000Z"),
            ("region", .null)],
          [("load", .int 5), ("count", .int 2), ("ts", .string "2024-03-01T10:00:00.000Z"),
            ("region", .string "eu")]] := by
  let settings : Settings := ⟨[], "ts", "count", true⟩
  have hcompiled : (compile settings [] hourlyLoads .epoch).toOption.bind
      (fun plan => plan.pipeline.filter?) =
      some (Filter.timeWindow ⟨"ts", by decide⟩ none .string) := by decide +kernel
  cases hplan : compile settings [] hourlyLoads .epoch with
  | error e =>
      rw [hplan] at hcompiled
      cases hcompiled
  | ok plan =>
      rw [hplan] at hcompiled
      obtain ⟨f, hf, hrun⟩ := run_compile hplan
      have hfilter : f = Filter.timeWindow ⟨"ts", by decide⟩ none .string :=
        Option.some.inj (hf.symm.trans hcompiled)
      subst hfilter
      have hread : ∀ d ∈ readings, (Filter.timeWindow ⟨"ts", by decide⟩ none .string).Passes d →
          (hourlyLoads.timeOf settings d).isSome = true := by decide +kernel
      have hrows := (hrun readings (by decide) fun _ d hd hpasses _ =>
        Option.isSome_iff_exists.1 (hread d hd hpasses)).1
      refine ⟨plan, rfl, hrows.trans ?_⟩
      have hclasses : hourlyLoads.classes settings (readings.take 3) =
          [hourlyLoads.classOf settings readings[0], hourlyLoads.classOf settings readings[2]] := by
        decide +kernel
      have hkept : (readings.filter fun d =>
          decide ((Filter.timeWindow ⟨"ts", by decide⟩ none .string).Passes d)) =
          readings.take 3 := by decide +kernel
      have hsorted (le : DocumentClass → DocumentClass → Bool) (a b : DocumentClass) :
          [a, b].mergeSort le = if le a b then [a, b] else [b, a] := by
        simp [List.mergeSort, List.merge]
      rw [hkept, QuerySpec.rows, QuerySpec.orderedClasses, hclasses, hsorted]
      refine congrArg Except.ok ?_
      decide +kernel

end Plan

end EventRollup
