import EventRollup.Proofs.Pipeline.Shape

namespace EventRollup

theorem Filter.subset_of_run {f : Filter} {docs kept : List Document} (h : f.run docs = .ok kept) :
    kept ⊆ docs := by
  induction docs generalizing kept with
  | nil =>
      cases h
      exact List.Subset.refl _
  | cons d r ih =>
      obtain ⟨passes, -, h⟩ := bind_eq_ok h
      obtain ⟨rest, hrest, h⟩ := bind_eq_ok h
      cases h
      cases passes with
      | false => exact List.Subset.trans (ih hrest) (List.subset_cons_self d r)
      | true => exact List.cons_subset_cons d (ih hrest)

theorem Projection.nodup_takeFrom {fields : List FieldName} {taken : Document}
    (h : taken.keys.Nodup) (left : Document) : (takeFrom fields left taken).keys.Nodup := by
  induction fields generalizing left taken with
  | nil => exact h
  | cons f r ih =>
      rw [takeFrom]
      cases left.get? f.text with
      | none => exact ih h left
      | some v => exact ih (Document.nodup_insert h f.text v) (left.erase f.text)

namespace Stage

def isProjection : Stage → Bool
  | .project _ => true
  | _ => false

theorem nodup_run {s : Stage} {docs rows : List Document} (h : s.run docs = .ok rows)
    (hdocs : ∀ d ∈ docs, d.keys.Nodup) : ∀ row ∈ rows, row.keys.Nodup := by
  intro row hrow
  cases s with
  | filter f => exact hdocs row (Filter.subset_of_run h hrow)
  | project p =>
      cases h
      obtain ⟨d, -, rfl⟩ := List.mem_map.1 hrow
      exact Projection.nodup_takeFrom (by exact List.nodup_nil) d
  | group g =>
      obtain ⟨buckets, -, h⟩ := bind_eq_ok h
      cases h
      obtain ⟨b, -, rfl⟩ := List.mem_map.1 hrow
      exact Document.nodup_ofEntries _
  | sort o =>
      cases h
      exact hdocs row (List.mem_mergeSort.1 hrow)
  | limit n =>
      cases h
      exact hdocs row (List.mem_of_mem_take hrow)

/-- Stages in which each projection stands right before a grouping that reads nothing else than what
it keeps. -/
inductive Supplied : List Stage → Prop
  | nil : Supplied []
  | projected {p : Projection} {g : Grouping} {rest : List Stage}
      (hreads : ∀ f ∈ g.reads, f ∈ p.fields) (hrest : Supplied rest) :
      Supplied (.project p :: .group g :: rest)
  | other {s : Stage} {rest : List Stage} (hs : s.isProjection = false) (hrest : Supplied rest) :
      Supplied (s :: rest)

theorem Supplied.of_none {stages : List Stage} (h : ∀ s ∈ stages, s.isProjection = false) :
    Supplied stages := by
  induction stages with
  | nil => exact .nil
  | cons s r ih =>
      obtain ⟨hs, hr⟩ := List.forall_mem_cons.1 h
      exact .other hs (ih hr)

end Stage

namespace Pipeline

def unprojected (p : Pipeline) : Pipeline := ⟨p.stages.filter fun s => !s.isProjection⟩

theorem run_unprojected {p : Pipeline} (h : Stage.Supplied p.stages) {docs : List Document}
    (hdocs : ∀ d ∈ docs, d.keys.Nodup) : p.unprojected.run docs = p.run docs := by
  rw [run, run, unprojected]
  generalize p.stages = stages at h
  -- from stage to stage the names in a document stay distinct, as a projection needs them
  induction h generalizing docs with
  | nil => rfl
  | @projected p g rest hreads _ ih =>
      have hgroup : (Stage.project p :: .group g :: rest).filter (fun s => !s.isProjection) =
          .group g :: rest.filter fun s => !s.isProjection := rfl
      have hprojected : runStages (.project p :: .group g :: rest) docs =
          runStages (.group g :: rest) docs :=
        congrArg (· >>= runStages rest) (Grouping.run_projected hreads hdocs)
      rw [hgroup, hprojected, runStages, runStages]
      cases hrun : Stage.run (.group g) docs with
      | error fault => rfl
      | ok rows => exact ih (Stage.nodup_run hrun hdocs)
  | @other s rest hs _ ih =>
      rw [List.filter_cons, hs, if_pos (by decide), runStages, runStages]
      cases hrun : s.run docs with
      | error fault => rfl
      | ok rows => exact ih (Stage.nodup_run hrun hdocs)

end Pipeline

namespace Plan

variable {settings : Settings} {presets : List Preset} {spec : QuerySpec} {now : Instant}
  {plan : Plan}

theorem stages_of_compile (h : compile settings presets spec now = .ok plan) :
    ∃ filter projection grouping rest,
      plan.pipeline.stages = .filter filter :: .project projection :: .group grouping :: rest ∧
      (∀ f ∈ grouping.reads, f ∈ projection.fields) ∧ ∀ s ∈ rest, s.isProjection = false := by
  obtain ⟨p, hp, rfl⟩ := parts_of_compile h
  refine ⟨_, _, _, _, Parts.stages_plan (parts_sound hp) settings.encoding, ?_, ?_⟩
  · intro f hf
    exact mem_projection_iff.2 hf
  · intro s hs
    rcases List.mem_append.1 hs with hsort | hlimit
    · change s ∈ (if spec.Ordered then [Stage.sort (p.sorting spec)] else []) at hsort
      split at hsort
      · rw [List.mem_singleton.1 hsort]
        rfl
      · cases hsort
    · obtain ⟨n, -, rfl⟩ := List.mem_map.1 hlimit
      rfl

/-- The one projection of a compiled query changes nothing: without it documents come to the same rows
in the same order, or to the same fault. -/
theorem run_without_projection (h : compile settings presets spec now = .ok plan)
    {docs : List Document} (hdocs : ∀ d ∈ docs, d.keys.Nodup) :
    plan.pipeline.stages.countP Stage.isProjection = 1 ∧
      plan.pipeline.unprojected.run docs = plan.pipeline.run docs := by
  obtain ⟨filter, projection, grouping, rest, hstages, hreads, hrest⟩ := stages_of_compile h
  constructor
  · have hnone : rest.countP Stage.isProjection = 0 := by
      rw [List.countP_eq_zero]
      intro s hs
      rw [hrest s hs]
      decide
    rw [hstages]
    simp [List.countP_cons, Stage.isProjection, hnone]
  · apply Pipeline.run_unprojected _ hdocs
    rw [hstages]
    exact .other rfl (.projected hreads (.of_none hrest))

def visits : List Document :=
  let time : Json := .object [("$date", .string "2024-03-01T00:00:00.000Z")]
  [[("_id", .int 1), ("kind", .string "web"), ("load", .int 2), ("count", time)],
    [("kind", .string "web"), ("count", time), ("agent", .null), ("cost", .int 3),
      ("load", .int 5)],
    [("kind", .string "test"), ("count", time), ("cost", .int 9)]]

def visitRows : List Document :=
  [[("_id", .object [("kind", .string "web")]), ("load", .int 5), ("count", .int 2),
    ("cost", .int 3)]]

theorem run_without_projection_visits :
    ∃ plan, compile .standard [] countedYears .epoch = .ok plan ∧
      (∀ d ∈ visits, d.keys.Nodup) ∧
      plan.pipeline.stages.countP Stage.isProjection = 1 ∧
      plan.pipeline.unprojected.stages.map Stage.name = ["$match", "$group", "$sort", "$limit"] ∧
      plan.pipeline.run visits = .ok visitRows ∧
      plan.pipeline.unprojected.run visits = .ok visitRows := by
  have hcompiled : (compile .standard [] countedYears .epoch).toOption.map (fun plan =>
      (plan.pipeline.unprojected.stages.map Stage.name, (plan.pipeline.run visits).toOption)) =
      some (["$match", "$group", "$sort", "$limit"], some visitRows) := by decide +kernel
  obtain ⟨plan, hplan, hpair⟩ := eq_ok_of_toOption hcompiled
  obtain ⟨hstages, hrows⟩ := Prod.mk.inj hpair
  have hnodup : ∀ d ∈ visits, d.keys.Nodup := by decide
  obtain ⟨hone, hsame⟩ := run_without_projection hplan hnodup
  exact ⟨plan, hplan, hnodup, hone, hstages, ok_of_toOption hrows,
    hsame.trans (ok_of_toOption hrows)⟩

end Plan

end EventRollup
