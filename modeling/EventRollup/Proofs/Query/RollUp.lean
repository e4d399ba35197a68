import EventRollup.Proofs.Query.Amounts
import EventRollup.Proofs.Time.Floor

namespace EventRollup

namespace Plan

theorem filter_granularity {settings : Settings} {presets : List Preset} {spec : QuerySpec}
    {now : Instant} {g h : Granularity} {p q : Parts}
    (hp : parts settings presets { spec with granularity := g } now = .ok p)
    (hq : parts settings presets { spec with granularity := h } now = .ok q) (e : DateEncoding) :
    p.filter e = q.filter e := by
  unfold parts at hp hq
  obtain ⟨timestamp, hts, hp⟩ := bind_eq_ok hp
  obtain ⟨names, hnames, hp⟩ := bind_eq_ok hp
  obtain ⟨dims, -, hp⟩ := bind_eq_ok hp
  obtain ⟨outs, -, hp⟩ := bind_eq_ok hp
  obtain ⟨window, hwindow, hp⟩ := bind_eq_ok hp
  obtain ⟨conditions, hconditions, hp⟩ := bind_eq_ok hp
  obtain ⟨timestamp', hts', hq⟩ := bind_eq_ok hq
  obtain ⟨names', hnames', hq⟩ := bind_eq_ok hq
  obtain ⟨dims', -, hq⟩ := bind_eq_ok hq
  obtain ⟨outs', -, hq⟩ := bind_eq_ok hq
  obtain ⟨window', hwindow', hq⟩ := bind_eq_ok hq
  obtain ⟨conditions', hconditions', hq⟩ := bind_eq_ok hq
  obtain rfl : timestamp = timestamp' := Except.ok.inj (hts.symm.trans hts')
  obtain rfl : names = names' := Except.ok.inj (hnames.symm.trans hnames')
  obtain rfl : window = window' := Except.ok.inj (hwindow.symm.trans hwindow')
  obtain rfl : conditions = conditions' := Except.ok.inj (hconditions.symm.trans hconditions')
  rw [← Except.ok.inj hp, ← Except.ok.inj hq]
  rfl

end Plan

namespace QuerySpec

variable {settings : Settings} {spec : QuerySpec} {p : Plan.Parts}

/-- A flat row with these values in its dimensions. -/
def Shows (spec : QuerySpec) (values : String → Json) (row : Document) : Prop :=
  ∀ x ∈ spec.dimensions, row.get? x.field = some (values x.field)

instance (spec : QuerySpec) (values : String → Json) (row : Document) :
    Decidable (spec.Shows values row) := by
  unfold Shows
  infer_instance

/-- A document in a bucket of that width, which holds these values in the dimensions or is without
those that are null. -/
def Holds (settings : Settings) (spec : QuerySpec) (g : Granularity) (bucket : Instant)
    (values : String → Json) (d : Document) : Prop :=
  (g.isBinned = true → (spec.timeOf settings d).map g.truncate = some bucket) ∧
    ∀ x ∈ spec.dimensions, (d.get? x.field).getD .null = values x.field

instance (settings : Settings) (spec : QuerySpec) (g : Granularity) (bucket : Instant)
    (values : String → Json) (d : Document) :
    Decidable (spec.Holds settings g bucket values d) := by
  unfold Holds
  infer_instance

theorem shows_rowOf (hp : p.Sound settings spec) (docs : List Document) (d : Document)
    (values : String → Json) :
    spec.Shows values (spec.rowOf settings docs (spec.classOf settings d)) ↔
      ∀ x ∈ spec.dimensions, (d.get? x.field).getD .null = values x.field := by
  refine forall₂_congr fun x hx => ?_
  rw [get?_rowOf_dimension hp docs d hx, Option.some.injEq]

theorem totalOf?_placed (hp : p.Sound settings spec) (hlimit : spec.limit.getD 0 = 0)
    {docs : List Document} {m : Measure} (hm : m ∈ spec.measures) (hadds : m.Additive settings docs)
    {g : Granularity} {bucket : Instant} {placed : Document → Prop} [DecidablePred placed]
    (hplaced : g.isBinned = true → ∀ d ∈ docs,
      (placed (spec.rowOf settings docs (spec.classOf settings d)) ↔
        (spec.timeOf settings d).map g.truncate = some bucket))
    (values : String → Json) :
    totalOf? m.field ((spec.rows settings docs).filter fun row =>
        decide ((g.isBinned = true → placed row) ∧ spec.Shows values row)) =
      some ((docs.filter fun d => decide (spec.Holds settings g bucket values d)).map
        (m.amount settings)).sum := by
  refine totalOf?_rows hp hlimit hm hadds fun d hd => decide_eq_decide.2 ?_
  rw [shows_rowOf hp docs d values, Holds]
  exact and_congr_left' (forall_congr' fun hg => hplaced hg d hd)

end QuerySpec

namespace Plan

/-- One query at two widths, over dates and without a limit. Both answers are about the documents
that pass one filter. A measure that adds up over these has, in any coarser bucket and for any values
of the dimensions, one total: what the rows of the coarser answer come to that show this bucket and
these values, what the rows of the finer answer come to that show these values and a bucket within
it, and what the documents themselves add up to. Where the coarser width bins nothing, every row is in
its only bucket. -/
theorem rows_roll_up {settings : Settings} {presets : List Preset} {spec : QuerySpec}
    {now : Instant} {g h : Granularity} {fine coarse : Plan}
    (hdates : settings.datesAsStrings = false) (hlimit : spec.limit.getD 0 = 0)
    (hfiner : g.Finer h)
    (hfine : compile settings presets { spec with granularity := g } now = .ok fine)
    (hcoarse : compile settings presets { spec with granularity := h } now = .ok coarse) :
    ∃ filter, fine.pipeline.filter? = some filter ∧ coarse.pipeline.filter? = some filter ∧
      ∀ docs : List Document, (∀ d ∈ docs, d.keys.Nodup) → ∃ fineRows coarseRows,
        (fine.pipeline.run docs).map fine.reshape = .ok fineRows ∧
        (coarse.pipeline.run docs).map coarse.reshape = .ok coarseRows ∧
        ∀ m ∈ spec.measures, m.Additive settings (filter.kept docs) → ∀ (bucket : Instant)
          (values : String → Json),
          let total := (((filter.kept docs).filter fun d =>
            decide (spec.Holds settings h bucket values d)).map (m.amount settings)).sum
          totalOf? m.field (coarseRows.filter fun row =>
              decide ((h.isBinned = true → spec.bucketOf? settings row = some bucket) ∧
                spec.Shows values row)) = some total ∧
            totalOf? m.field (fineRows.filter fun row =>
              decide ((h.isBinned = true →
                  (spec.bucketOf? settings row).map h.truncate = some bucket) ∧
                spec.Shows values row)) = some total := by
  obtain ⟨p, hp, rfl⟩ := parts_of_compile hfine
  obtain ⟨q, hq, rfl⟩ := parts_of_compile hcoarse
  have hsame := filter_granularity hp hq settings.encoding
  have hencoding : settings.encoding = .extended := by
    rw [Settings.encoding, hdates]
    rfl
  have hsp := parts_sound hp
  have hsq := parts_sound hq
  refine ⟨p.filter settings.encoding, rfl, congrArg some hsame.symm, ?_⟩
  intro docs hdocs
  -- over dates whatever passes the filter has a time
  have htime : ∀ d ∈ (p.filter settings.encoding).kept docs, ∃ t, spec.timeOf settings d = some t :=
    fun d hd => Parts.timeOf_of_passes hsp hencoding (Filter.mem_kept.1 hd).2
  have hfineRun := Parts.run_plan hsp hdocs fun d _ hpasses _ =>
    Parts.timeOf_of_passes hsp hencoding hpasses
  have hcoarseRun := Parts.run_plan hsq hdocs fun d _ hpasses _ =>
    Parts.timeOf_of_passes hsq hencoding hpasses
  rw [← hsame] at hcoarseRun
  refine ⟨_, _, hfineRun, hcoarseRun, fun m hm hadds bucket values => ⟨?_, ?_⟩⟩
  · refine QuerySpec.totalOf?_placed hsq hlimit hm hadds (fun hh d hd => ?_) values
    obtain ⟨t, ht⟩ := htime d hd
    have htold : ({ spec with granularity := h } : QuerySpec).timeOf settings d = some t := ht
    have hbucket := QuerySpec.bucketOf?_rowOf hsq hh ((p.filter settings.encoding).kept docs) htold
    change QuerySpec.bucketOf? settings { spec with granularity := h } _ = some bucket ↔ _
    rw [hbucket, htold, Option.map_some]
  · refine QuerySpec.totalOf?_placed hsp hlimit hm hadds (fun hh d hd => ?_) values
    obtain ⟨t, ht⟩ := htime d hd
    have htold : ({ spec with granularity := g } : QuerySpec).timeOf settings d = some t := ht
    have hbucket := QuerySpec.bucketOf?_rowOf hsp hfiner.isBinned
      ((p.filter settings.encoding).kept docs) htold
    change (QuerySpec.bucketOf? settings { spec with granularity := g } _).map h.truncate =
      some bucket ↔ _
    rw [hbucket, htold, Option.map_some, Option.map_some, Granularity.truncate_truncate hfiner hh]

def regionalLoads : QuerySpec where
  ns := "events"
  range := none
  dimensions := [⟨"region", none, none⟩]
  measures := [⟨"load", some .sum, none⟩, ⟨"count", none, none⟩]
  granularity := .all
  limit := none
  timestampField := none
  debug := false

def datedReadings : List Document :=
  let dated (text : String) : Json := .object [("$date", .string text)]
  [[("ts", dated "2024-03-01T10:59:00Z"), ("region", .string "eu"), ("load", .int 1)],
    [("ts", dated "2024-03-01T09:01:00.250Z"), ("region", .string "eu"), ("load", .int (-5))],
    [("ts", dated "2024-03-01T10:00:00Z"), ("region", .string "eu"), ("load", .null)],
    [("ts", dated "2024-03-02T00:00:00Z"), ("region", .string "eu")],
    [("region", .string "eu"), ("load", .int 7)]]

def firstOfMarch : Instant := (Instant.ofMillis? 1709251200000).getD .epoch

theorem rows_roll_up_hours_to_days :
    ∃ fine coarse fineRows coarseRows,
      compile .standard [] { regionalLoads with granularity := .hour } .epoch = .ok fine ∧
      compile .standard [] { regionalLoads with granularity := .day } .epoch = .ok coarse ∧
      (fine.pipeline.run datedReadings).map fine.reshape = .ok fineRows ∧
      (coarse.pipeline.run datedReadings).map coarse.reshape = .ok coarseRows ∧
      ∀ x ∈ [("load", (-4 : Int)), ("count", 3)],
        totalOf? x.1 (coarseRows.filter fun row =>
            decide ((Granularity.day.isBinned = true →
                regionalLoads.bucketOf? .standard row = some firstOfMarch) ∧
              regionalLoads.Shows (fun _ => .string "eu") row)) = some x.2 ∧
          totalOf? x.1 (fineRows.filter fun row =>
            decide ((Granularity.day.isBinned = true →
                (regionalLoads.bucketOf? .standard row).map Granularity.day.truncate =
                  some firstOfMarch) ∧
              regionalLoads.Shows (fun _ => .string "eu") row)) = some x.2 := by
  let f := Filter.timeWindow ⟨"ts", by decide⟩ none .extended
  let load : Measure := ⟨"load", some .sum, none⟩
  let count : Measure := ⟨"count", none, none⟩
  have hcompiled (g : Granularity) (hg : g = .hour ∨ g = .day) : ∃ plan,
      compile .standard [] { regionalLoads with granularity := g } .epoch = .ok plan ∧
        plan.pipeline.filter? = some f := by
    refine eq_ok_of_toOption ?_
    rcases hg with rfl | rfl <;> decide +kernel
  obtain ⟨fine, hfine, hfineFilter⟩ := hcompiled .hour (.inl rfl)
  obtain ⟨coarse, hcoarse, -⟩ := hcompiled .day (.inr rfl)
  obtain ⟨filter, hfilter, -, hroll⟩ :=
    @rows_roll_up .standard [] regionalLoads .epoch .hour .day fine coarse rfl rfl (by decide)
      hfine hcoarse
  obtain rfl : filter = f := Option.some.inj (hfilter.symm.trans hfineFilter)
  have hkept : f.kept datedReadings = datedReadings.take 4 := by decide +kernel
  obtain ⟨fineRows, coarseRows, hfineRun, hcoarseRun, htotals⟩ :=
    hroll datedReadings (by decide)
  rw [hkept] at htotals
  have hadds : load.Additive .standard (datedReadings.take 4) := by
    refine ⟨.inr rfl, ?_, by decide +kernel⟩
    have hread : (datedReadings.take 4).map (load.read .standard) =
        [some (.int 1), some (.int (-5)), some .null, none] := by decide +kernel
    intro d hd n hn
    have hmem : load.read .standard d ∈ (datedReadings.take 4).map (load.read .standard) :=
      List.mem_map.2 ⟨d, hd, rfl⟩
    rw [hread, hn] at hmem
    simp only [Json.int, List.mem_cons, Option.some.injEq, Json.number.injEq, reduceCtorEq,
      List.not_mem_nil, or_false] at hmem
    rcases hmem with rfl | rfl <;> decide
  have htotal (m : Measure) (total : Int) (h : (m, total) = (load, -4) ∨ (m, total) = (count, 3)) :
      (((datedReadings.take 4).filter fun d => decide (regionalLoads.Holds .standard .day
        firstOfMarch (fun _ => .string "eu") d)).map (m.amount .standard)).sum = total := by
    rcases h with h | h <;> cases h <;> decide +kernel
  have hloads := htotals load List.mem_cons_self hadds firstOfMarch fun _ => .string "eu"
  have hcounts := htotals count (List.mem_cons_of_mem _ List.mem_cons_self)
    (.count rfl (by decide)) firstOfMarch fun _ => .string "eu"
  rw [htotal load (-4) (.inl rfl)] at hloads
  rw [htotal count 3 (.inr rfl)] at hcounts
  refine ⟨fine, coarse, fineRows, coarseRows, hfine, hcoarse, hfineRun, hcoarseRun, ?_⟩
  intro x hx
  rcases List.mem_pair.1 hx with rfl | rfl
  · exact hloads
  · exact hcounts

end Plan

end EventRollup
