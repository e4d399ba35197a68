import EventRollup.Proofs.Query.FlatRows
import EventRollup.Proofs.Store.Sorting

namespace EventRollup

namespace QuerySpec

variable {settings : Settings} {spec : QuerySpec} {p : Plan.Parts} {docs : List Document}

theorem pairwise_orderedClasses (hp : p.Sound settings spec)
    (hread : ∀ d ∈ docs, spec.Readable settings d) :
    (spec.orderedClasses settings docs).Pairwise fun a b =>
      (spec.compareClasses settings docs a b).isLE = true := by
  have hrows := Document.pairwise_sortBy (p.sorting spec).named
    ((spec.classes settings docs).map (spec.groupedRow settings docs))
  rw [sortBy_groupedRows hp hread, List.pairwise_map] at hrows
  apply hrows.imp_of_mem
  intro a b ha hb hab
  rwa [compareBy_groupedRow hp hread (List.mem_mergeSort.1 ha) (List.mem_mergeSort.1 hb)] at hab

/-- The starts of the buckets, one for each row and in the order of the rows. -/
def starts (settings : Settings) (spec : QuerySpec) (docs : List Document) : List Instant :=
  (spec.orderedClasses settings docs).filterMap (·.bucket)

theorem exists_start (hg : spec.granularity.isBinned = true)
    (hread : ∀ d ∈ docs, spec.Readable settings d) {c : DocumentClass}
    (hc : c ∈ spec.orderedClasses settings docs) :
    ∃ d ∈ docs, ∃ t, spec.timeOf settings d = some t ∧ spec.classOf settings d = c ∧
      c.bucket = some (spec.granularity.truncate t) := by
  obtain ⟨d, hd, rfl⟩ := mem_orderedClasses.1 hc
  obtain ⟨t, ht⟩ := hread d hd hg
  exact ⟨d, hd, t, ht, rfl, bucket_classOf hg ht⟩

theorem map_bucket_orderedClasses (hg : spec.granularity.isBinned = true)
    (hread : ∀ d ∈ docs, spec.Readable settings d) :
    (spec.orderedClasses settings docs).map (·.bucket) =
      (spec.starts settings docs).map some := by
  rw [starts, List.map_filterMap_some_eq_filter_map_isSome, eq_comm, List.filter_eq_self]
  intro b hb
  obtain ⟨c, hc, rfl⟩ := List.mem_map.1 hb
  obtain ⟨d, -, t, -, -, hbucket⟩ := exists_start hg hread hc
  rw [hbucket]
  rfl

theorem pairwise_starts (hp : p.Sound settings spec) (hg : spec.granularity.isBinned = true)
    (hread : ∀ d ∈ docs, spec.Readable settings d) :
    (spec.starts settings docs).Pairwise fun t u => (Instant.compare t u).isLE = true := by
  rw [starts, List.pairwise_filterMap]
  apply (pairwise_orderedClasses hp hread).imp
  intro a b hab t ht u hu
  rw [compareClasses, if_pos hg, DocumentClass.compareTime, ht, hu] at hab
  exact (Ordering.isLE_then_iff_and.1 hab).1

end QuerySpec

namespace Plan

/-- A binned answer is chronological. The calendar parts of every row name an instant, which is the
time that the flat row shows, and no such instant lies before that of an earlier row, whatever the
dimensions, the measures that ask for an order, the limit and the years. -/
theorem binned_rows_chronological {settings : Settings} {presets : List Preset} {spec : QuerySpec}
    {now : Instant} {plan : Plan} (h : compile settings presets spec now = .ok plan)
    (hg : spec.granularity.isBinned = true) {docs rows : List Document}
    (hdocs : ∀ d ∈ docs, d.keys.Nodup) (hrows : plan.pipeline.run docs = .ok rows) :
    ∃ starts : List Instant,
      rows.map (fun row => Record.bucketOf? spec.granularity (Record.keyOf row)) =
          starts.map some ∧
        (plan.reshape rows).map (fun row => row.get? plan.timestampField.text) =
          starts.map (fun start => some (settings.encoding.encode start)) ∧
        starts.Pairwise fun t u => (Instant.compare t u).isLE = true := by
  obtain ⟨p, hparts, rfl⟩ := parts_of_compile h
  have hp := parts_sound hparts
  have hread := Parts.readable_of_run hp hdocs hrows
  obtain ⟨kept, hkept⟩ : ∃ kept, kept = (p.filter settings.encoding).kept docs := ⟨_, rfl⟩
  rw [← hkept] at hread
  rw [Parts.run_plan_grouped hp hkept hdocs hread, QuerySpec.limited_eq_take] at hrows
  obtain ⟨n, hn⟩ : ∃ n, ((spec.orderedClasses settings kept).map
      (spec.groupedRow settings kept)).take n = rows := ⟨_, Except.ok.inj hrows⟩
  subst hn
  have hbuckets := QuerySpec.map_bucket_orderedClasses hg hread
  refine ⟨(spec.starts settings kept).take n, ?_, ?_, ?_⟩
  · rw [List.map_take, List.map_take, ← hbuckets, List.map_map]
    congr 1
    apply List.map_congr_left
    intro c hc
    obtain ⟨d, -, t, ht, rfl, hbucket⟩ := QuerySpec.exists_start hg hread hc
    rw [Function.comp_apply, QuerySpec.keyOf_groupedRow, QuerySpec.bucketOf?_key hg ht, hbucket]
  · have hshown : (spec.starts settings kept).map (fun start =>
        some (settings.encoding.encode start)) =
        (spec.orderedClasses settings kept).map fun c =>
          c.bucket.map settings.encoding.encode := by
      have hmapped := congrArg (List.map (Option.map settings.encoding.encode)) hbuckets
      rw [List.map_map, List.map_map] at hmapped
      exact hmapped.symm
    rw [reshape, List.map_take, List.map_take, List.map_take, hshown, List.map_map, List.map_map]
    congr 1
    apply List.map_congr_left
    intro c hc
    obtain ⟨d, hd, t, ht, rfl, hbucket⟩ := QuerySpec.exists_start hg hread hc
    have hflat := QuerySpec.ofRow_groupedRow hp kept (hread d hd)
    have hget := QuerySpec.get?_rowOf_timestamp hp hg kept ht
    rw [← hflat, QuerySpec.timestampName, ← hp.timestamp_text] at hget
    rw [hbucket]
    exact hget
  · exact (QuerySpec.pairwise_starts hp hg hread).sublist (List.take_sublist n _)

def dailyCounts : QuerySpec where
  ns := "events"
  range := none
  dimensions := [⟨"region", none, none⟩]
  measures := [⟨"count", none, some .descending⟩]
  granularity := .day
  limit := some 5
  timestampField := none
  debug := false

def farReadings : List Document :=
  [[("ts", .object [("$date", .int 253402300800000)]), ("region", .string "eu")],
    [("ts", .object [("$date", .int (-62167219200001))])]]

def farRows : List Document :=
  [[("_id", .object [("year", .int (-1)), ("month", .int 12), ("day", .int 31)]),
      ("count", .int 1)],
    [("_id", .object [("year", .int 10000), ("month", .int 1), ("day", .int 1),
        ("region", .string "eu")]), ("count", .int 1)]]

theorem binned_rows_chronological_far :
    ∃ plan, compile .standard [] dailyCounts .epoch = .ok plan ∧
      plan.pipeline.run farReadings = .ok farRows ∧
      ∃ starts : List Instant,
        farRows.map (fun row => Record.bucketOf? .day (Record.keyOf row)) = starts.map some ∧
          (plan.reshape farRows).map (fun row => row.get? plan.timestampField.text) =
            starts.map (fun start => some (DateEncoding.extended.encode start)) ∧
          starts.Pairwise fun t u => (Instant.compare t u).isLE = true := by
  have hcompiled : (compile .standard [] dailyCounts .epoch).toOption.map
      (fun plan => ((runStages (plan.pipeline.stages.take 3) farReadings).toOption,
        plan.pipeline.stages.drop 3)) =
      some (some farRows.reverse, [.sort ⟨[(.groupKey, .ascending)]⟩, .limit 5]) := by
    decide +kernel
  obtain ⟨plan, hplan, hpair⟩ := eq_ok_of_toOption hcompiled
  obtain ⟨hgrouped, hrest⟩ := Prod.mk.inj hpair
  have hsorted : Document.sortBy [("_id", .ascending)] farRows.reverse = farRows := by
    change Document.sortBy _ [farRows[1], farRows[0]] = _
    rw [Document.sortBy_pair, if_neg (by decide +kernel)]
    rfl
  have hrows : plan.pipeline.run farReadings = .ok farRows := by
    rw [QuerySpec.run_of_take (ok_of_toOption hgrouped), hrest]
    change Except.ok ((Document.sortBy [("_id", .ascending)] farRows.reverse).take 5) = _
    rw [hsorted]
    rfl
  exact ⟨plan, hplan, hrows, binned_rows_chronological hplan rfl (by decide) hrows⟩

end Plan

end EventRollup
