import EventRollup.Proofs.Query.Amounts
import EventRollup.Proofs.Query.Series

namespace EventRollup

namespace Json

variable {o : Ordering}

theorem Foremost.mem {vs : List Json} {v : Json} (h : Foremost o vs v) : v ∈ vs := by
  obtain ⟨before, after, rfl, -, -⟩ := h
  simp

/-- However values are arranged, the foremost of them compare equal. -/
theorem Foremost.perm (ho : o ≠ .eq) {vs ws : List Json} (hperm : vs.Perm ws) {v w : Json}
    (hv : Foremost o vs v) (hw : Foremost o ws w) : compare v w = .eq := by
  have hvw := hv.not_behind ho (hperm.mem_iff.2 hw.mem)
  have hwv := hw.not_behind ho (hperm.mem_iff.1 hv.mem)
  rw [← compare_swap v w] at hwv
  cases hc : compare v w <;> cases o <;> simp_all

end Json

namespace Tally

theorem held_perm (name : String) {docs docs' : List Document} (hperm : docs.Perm docs') :
    (held name docs).Perm (held name docs') :=
  (hperm.filterMap _).filter _

theorem extreme_perm {o : Ordering} (ho : o ≠ .eq) {name : String} {docs docs' : List Document}
    (hperm : docs.Perm docs') {v w : Json}
    (hv : held name docs = [] ∧ v = .null ∨ Json.Foremost o (held name docs) v)
    (hw : held name docs' = [] ∧ w = .null ∨ Json.Foremost o (held name docs') w) :
    Json.compare v w = .eq := by
  have hheld := held_perm name hperm
  rcases hv with ⟨hnone, rfl⟩ | hv <;> rcases hw with ⟨hnone', rfl⟩ | hw
  · rfl
  · rw [hnone] at hheld
    rw [← hheld.nil_eq] at hw
    cases hw.mem
  · rw [hnone'] at hheld
    rw [hheld.eq_nil] at hv
    cases hv.mem
  · exact hv.perm ho hheld hw

end Tally

namespace Measure

variable {settings : Settings} {m : Measure}

def Extreme (settings : Settings) (m : Measure) : Prop :=
  m.field ≠ settings.countMeasure ∧ (m.effective = .min ∨ m.effective = .max)

instance (settings : Settings) (m : Measure) : Decidable (m.Extreme settings) := by
  unfold Extreme
  infer_instance

/-- The measure counts, takes an extreme, or sums integers whose absolute values have 64 bits
together. -/
def OrderFree (settings : Settings) (m : Measure) (docs : List Document) : Prop :=
  m.field = settings.countMeasure ∨ m.Additive settings docs ∨ m.effective = .min ∨
    m.effective = .max

instance (settings : Settings) (m : Measure) (docs : List Document) :
    Decidable (m.OrderFree settings docs) := by
  unfold OrderFree
  infer_instance

/-- What a measure comes to in two answers that agree: the same, or for an extreme values that compare
equal. -/
def Agrees (settings : Settings) (m : Measure) (v w : Json) : Prop :=
  if m.Extreme settings then Json.compare v w = .eq else v = w

theorem Additive.perm {docs docs' : List Document} (h : m.Additive settings docs)
    (hperm : docs.Perm docs') : m.Additive settings docs' := by
  refine ⟨h.operator, ?_, ?_⟩
  · intro d hd
    exact h.integers d (hperm.mem_iff.2 hd)
  · rw [← (hperm.map fun d => (m.amount settings d).natAbs).sum_eq]
    exact h.fits

end Measure

namespace QuerySpec

variable {settings : Settings} {spec : QuerySpec} {p : Plan.Parts} {m : Measure}
  {docs docs' : List Document}

theorem measured_count_perm (hcount : m.field = settings.countMeasure)
    (hperm : docs.Perm docs') : measured settings m docs = measured settings m docs' := by
  -- what a count takes in is the same whichever document it comes from
  have hcommutes : RightCommutative fun (t : Tally) (_ : Document) => t.feed (some (.int 1)) :=
    ⟨fun _ _ _ => rfl⟩
  rw [measured, measured, if_pos hcount, if_pos hcount, hperm.foldl_eq]

theorem measured_extreme_perm (hextreme : m.Extreme settings) (hperm : docs.Perm docs') :
    Json.compare (measured settings m docs) (measured settings m docs') = .eq := by
  obtain ⟨hcount, hop⟩ := hextreme
  have h := measured_describes settings m docs
  have h' := measured_describes settings m docs'
  rw [Measure.Describes, if_neg hcount] at h h'
  rcases hop with hop | hop
  · rw [hop] at h h'
    exact Tally.extreme_perm (by decide) hperm h h'
  · rw [hop] at h h'
    exact Tally.extreme_perm (by decide) hperm h h'

theorem measured_perm (hfree : m.OrderFree settings docs) (hperm : docs.Perm docs') :
    m.Agrees settings (measured settings m docs) (measured settings m docs') := by
  rw [Measure.Agrees]
  by_cases hextreme : m.Extreme settings
  · rw [if_pos hextreme]
    exact measured_extreme_perm hextreme hperm
  · rw [if_neg hextreme]
    rcases hfree with hcount | hadds | hop
    · exact measured_count_perm hcount hperm
    · rw [measured_eq hadds, measured_eq (hadds.perm hperm),
        (hperm.map (m.amount settings)).sum_eq]
    · by_cases hcount : m.field = settings.countMeasure
      · exact measured_count_perm hcount hperm
      · exact absurd ⟨hcount, hop⟩ hextreme

/-- Rows that agree show one bucket and the same dimensions, and their measures agree. -/
def Agree (settings : Settings) (spec : QuerySpec) (a b : Document) : Prop :=
  (spec.granularity.isBinned = true → ∃ v, a.get? (spec.timestampName settings) = some v ∧
    b.get? (spec.timestampName settings) = some v) ∧
  (∀ x ∈ spec.dimensions, ∃ v, a.get? x.field = some v ∧ b.get? x.field = some v) ∧
  ∀ m ∈ spec.measures, ∃ v w, a.get? m.field = some v ∧ b.get? m.field = some w ∧
    m.Agrees settings v w

theorem agree_rowOf (hp : p.Sound settings spec) {d : Document} (hd : spec.Readable settings d)
    (hperm : docs.Perm docs') (hfree : ∀ m ∈ spec.measures,
      m.OrderFree settings (spec.members settings docs (spec.classOf settings d))) :
    spec.Agree settings (spec.rowOf settings docs (spec.classOf settings d))
      (spec.rowOf settings docs' (spec.classOf settings d)) := by
  refine ⟨?_, ?_, ?_⟩
  · intro hg
    obtain ⟨t, ht⟩ := hd hg
    exact ⟨_, get?_rowOf_timestamp hp hg docs ht, get?_rowOf_timestamp hp hg docs' ht⟩
  · intro x hx
    exact ⟨_, get?_rowOf_dimension hp docs d hx, get?_rowOf_dimension hp docs' d hx⟩
  · intro m hm
    refine ⟨_, _, get?_rowOf_measure hp docs d hm, get?_rowOf_measure hp docs' d hm, ?_⟩
    exact measured_perm (hfree m hm) (hperm.filter _)

theorem orderedClasses_perm (hperm : docs.Perm docs') :
    (spec.orderedClasses settings docs).Perm (spec.orderedClasses settings docs') := by
  rw [List.perm_ext_iff_of_nodup (nodup_orderedClasses docs) (nodup_orderedClasses docs')]
  intro c
  simp only [mem_orderedClasses, hperm.mem_iff]

theorem starts_perm (hp : p.Sound settings spec) (hg : spec.granularity.isBinned = true)
    (hread : ∀ d ∈ docs, spec.Readable settings d) (hperm : docs.Perm docs') :
    spec.starts settings docs = spec.starts settings docs' := by
  have hread' : ∀ d ∈ docs', spec.Readable settings d := by
    intro d hd
    exact hread d (hperm.mem_iff.2 hd)
  apply ((orderedClasses_perm hperm).filterMap _).eq_of_pairwise
  · intro t u _ _ htu hut
    exact Instant.eq_of_compare_isLE htu hut
  · exact pairwise_starts hp hg hread
  · exact pairwise_starts hp hg hread'

theorem bucketOf?_rows (hp : p.Sound settings spec) (hg : spec.granularity.isBinned = true)
    (hread : ∀ d ∈ docs, spec.Readable settings d) :
    ((spec.orderedClasses settings docs).map (spec.rowOf settings docs)).map
      (spec.bucketOf? settings) = (spec.starts settings docs).map some := by
  rw [← map_bucket_orderedClasses hg hread, List.map_map]
  apply List.map_congr_left
  intro c hc
  obtain ⟨d, -, t, ht, rfl, hbucket⟩ := exists_start hg hread hc
  rw [Function.comp_apply, bucketOf?_rowOf hp hg docs ht, hbucket]

end QuerySpec

namespace Plan

namespace Parts

variable {settings : Settings} {spec : QuerySpec} {p : Parts}

theorem run_plan_ok_iff (hp : p.Sound settings spec) {docs : List Document}
    (hdocs : ∀ d ∈ docs, d.keys.Nodup) :
    (∃ rows, (p.plan spec settings.encoding).pipeline.run docs = .ok rows) ↔
      ∀ d ∈ (p.filter settings.encoding).kept docs, spec.Readable settings d := by
  constructor
  · rintro ⟨rows, hrows⟩
    exact readable_of_run hp hdocs hrows
  · intro hread
    exact ⟨_, run_plan_grouped hp rfl hdocs hread⟩

theorem rows_of_run (hp : p.Sound settings spec) {docs rows : List Document}
    (hdocs : ∀ d ∈ docs, d.keys.Nodup)
    (h : ((p.plan spec settings.encoding).pipeline.run docs).map
      (p.plan spec settings.encoding).reshape = .ok rows) :
    (∀ d ∈ (p.filter settings.encoding).kept docs, spec.Readable settings d) ∧
      rows = spec.rows settings ((p.filter settings.encoding).kept docs) := by
  cases hrun : (p.plan spec settings.encoding).pipeline.run docs with
  | error fault =>
      rw [hrun] at h
      cases h
  | ok grouped =>
      have hread := readable_of_run hp hdocs hrun
      refine ⟨hread, ?_⟩
      rw [run_plan hp hdocs fun d hd hpasses => hread d (Filter.mem_kept.2 ⟨hd, hpasses⟩)] at h
      exact (Except.ok.inj h).symm

end Parts

/-- The order in which documents are stored does not matter to a query without a limit whose measures
count, sum integers or take extremes. Two arrangements of the documents both fail or both succeed. If
they succeed, the rows of one can be arranged so that they agree one by one with those of the other,
and a binned query lists the starts of its buckets in one order. -/
theorem rows_agree_of_perm {settings : Settings} {presets : List Preset} {spec : QuerySpec}
    {now : Instant} {plan : Plan} (h : compile settings presets spec now = .ok plan)
    (hlimit : spec.limit.getD 0 = 0) :
    ∃ filter, plan.pipeline.filter? = some filter ∧ ∀ docs docs' : List Document,
      docs.Perm docs' → (∀ d ∈ docs, d.keys.Nodup) →
      ((∃ rows, plan.pipeline.run docs = .ok rows) ↔
        ∃ rows, plan.pipeline.run docs' = .ok rows) ∧
      ((∀ m ∈ spec.measures, ∀ d ∈ filter.kept docs, m.OrderFree settings
          (spec.members settings (filter.kept docs) (spec.classOf settings d))) →
        ∀ rows rows', (plan.pipeline.run docs).map plan.reshape = .ok rows →
          (plan.pipeline.run docs').map plan.reshape = .ok rows' →
          (∃ arranged, arranged.Perm rows' ∧ List.Forall₂ (spec.Agree settings) rows arranged) ∧
          (spec.granularity.isBinned = true → ∃ starts : List Instant,
            rows.map (spec.bucketOf? settings) = starts.map some ∧
              rows'.map (spec.bucketOf? settings) = starts.map some)) := by
  obtain ⟨p, hparts, rfl⟩ := parts_of_compile h
  have hp := parts_sound hparts
  refine ⟨p.filter settings.encoding, rfl, fun docs docs' hperm hdocs => ?_⟩
  have hdocs' : ∀ d ∈ docs', d.keys.Nodup := by
    intro d hd
    exact hdocs d (hperm.mem_iff.2 hd)
  have hkept : ((p.filter settings.encoding).kept docs).Perm
      ((p.filter settings.encoding).kept docs') := hperm.filter _
  refine ⟨?_, ?_⟩
  · rw [Parts.run_plan_ok_iff hp hdocs, Parts.run_plan_ok_iff hp hdocs']
    simp only [hkept.mem_iff]
  · intro hfree rows rows' hrows hrows'
    obtain ⟨hread, rfl⟩ := Parts.rows_of_run hp hdocs hrows
    obtain ⟨hread', rfl⟩ := Parts.rows_of_run hp hdocs' hrows'
    generalize (p.filter settings.encoding).kept docs = kept at hkept hfree hread
    generalize (p.filter settings.encoding).kept docs' = kept' at hkept hread'
    rw [QuerySpec.rows_unlimited hlimit, QuerySpec.rows_unlimited hlimit]
    refine ⟨⟨(spec.orderedClasses settings kept).map (spec.rowOf settings kept'), ?_, ?_⟩, ?_⟩
    · exact (QuerySpec.orderedClasses_perm hkept).map _
    · rw [List.forall₂_map_left_iff, List.forall₂_map_right_iff, List.forall₂_same]
      intro c hc
      obtain ⟨d, hd, rfl⟩ := QuerySpec.mem_orderedClasses.1 hc
      apply QuerySpec.agree_rowOf hp (hread d hd) hkept
      intro m hm
      exact hfree m hm d hd
    · intro hg
      refine ⟨spec.starts settings kept, QuerySpec.bucketOf?_rows hp hg hread, ?_⟩
      rw [QuerySpec.starts_perm hp hg hread hkept]
      exact QuerySpec.bucketOf?_rows hp hg hread'

def hourlyLevels : QuerySpec where
  ns := "events"
  range := none
  dimensions := [⟨"region", none, none⟩]
  measures := [⟨"count", none, none⟩, ⟨"load", some .sum, none⟩, ⟨"level", some .max, none⟩]
  granularity := .hour
  limit := none
  timestampField := none
  debug := false

def fractional : Json := .number (.double ((Double.ofInt? 1).getD .zero))

def levels : List Document :=
  let dated (text : String) : Json := .object [("$date", .string text)]
  [[("ts", dated "2024-03-01T10:59:00Z"), ("region", .string "eu"), ("load", .int 1),
      ("level", .int 1)],
    [("ts", dated "2024-03-01T10:01:00.250Z"), ("region", .string "eu"), ("load", .int (-5)),
      ("level", fractional)],
    [("ts", dated "2024-03-01T09:30:00Z")]]

def groupedLevels (level : Json) : List Document :=
  let day : Document := [("year", .int 2024), ("month", .int 3), ("day", .int 1)]
  [[("_id", .object (day ++ [("hour", .int 9)])), ("count", .int 1), ("load", .int 0),
      ("level", .null)],
    [("_id", .object (day ++ [("hour", .int 10), ("region", .string "eu")])), ("count", .int 2),
      ("load", .int (-4)), ("level", level)]]

def levelRows (level : Json) : List Document :=
  let dated (text : String) : Json := .object [("$date", .string text)]
  [[("level", .null), ("count", .int 1), ("load", .int 0),
      ("ts", dated "2024-03-01T09:00:00.000Z"), ("region", .null)],
    [("level", level), ("count", .int 2), ("load", .int (-4)),
      ("ts", dated "2024-03-01T10:00:00.000Z"), ("region", .string "eu")]]

theorem rows_agree_of_perm_levels :
    ∃ plan, compile .standard [] hourlyLevels .epoch = .ok plan ∧
      (plan.pipeline.run levels).map plan.reshape = .ok (levelRows (.int 1)) ∧
      (plan.pipeline.run levels.reverse).map plan.reshape = .ok (levelRows fractional) ∧
      (∃ arranged, arranged.Perm (levelRows fractional) ∧
        List.Forall₂ (hourlyLevels.Agree .standard) (levelRows (.int 1)) arranged) ∧
      ∃ starts : List Instant,
        (levelRows (.int 1)).map (hourlyLevels.bucketOf? .standard) = starts.map some ∧
          (levelRows fractional).map (hourlyLevels.bucketOf? .standard) = starts.map some := by
  let f := Filter.timeWindow ⟨"ts", by decide⟩ none .extended
  have hcompiled : (compile .standard [] hourlyLevels .epoch).toOption.map (fun plan =>
      (plan.pipeline.filter?, plan.pipeline.stages.drop 3)) =
      some (some f, [.sort ⟨[(.groupKey, .ascending)]⟩]) := by decide +kernel
  have hgrouped : (compile .standard [] hourlyLevels .epoch).toOption.map (fun plan =>
      (runStages (plan.pipeline.stages.take 3) levels).toOption) =
      some (some (groupedLevels (.int 1)).reverse) := by decide +kernel
  have hgrouped' : (compile .standard [] hourlyLevels .epoch).toOption.map (fun plan =>
      (runStages (plan.pipeline.stages.take 3) levels.reverse).toOption) =
      some (some (groupedLevels fractional)) := by decide +kernel
  have hflat : (compile .standard [] hourlyLevels .epoch).toOption.map (fun plan =>
      decide (∀ level ∈ [Json.int 1, fractional],
        plan.reshape (groupedLevels level) = levelRows level)) = some true := by decide +kernel
  obtain ⟨plan, hplan, htold⟩ := eq_ok_of_toOption hcompiled
  obtain ⟨hfilter, hrest⟩ := Prod.mk.inj htold
  rw [hplan] at hgrouped hgrouped' hflat
  replace hgrouped := ok_of_toOption (Option.some.inj hgrouped)
  replace hgrouped' := ok_of_toOption (Option.some.inj hgrouped')
  replace hflat := of_decide_eq_true (Option.some.inj hflat)
  have hsorted : Document.sortBy [("_id", .ascending)] (groupedLevels (.int 1)).reverse =
      groupedLevels (.int 1) := by
    change Document.sortBy _ [(groupedLevels (.int 1))[1], (groupedLevels (.int 1))[0]] = _
    rw [Document.sortBy_pair, if_neg (by decide +kernel)]
    rfl
  have hsorted' : Document.sortBy [("_id", .ascending)] (groupedLevels fractional) =
      groupedLevels fractional := by
    change Document.sortBy _ [(groupedLevels fractional)[0], (groupedLevels fractional)[1]] = _
    rw [Document.sortBy_pair, if_pos (by decide +kernel)]
    rfl
  have hrun : (plan.pipeline.run levels).map plan.reshape = .ok (levelRows (.int 1)) := by
    rw [QuerySpec.run_of_take hgrouped, hrest]
    change Except.ok (plan.reshape (Document.sortBy [("_id", .ascending)] _)) = _
    rw [hsorted, hflat _ List.mem_cons_self]
  have hrun' : (plan.pipeline.run levels.reverse).map plan.reshape =
      .ok (levelRows fractional) := by
    rw [QuerySpec.run_of_take hgrouped', hrest]
    change Except.ok (plan.reshape (Document.sortBy [("_id", .ascending)] _)) = _
    rw [hsorted', hflat _ (List.mem_cons_of_mem _ List.mem_cons_self)]
  obtain ⟨filter, hfilter', hperm⟩ := rows_agree_of_perm hplan rfl
  obtain rfl : filter = f := Option.some.inj (hfilter'.symm.trans hfilter)
  have hagree := (hperm levels levels.reverse (List.reverse_perm levels).symm (by decide)).2
    (by decide +kernel) _ _ hrun hrun'
  exact ⟨plan, hplan, hrun, hrun', hagree.1, hagree.2 rfl⟩

end Plan

end EventRollup
