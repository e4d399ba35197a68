import EventRollup.Proofs.Query.FlatRows

namespace EventRollup

/-- The field is missing from one of two grouping keys and null in the other. -/
def FieldName.MissingBesideNull (f : FieldName) (a b : Document) : Prop :=
  a.get? f.text = none ∧ b.get? f.text = some .null ∨
    a.get? f.text = some .null ∧ b.get? f.text = none

theorem FieldName.get?_eq_of_shown {f : FieldName} {a b : Document}
    (hshown : (a.get? f.text).getD .null = (b.get? f.text).getD .null)
    (hapart : ¬ f.MissingBesideNull a b) : a.get? f.text = b.get? f.text := by
  rw [MissingBesideNull, not_or] at hapart
  cases ha : a.get? f.text with
  | none =>
      cases hb : b.get? f.text with
      | none => rfl
      | some w =>
          rw [ha, hb] at hshown
          exact absurd ⟨ha, hb.trans (congrArg some hshown.symm)⟩ hapart.1
  | some v =>
      cases hb : b.get? f.text with
      | none =>
          rw [ha, hb] at hshown
          exact absurd ⟨ha.trans (congrArg some hshown), hb⟩ hapart.2
      | some w =>
          rw [ha, hb] at hshown
          exact congrArg some hshown

namespace Plan

def flat (plan : Plan) (row : Document) : Document :=
  Record.ofRow plan.granularity plan.dimensions plan.timestampField plan.encoding row

/-- Flat rows with the same timestamp, in a query that bins, and the same value in every dimension. -/
def SameKey (plan : Plan) (a b : Document) : Prop :=
  (plan.granularity.isBinned = true →
    a.get? plan.timestampField.text = b.get? plan.timestampField.text) ∧
  ∀ f ∈ plan.dimensions, a.get? f.text = b.get? f.text

instance (plan : Plan) (a b : Document) : Decidable (plan.SameKey a b) := by
  unfold SameKey
  infer_instance

end Plan

namespace QuerySpec

variable {settings : Settings} {spec : QuerySpec} {p : Plan.Parts}

theorem missing_beside_null (hp : p.Sound settings spec) {docs : List Document} {d e : Document}
    (hd : spec.Readable settings d) (he : spec.Readable settings e)
    (hne : spec.classOf settings d ≠ spec.classOf settings e)
    (h : (p.plan spec settings.encoding).SameKey
      (spec.rowOf settings docs (spec.classOf settings d))
      (spec.rowOf settings docs (spec.classOf settings e))) :
    ∃ f ∈ p.dimensions, f.MissingBesideNull d e := by
  obtain ⟨htime, hvalues⟩ := h
  refine Classical.byContradiction fun hnone => hne ?_
  rw [classOf_eq_iff]
  constructor
  · intro hg
    obtain ⟨t, ht⟩ := hd hg
    obtain ⟨u, hu⟩ := he hg
    have hshown := congrArg (Option.bind · settings.encoding.written?) (htime hg)
    change (Option.bind (Document.get? _ p.timestamp.text) _) =
      Option.bind (Document.get? _ p.timestamp.text) _ at hshown
    rw [hp.timestamp_text] at hshown
    have hstart := (bucketOf?_rowOf hp hg docs ht).symm.trans
      (hshown.trans (bucketOf?_rowOf hp hg docs hu))
    rw [ht, hu]
    exact hstart
  · intro x hx
    have hmem : x.field ∈ p.dimensions.map (·.text) := by
      rw [hp.dimensions_text, List.mem_eraseDups]
      exact List.mem_map.2 ⟨x, hx, rfl⟩
    obtain ⟨f, hf, hname⟩ := List.mem_map.1 hmem
    have hsame := hvalues f hf
    rw [hname, get?_rowOf_dimension hp docs d hx, get?_rowOf_dimension hp docs e hx, ← hname] at hsame
    rw [← hname]
    exact FieldName.get?_eq_of_shown (Option.some.inj hsame) fun h => hnone ⟨f, hf, h⟩

end QuerySpec

namespace Plan

/-- No two rows of one answer agree in their timestamp and in every dimension, unless one stands for
documents without some dimension and the other for documents that hold null in it: a flat row shows
null for both. -/
theorem flat_rows_told_apart {settings : Settings} {presets : List Preset} {spec : QuerySpec}
    {now : Instant} {plan : Plan} (h : compile settings presets spec now = .ok plan) :
    ∃ filter, plan.pipeline.filter? = some filter ∧ ∀ docs rows : List Document,
      (∀ d ∈ docs, d.keys.Nodup) → plan.pipeline.run docs = .ok rows →
      plan.reshape rows = rows.map plan.flat ∧
        (rows.Pairwise fun a b => plan.SameKey (plan.flat a) (plan.flat b) →
          ∃ f ∈ plan.dimensions, f.MissingBesideNull (Record.keyOf a) (Record.keyOf b)) ∧
        ∀ row ∈ rows, ∃ d ∈ docs, filter.Passes d ∧ ∀ f ∈ plan.dimensions,
          (Record.keyOf row).get? f.text = d.get? f.text := by
  obtain ⟨p, hparts, rfl⟩ := parts_of_compile h
  have hp := parts_sound hparts
  refine ⟨p.filter settings.encoding, rfl, fun docs rows hdocs hrows => ?_⟩
  obtain ⟨kept, hkept⟩ : ∃ kept, kept = (p.filter settings.encoding).kept docs := ⟨_, rfl⟩
  have hread := Parts.readable_of_run hp hdocs hrows
  rw [← hkept] at hread
  rw [Parts.run_plan_grouped hp hkept hdocs hread] at hrows
  cases hrows
  have hkey (d : Document) {f : FieldName} (hf : f ∈ p.dimensions) :
      (Record.keyOf (spec.groupedRow settings kept (spec.classOf settings d))).get? f.text =
        d.get? f.text := by
    rw [QuerySpec.keyOf_groupedRow, QuerySpec.get?_key hp d hf]
  have hflat {d : Document} (hd : d ∈ kept) :
      (p.plan spec settings.encoding).flat
        (spec.groupedRow settings kept (spec.classOf settings d)) =
        spec.rowOf settings kept (spec.classOf settings d) :=
    QuerySpec.ofRow_groupedRow hp kept (hread d hd)
  refine ⟨rfl, ?_, fun row hrow => ?_⟩
  · refine List.Pairwise.sublist (QuerySpec.limited_sublist _ _) (List.pairwise_map.2 ?_)
    refine List.Pairwise.imp_of_mem ?_ (QuerySpec.nodup_orderedClasses kept)
    intro a b ha hb hne hsame
    obtain ⟨d, hd, rfl⟩ := QuerySpec.mem_orderedClasses.1 ha
    obtain ⟨e, he, rfl⟩ := QuerySpec.mem_orderedClasses.1 hb
    rw [hflat hd, hflat he] at hsame
    obtain ⟨f, hf, happart⟩ :=
      QuerySpec.missing_beside_null hp (hread d hd) (hread e he) hne hsame
    refine ⟨f, hf, ?_⟩
    rw [FieldName.MissingBesideNull, hkey d hf, hkey e hf]
    exact happart
  · obtain ⟨c, hc, rfl⟩ := List.mem_map.1 ((QuerySpec.limited_sublist _ _).subset hrow)
    obtain ⟨d, hd, rfl⟩ := QuerySpec.mem_orderedClasses.1 hc
    rw [hkept] at hd
    obtain ⟨hmem, hpasses⟩ := Filter.mem_kept.1 hd
    exact ⟨d, hmem, hpasses, fun f hf => hkey d hf⟩

def countByRegion : QuerySpec where
  ns := "events"
  range := none
  dimensions := [⟨"region", none, none⟩]
  measures := [⟨"count", none, none⟩]
  granularity := .all
  limit := none
  timestampField := none
  debug := false

def strays : List Document :=
  [[("ts", .object [("$date", .string "2024-03-01T00:00:00.000Z")]), ("region", .null)],
    [("ts", .object [("$date", .string "2024-03-01T00:00:00.000Z")])]]

def strayRows : List Document :=
  [[("_id", .object [("region", .null)]), ("count", .int 1)],
    [("_id", .object []), ("count", .int 1)]]

theorem run_strays :
    ∃ plan, compile Settings.standard [] countByRegion .epoch = .ok plan ∧
      plan.pipeline.run strays = .ok strayRows ∧
      plan.SameKey (plan.flat strayRows[0]) (plan.flat strayRows[1]) := by
  have hrun : (compile Settings.standard [] countByRegion .epoch).toOption.map
      (fun plan => ((plan.pipeline.run strays).toOption,
        decide (plan.SameKey (plan.flat strayRows[0]) (plan.flat strayRows[1])))) =
      some (some strayRows, true) := by decide +kernel
  obtain ⟨plan, hplan, hpair⟩ := eq_ok_of_toOption hrun
  obtain ⟨hrows, hsame⟩ := Prod.mk.inj hpair
  exact ⟨plan, hplan, ok_of_toOption hrows, of_decide_eq_true hsame⟩

theorem flat_rows_told_apart_strays :
    ∃ plan, compile Settings.standard [] countByRegion .epoch = .ok plan ∧
      (∀ d ∈ strays, d.keys.Nodup) ∧ plan.pipeline.run strays = .ok strayRows ∧
      ∃ f ∈ plan.dimensions, f.MissingBesideNull (Record.keyOf strayRows[0])
        (Record.keyOf strayRows[1]) := by
  obtain ⟨plan, hplan, hrows, hsame⟩ := run_strays
  obtain ⟨filter, -, hdocs⟩ := flat_rows_told_apart hplan
  have hnodup : ∀ d ∈ strays, d.keys.Nodup := by decide
  obtain ⟨-, hpairs, -⟩ := hdocs strays strayRows hnodup hrows
  have hpair := (List.pairwise_cons.1 hpairs).1 strayRows[1] (List.mem_singleton.2 rfl)
  exact ⟨plan, hplan, hnodup, hrows, hpair hsame⟩

/-- Either stray makes a row that counts one document of the region null. -/
theorem flat_rows_of_strays_agree :
    ∃ plan rows, compile Settings.standard [] countByRegion .epoch = .ok plan ∧
      plan.pipeline.run strays = .ok rows ∧
      ¬ (plan.reshape rows).Pairwise fun a b => ¬ plan.SameKey a b := by
  obtain ⟨plan, hplan, hrows, hsame⟩ := run_strays
  refine ⟨plan, strayRows, hplan, hrows, fun hpairs => ?_⟩
  exact (List.pairwise_cons.1 hpairs).1 _ (List.mem_singleton.2 rfl) hsame

end Plan

end EventRollup
