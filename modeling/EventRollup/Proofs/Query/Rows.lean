import EventRollup.Proofs.Query.Flattening

namespace EventRollup

namespace QuerySpec

variable {settings : Settings} {spec : QuerySpec} {p : Plan.Parts}

/-- The outputs of a compiled query come to what its measures mean. -/
theorem outputs_eq_totals (hp : p.Sound settings spec) (docs : List Document) :
    (p.outputs.map fun o => (o.field.text, (Grouping.tally o.accumulator docs).result)) =
      spec.totals settings docs := by
  let total (x : String × AggregateOperator × Bool) : String × Json :=
    (x.1, if x.2.2 then (docs.foldl (fun t _ => t.feed (some (.int 1))) (Tally.start .sum)).result
      else (docs.foldl (fun t d => t.feed (d.get? x.1)) (Tally.start x.2.1)).result)
  have houtputs : (p.outputs.map fun o =>
      (o.field.text, (Grouping.tally o.accumulator docs).result)) =
      (p.outputs.map Plan.Output.told).map total := by
    rw [List.map_map]
    refine List.map_congr_left fun o _ => ?_
    rw [Plan.Output.accumulator]
    cases hc : o.counts <;> simp only [total, Function.comp_apply, Plan.Output.told, hc] <;> rfl
  have hmeasures : spec.totals settings docs = (spec.measures.map fun m =>
      (m.field, m.effective, m.field == settings.countMeasure)).map total := by
    rw [totals, List.map_map]
    refine List.map_congr_left fun m _ => ?_
    simp only [total, Function.comp_apply, measured, beq_iff_eq]
  rw [houtputs, hp.outputs_told, hmeasures]

theorem keys_totals (hp : p.Sound settings spec) (docs : List Document) :
    (spec.totals settings docs).keys = p.outputs.map fun o => o.field.text := by
  rw [← outputs_eq_totals hp, Document.keys, List.map_map]
  rfl

theorem nodup_totals (hp : p.Sound settings spec) (docs : List Document) :
    (spec.totals settings docs).keys.Nodup := by
  rw [keys_totals hp]
  exact FieldName.nodup_texts hp.outputs_nodup

def groupedRow (settings : Settings) (spec : QuerySpec) (docs : List Document) (c : DocumentClass) :
    Document :=
  (groupKey, .object (c.key spec.granularity)) ::
    spec.totals settings (spec.members settings docs c)

theorem nodup_groupedRow (hp : p.Sound settings spec) (docs : List Document) (c : DocumentClass) :
    ((spec.groupedRow settings docs c).map Prod.fst).Nodup := by
  rw [groupedRow, List.map_cons, List.nodup_cons]
  refine ⟨fun hmem => ?_, nodup_totals hp _⟩
  change groupKey ∈ (spec.totals settings (spec.members settings docs c)).keys at hmem
  rw [keys_totals hp] at hmem
  obtain ⟨o, -, ho⟩ := List.mem_map.1 hmem
  exact o.field.text_ne_groupKey ho

theorem zipWith_outputs (hp : p.Sound settings spec) (docs : List Document) :
    List.zipWith (fun (a : Accumulator) t => (a.output.text, Tally.result t))
      (p.outputs.map Plan.Output.accumulator) ((p.outputs.map Plan.Output.accumulator).map fun a =>
        Grouping.tally a docs) = spec.totals settings docs := by
  rw [← outputs_eq_totals hp, List.zipWith_map_right, List.zipWith_self, List.map_map]
  refine List.map_congr_left fun o _ => ?_
  rw [Function.comp_apply, o.output_accumulator]

theorem grouping_run (hp : p.Sound settings spec) {docs : List Document}
    (hread : ∀ d ∈ docs, spec.Readable settings d) :
    (Plan.grouping spec.granularity p.timestamp settings.encoding p.dimensions p.outputs).run docs =
      .ok ((spec.classes settings docs).map (spec.groupedRow settings docs)) := by
  have hgather := Grouping.gather_eq_classes
    (Plan.grouping spec.granularity p.timestamp settings.encoding p.dimensions p.outputs)
    (spec.classOf settings) (DocumentClass.key spec.granularity) docs
    (fun d hd => keyOf_eq hp (hread d hd))
    fun d hd e he h => key_injective (hread d hd) (hread e he) h
  rw [Grouping.run, hgather, Grouping.classBuckets]
  simp only [bind, Except.bind, List.map_map]
  refine congrArg Except.ok (List.map_congr_left fun c _ => ?_)
  rw [Function.comp_apply, Bucket.row, Grouping.bucketOf, Plan.grouping]
  dsimp only
  rw [zipWith_outputs hp]
  exact Document.ofEntries_of_nodup (nodup_groupedRow hp docs c)

theorem named_sortOrder {g : Granularity} (hg : g.isBinned = false) {ms : List Measure}
    {outs : List Plan.Output}
    (h : outs.map (·.field.text) = ms.map (·.field)) :
    (Plan.sortOrder g ms outs).named =
      ms.filterMap fun m => m.sort.map fun direction => (m.field, direction) := by
  rw [Plan.sortOrder, hg, if_neg (by decide), SortOrder.named]
  induction ms generalizing outs with
  | nil => rfl
  | cons m r ih =>
      cases outs with
      | nil => cases h
      | cons o s =>
          rw [List.map_cons, List.map_cons, List.cons.injEq] at h
          cases hs : m.sort with
          | none =>
              simp only [List.zip_cons_cons, List.filterMap_cons, hs, Option.map_none]
              exact ih h.2
          | some direction =>
              simp only [List.zip_cons_cons, List.filterMap_cons, hs, Option.map_some,
                List.map_cons, ← h.1]
              rw [← ih h.2]
              rfl

theorem named_sorting (hp : p.Sound settings spec) (hg : spec.granularity.isBinned = false) :
    (p.sorting spec).named = spec.sortedBy :=
  named_sortOrder hg (outputs_text hp)

theorem names_sortedBy (spec : QuerySpec) :
    (spec.sortedBy.map Prod.fst).Sublist (spec.measures.map (·.field)) := by
  rw [sortedBy]
  induction spec.measures with
  | nil => exact .slnil
  | cons m r ih =>
      cases hs : m.sort with
      | none => simpa [hs] using ih.cons m.field
      | some direction => simpa [hs] using ih

theorem compareBy_cons {keys : List (String × SortDirection)} {name : String}
    (h : ∀ k ∈ keys, k.1 ≠ name) (v w : Json) (a b : Document) :
    Document.compareBy keys ((name, v) :: a) ((name, w) :: b) = Document.compareBy keys a b := by
  induction keys with
  | nil => rfl
  | cons k r ih =>
      obtain ⟨hk, hr⟩ := List.forall_mem_cons.1 h
      rw [Document.compareBy, Document.compareBy, Document.get?, Document.get?,
        if_neg fun he => hk he.symm, if_neg fun he => hk he.symm, ih hr]

theorem compareBy_groupedRow (hp : p.Sound settings spec) {docs : List Document}
    (hread : ∀ d ∈ docs, spec.Readable settings d) {a b : DocumentClass}
    (ha : a ∈ spec.classes settings docs) (hb : b ∈ spec.classes settings docs) :
    Document.compareBy (p.sorting spec).named (spec.groupedRow settings docs a)
        (spec.groupedRow settings docs b) = spec.compareClasses settings docs a b := by
  cases hg : spec.granularity.isBinned with
  | true =>
      obtain ⟨d, hd, rfl⟩ := List.mem_map.1 (List.mem_eraseDups.1 ha)
      obtain ⟨e, he, rfl⟩ := List.mem_map.1 (List.mem_eraseDups.1 hb)
      have hnamed : (p.sorting spec).named = [(groupKey, .ascending)] := by
        rw [Plan.Parts.sorting, Plan.sortOrder, hg, if_pos rfl]
        rfl
      have hget (c : DocumentClass) : (spec.groupedRow settings docs c).get? groupKey =
          some (.object (c.key spec.granularity)) := if_pos rfl
      rw [hnamed, compareClasses, hg, if_pos rfl, ← compare_key hg (hread d hd) (hread e he),
        Document.compareBy, Document.compareBy, hget, hget]
      exact Ordering.then_eq
  | false =>
      have hnames : ∀ k ∈ spec.sortedBy, k.1 ≠ groupKey := by
        intro k hk he
        have hmem := spec.names_sortedBy.subset (List.mem_map.2 ⟨k, hk, he⟩)
        rw [← outputs_text hp] at hmem
        obtain ⟨o, -, ho⟩ := List.mem_map.1 hmem
        exact o.field.text_ne_groupKey ho
      rw [named_sorting hp hg, compareClasses, hg, if_neg (by decide)]
      exact compareBy_cons hnames _ _ _ _

theorem sortBy_groupedRows (hp : p.Sound settings spec) {docs : List Document}
    (hread : ∀ d ∈ docs, spec.Readable settings d) :
    Document.sortBy (p.sorting spec).named
        ((spec.classes settings docs).map (spec.groupedRow settings docs)) =
      (spec.orderedClasses settings docs).map (spec.groupedRow settings docs) := by
  rw [Document.sortBy, orderedClasses, List.map_mergeSort]
  intro a ha b hb
  rw [compareBy_groupedRow hp hread ha hb]

theorem runStages_append (a b : List Stage) (docs : List Document) :
    runStages (a ++ b) docs = (runStages a docs).bind (runStages b) := by
  induction a generalizing docs with
  | nil => rfl
  | cons s r ih =>
      rw [List.cons_append, runStages, runStages]
      cases s.run docs with
      | error e => rfl
      | ok rows => exact ih rows

theorem run_of_take {pipeline : Pipeline} {n : Nat} {docs rows : List Document}
    (h : runStages (pipeline.stages.take n) docs = .ok rows) :
    pipeline.run docs = runStages (pipeline.stages.drop n) rows := by
  rw [Pipeline.run, ← List.take_append_drop n pipeline.stages, runStages_append, h,
    List.take_append_drop]
  rfl

theorem runStages_sort (s : SortOrder) (docs : List Document) :
    runStages (if s.keys.isEmpty then [] else [.sort s]) docs =
      .ok (Document.sortBy s.named docs) := by
  split
  · rename_i hempty
    have hnamed : s.named = [] := by
      rw [SortOrder.named, List.isEmpty_iff.1 hempty, List.map_nil]
    have hpairs : docs.Pairwise fun a b => (Document.compareBy [] a b).isLE = true := by
      rw [List.pairwise_iff_forall_sublist]
      exact fun _ => rfl
    rw [hnamed, Document.sortBy, List.mergeSort_of_pairwise hpairs, runStages]
  · rfl

theorem runStages_limit (limit : Option Nat) (docs : List Document) :
    runStages (Plan.limitStage limit) docs = .ok (limited (limit.filter (0 < ·)) docs) := by
  cases limit with
  | none => rfl
  | some n =>
      by_cases h : 0 < n
      · have hkept : (some n).filter (0 < ·) = some n := by simp [h]
        rw [Plan.limitStage, if_pos h, hkept]
        rfl
      · have hnone : (some n).filter (0 < ·) = none := by simpa using h
        rw [Plan.limitStage, if_neg h, hnone]
        rfl

theorem get?_dateParts {parts : List DatePart} (hparts : (parts.map (·.key)).Nodup) (t : Instant)
    {part : DatePart} (hpart : part ∈ parts) :
    Document.get? (parts.map fun p => (p.key, Json.int (p.extract t))) part.key =
      some (.int (part.extract t)) := by
  induction parts with
  | nil => cases hpart
  | cons q r ih =>
      obtain ⟨hq, hr⟩ := List.nodup_cons.1 hparts
      rw [List.map_cons, Document.get?]
      rcases List.mem_cons.1 hpart with rfl | hmem
      · rw [if_pos rfl]
      · have hne : ¬ q.key = part.key := fun he => hq (List.mem_map.2 ⟨part, hmem, he.symm⟩)
        rw [if_neg hne]
        exact ih hr hmem

theorem mapM_eq_some {α β : Type} {f : α → Option β} {g : α → β} {l : List α}
    (h : ∀ a ∈ l, f a = some (g a)) : l.mapM f = some (l.map g) := by
  induction l with
  | nil => rfl
  | cons a r ih =>
      obtain ⟨ha, hr⟩ := List.forall_mem_cons.1 h
      rw [List.mapM_cons, ha, ih hr]
      rfl

/-- The calendar parts of a key name the bucket of its class. -/
theorem bucketOf?_key (hg : spec.granularity.isBinned = true) {d : Document} {t : Instant}
    (ht : spec.timeOf settings d = some t) :
    Record.bucketOf? spec.granularity ((spec.classOf settings d).key spec.granularity) =
      some (spec.granularity.truncate t) := by
  have hget : ∀ part ∈ spec.granularity.dateParts,
      Record.partOf? ((spec.classOf settings d).key spec.granularity) part =
        some (part.extract (spec.granularity.truncate t)) := by
    intro part hpart
    rw [Record.partOf?, DocumentClass.key, bucket_classOf hg ht, Option.elim_some,
      Document.get?_append, get?_dateParts spec.granularity.nodup_keys _ hpart]
    rfl
  have hparts : spec.granularity.dateParts.mapM
      (Record.partOf? ((spec.classOf settings d).key spec.granularity)) =
      some (spec.granularity.partsOf (spec.granularity.truncate t)) := mapM_eq_some hget
  rw [Record.bucketOf?, hparts, Option.bind_some, Granularity.partsOf_truncate hg,
    Granularity.bucketStart?_eq hg]

theorem get?_key (hp : p.Sound settings spec) (d : Document) {f : FieldName}
    (hf : f ∈ p.dimensions) :
    ((spec.classOf settings d).key spec.granularity).get? f.text = d.get? f.text := by
  have hname : f.text ∈ spec.dimensionNames := by
    rw [dimensionNames, ← hp.dimensions_text]
    exact List.mem_map.2 ⟨f, hf, rfl⟩
  have hparts : Document.get? ((spec.classOf settings d).bucket.elim [] fun t =>
      spec.granularity.dateParts.map fun part => (part.key, .int (part.extract t))) f.text =
      none := by
    rw [Document.get?_eq_none_iff]
    cases (spec.classOf settings d).bucket with
    | none => exact List.not_mem_nil
    | some t =>
        rw [Option.elim_some, Document.keys, List.map_map]
        intro hmem
        exact (List.nodup_append.1 (nodup_names hp)).2.2 f.text hmem f.text
          (List.mem_map.2 ⟨f, hf, rfl⟩) rfl
  rw [DocumentClass.key, Document.get?_append, hparts, Option.none_or, present_classOf,
    get?_present, if_pos hname]

def added (settings : Settings) (spec : QuerySpec) (c : DocumentClass) : Document :=
  (c.bucket.map fun t => (spec.timestampName settings, settings.encoding.encode t)).toList ++
    c.values.map fun x => (x.1, x.2.getD .null)

theorem keys_added (hp : p.Sound settings spec) (d : Document) :
    (spec.added settings (spec.classOf settings d)).map Prod.fst =
      (if spec.granularity.isBinned ∧ (spec.timeOf settings d).isSome then [p.timestamp.text]
        else []) ++ p.dimensions.map (·.text) := by
  have hdims : (spec.classOf settings d).values.map (fun x => x.1) =
      p.dimensions.map (·.text) := by
    rw [hp.dimensions_text, classOf, List.map_map]
    exact List.map_id _
  rw [added, List.map_append, List.map_map, ← hdims, hp.timestamp_text]
  congr 1
  cases hg : spec.granularity.isBinned with
  | false =>
      rw [bucket_classOf_unbinned hg]
      simp
  | true =>
      cases ht : spec.timeOf settings d with
      | none => simp [classOf, hg, ht]
      | some t =>
          rw [bucket_classOf hg ht]
          simp [timestampName]

/-- The names in a row do not meet: they are of measures, of the timestamp where the query bins, and
of dimensions. -/
theorem nodup_rowOf (hp : p.Sound settings spec) (docs : List Document) (d : Document) :
    ((lastFirst (spec.totals settings docs)).keys ++
      (spec.added settings (spec.classOf settings d)).map Prod.fst).Nodup := by
  have hperm := (lastFirst_perm (spec.totals settings docs)).map Prod.fst
  have hmeasures : (spec.totals settings docs).keys = spec.measures.map (·.field) := by
    rw [keys_totals hp, outputs_text hp]
  have hshown : (if spec.granularity.isBinned ∧ (spec.timeOf settings d).isSome then
      [p.timestamp.text] else []).Sublist
      (if spec.granularity.isBinned then [p.timestamp.text] else []) := by
    split
    · rename_i hg
      rw [if_pos hg.1]
    · exact List.nil_sublist _
  rw [keys_added hp]
  refine List.Nodup.sublist ((hshown.append_right _).append_left _)
    (nodup_beside hp (hperm.nodup_iff.2 (nodup_totals hp docs)) ?_)
  intro name hname
  rw [← hmeasures]
  exact hperm.mem_iff.1 hname

theorem entriesOf_key (hp : p.Sound settings spec) {d : Document}
    (hd : spec.Readable settings d) :
    Record.entriesOf spec.granularity p.dimensions p.timestamp settings.encoding
        ((spec.classOf settings d).key spec.granularity) =
      spec.added settings (spec.classOf settings d) := by
  have hdims : (spec.classOf settings d).values =
      p.dimensions.map fun f => (f.text, d.get? f.text) := by
    have hnames : spec.dimensionNames = p.dimensions.map (·.text) := hp.dimensions_text.symm
    change spec.dimensionNames.map (fun name => (name, d.get? name)) = _
    rw [hnames, List.map_map]
    rfl
  rw [Record.entriesOf, added, hdims, List.map_map]
  congr 1
  · cases hg : spec.granularity.isBinned with
    | false =>
        rw [if_neg (by decide), bucket_classOf_unbinned hg]
        rfl
    | true =>
        obtain ⟨t, ht⟩ := hd hg
        rw [if_pos rfl, bucketOf?_key hg ht, bucket_classOf hg ht, hp.timestamp_text]
        rfl
  · refine List.map_congr_left fun f hf => ?_
    rw [Function.comp_apply, get?_key hp d hf]

theorem keyOf_groupedRow (docs : List Document) (c : DocumentClass) :
    Record.keyOf (spec.groupedRow settings docs c) = c.key spec.granularity := by
  rw [Record.keyOf, groupedRow, Document.get?, if_pos rfl]

theorem ofRow_groupedRow (hp : p.Sound settings spec) (docs : List Document) {d : Document}
    (hd : spec.Readable settings d) :
    Record.ofRow spec.granularity p.dimensions p.timestamp settings.encoding
        (spec.groupedRow settings docs (spec.classOf settings d)) =
      spec.rowOf settings docs (spec.classOf settings d) := by
  have herase (c : DocumentClass) : (spec.groupedRow settings docs c).erase groupKey =
      lastFirst (spec.totals settings (spec.members settings docs c)) := by
    rw [groupedRow, Document.erase, if_pos rfl, lastFirst]
    cases (spec.totals settings (spec.members settings docs c)).getLast? <;> rfl
  rw [Record.ofRow_eq_append, keyOf_groupedRow, herase, entriesOf_key hp hd, rowOf,
    List.append_assoc]
  · rfl
  · rw [keyOf_groupedRow, herase, entriesOf_key hp hd]
    exact nodup_rowOf hp _ d

end QuerySpec

end EventRollup
