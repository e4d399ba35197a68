import EventRollup.Proofs.Query.Failure

namespace EventRollup

namespace QuerySpec

variable {settings : Settings} {spec : QuerySpec} {p : Plan.Parts}

theorem mem_orderedClasses {docs : List Document} {c : DocumentClass} :
    c ∈ spec.orderedClasses settings docs ↔ ∃ d ∈ docs, spec.classOf settings d = c := by
  rw [orderedClasses, List.mem_mergeSort, classes, List.mem_eraseDups, List.mem_map]

theorem nodup_orderedClasses (docs : List Document) :
    (spec.orderedClasses settings docs).Nodup :=
  (List.mergeSort_perm _ _).nodup_iff.2 (nodup_eraseDups _)

theorem nodup_keys_rowOf (hp : p.Sound settings spec) (docs : List Document) (d : Document) :
    (spec.rowOf settings docs (spec.classOf settings d)).keys.Nodup := by
  have hnames := nodup_rowOf hp (spec.members settings docs (spec.classOf settings d)) d
  rw [added] at hnames
  rw [rowOf, Document.keys, List.append_assoc, List.map_append]
  exact hnames

def bucketOf? (settings : Settings) (spec : QuerySpec) (row : Document) : Option Instant :=
  (row.get? (spec.timestampName settings)).bind settings.encoding.written?

theorem get?_rowOf_timestamp (hp : p.Sound settings spec) (hg : spec.granularity.isBinned = true)
    (docs : List Document) {d : Document} {t : Instant} (ht : spec.timeOf settings d = some t) :
    (spec.rowOf settings docs (spec.classOf settings d)).get? (spec.timestampName settings) =
      some (settings.encoding.encode (spec.granularity.truncate t)) := by
  refine Document.get?_of_mem (nodup_keys_rowOf hp docs d) ?_
  rw [rowOf, bucket_classOf hg ht]
  exact List.mem_append_left _ (List.mem_append_right _ (List.mem_singleton.2 rfl))

theorem bucketOf?_rowOf (hp : p.Sound settings spec) (hg : spec.granularity.isBinned = true)
    (docs : List Document) {d : Document} {t : Instant} (ht : spec.timeOf settings d = some t) :
    spec.bucketOf? settings (spec.rowOf settings docs (spec.classOf settings d)) =
      some (spec.granularity.truncate t) := by
  rw [bucketOf?, get?_rowOf_timestamp hp hg docs ht, Option.bind_some,
    DateEncoding.written?_encode, Granularity.toMillis_truncate hg]

theorem get?_rowOf_dimension (hp : p.Sound settings spec) (docs : List Document) (d : Document)
    {x : Dimension} (hx : x ∈ spec.dimensions) :
    (spec.rowOf settings docs (spec.classOf settings d)).get? x.field =
      some ((d.get? x.field).getD .null) := by
  have hname : x.field ∈ spec.dimensionNames := List.mem_eraseDups.2 (List.mem_map.2 ⟨x, hx, rfl⟩)
  refine Document.get?_of_mem (nodup_keys_rowOf hp docs d) (List.mem_append_right _ ?_)
  exact List.mem_map.2 ⟨(x.field, d.get? x.field), List.mem_map.2 ⟨x.field, hname, rfl⟩, rfl⟩

theorem get?_rowOf_measure (hp : p.Sound settings spec) (docs : List Document) (d : Document)
    {m : Measure} (hm : m ∈ spec.measures) :
    (spec.rowOf settings docs (spec.classOf settings d)).get? m.field =
      some (measured settings m (spec.members settings docs (spec.classOf settings d))) := by
  refine Document.get?_of_mem (nodup_keys_rowOf hp docs d)
    (List.mem_append_left _ (List.mem_append_left _ ?_))
  exact (lastFirst_perm _).mem_iff.2 (List.mem_map.2 ⟨m, hm, rfl⟩)

theorem rows_unlimited (hlimit : spec.limit.getD 0 = 0) (docs : List Document) :
    spec.rows settings docs =
      (spec.orderedClasses settings docs).map (spec.rowOf settings docs) := by
  have hall : spec.limit.filter (0 < ·) = none := by
    cases hl : spec.limit with
    | none => rfl
    | some n =>
        rw [hl, Option.getD_some] at hlimit
        rw [hlimit]
        rfl
  rw [rows, hall, limited]

end QuerySpec

end EventRollup
