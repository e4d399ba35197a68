import EventRollup.Proofs.Query.Keys
import Mathlib.Data.List.Forall2

namespace EventRollup

theorem Document.keys_erase_perm (d : Document) (name : String) :
    (d.erase name).keys.Perm (d.keys.erase name) := by
  have hkeys : d.keys.erase name = (d.eraseP fun e => e.1 = name).map Prod.fst := by
    rw [keys, List.erase_eq_eraseP', List.eraseP_map]
    rfl
  rw [hkeys]
  exact (erase_perm d name).map Prod.fst

namespace Record

def entriesOf (g : Granularity) (dimensions : List FieldName) (field : FieldName)
    (encoding : DateEncoding) (key : Document) : Document :=
  (if g.isBinned then [(field.text, (bucketOf? g key).elim .null encoding.encode)] else []) ++
    dimensions.map fun f => (f.text, (key.get? f.text).getD .null)

variable {g : Granularity} {dimensions : List FieldName} {field : FieldName}
  {encoding : DateEncoding}

theorem keys_entriesOf (key : Document) : (entriesOf g dimensions field encoding key).keys =
    (if g.isBinned then [field.text] else []) ++ dimensions.map (·.text) := by
  rw [entriesOf, Document.keys, List.map_append, List.map_map]
  cases g.isBinned <;> rfl

theorem get?_groupKey_entriesOf (key : Document) :
    (entriesOf g dimensions field encoding key).get? groupKey = none := by
  rw [Document.get?_eq_none_iff, keys_entriesOf, List.mem_append, not_or]
  constructor
  · cases g.isBinned with
    | false => exact List.not_mem_nil
    | true => exact fun h => field.text_ne_groupKey (List.mem_singleton.1 h).symm
  · intro h
    obtain ⟨f, -, hf⟩ := List.mem_map.1 h
    exact f.text_ne_groupKey hf

theorem ofRow_eq_append {row : Document} (h : ((row.erase groupKey).keys ++
      (entriesOf g dimensions field encoding (keyOf row)).keys).Nodup) :
    ofRow g dimensions field encoding row =
      row.erase groupKey ++ entriesOf g dimensions field encoding (keyOf row) := by
  have htimestamp : addTimestamp g field encoding (keyOf row) (row.erase groupKey) =
      (if g.isBinned then [(field.text, (bucketOf? g (keyOf row)).elim .null encoding.encode)]
        else []).foldl (fun d e => Document.insert d e.1 e.2) (row.erase groupKey) := by
    rw [addTimestamp]
    cases g.isBinned <;> rfl
  have hentries := Document.foldl_insert h
  rw [entriesOf, List.foldl_append, List.foldl_map, ← htimestamp] at hentries
  exact hentries

end Record

namespace QuerySpec

variable {settings : Settings} {spec : QuerySpec} {p : Plan.Parts}

theorem outputs_text (hp : p.Sound settings spec) :
    p.outputs.map (·.field.text) = spec.measures.map (·.field) := by
  have htold := congrArg (List.map Prod.fst) hp.outputs_told
  rw [List.map_map, List.map_map] at htold
  exact htold

theorem nodup_beside (hp : p.Sound settings spec) {names : List String} (h : names.Nodup)
    (hnames : names ⊆ spec.measures.map (·.field)) :
    (names ++ ((if spec.granularity.isBinned then [p.timestamp.text] else []) ++
      p.dimensions.map (·.text))).Nodup := by
  have hbinned {a : String} (ha : a ∈ if spec.granularity.isBinned then [p.timestamp.text] else []) :
      spec.granularity.isBinned = true ∧ a = p.timestamp.text := by
    split at ha
    · rename_i hg
      exact ⟨hg, List.mem_singleton.1 ha⟩
    · cases ha
  refine List.nodup_append.2 ⟨h,
    List.nodup_append.2 ⟨?_, (List.nodup_append.1 (nodup_names hp)).2.1, ?_⟩, ?_⟩
  · split <;> simp
  · intro a ha b hb he
    obtain ⟨hg, rfl⟩ := hbinned ha
    obtain ⟨f, hf, rfl⟩ := List.mem_map.1 hb
    exact (hp.dimensions_beside hg f hf).1 (FieldName.text_injective he.symm)
  · intro a ha b hb he
    have hmem := hnames ha
    rw [← outputs_text hp] at hmem
    obtain ⟨o, ho, rfl⟩ := List.mem_map.1 hmem
    obtain ⟨hdims, htimestamp⟩ := hp.outputs_beside o ho
    rcases List.mem_append.1 hb with hts | hdim
    · obtain ⟨hg, rfl⟩ := hbinned hts
      exact htimestamp hg (FieldName.text_injective he)
    · obtain ⟨f, hf, rfl⟩ := List.mem_map.1 hdim
      exact hdims (FieldName.text_injective he ▸ hf)

/-- A row as the store may return it for a query: a key, in which there may be anything, and values,
which may be any, of some of the measures. -/
structure GroupedRow (spec : QuerySpec) (row : Document) : Prop where
  nodup : row.keys.Nodup
  keyed : ∃ key, row.get? groupKey = some (.object key)
  measured : row.keys.erase groupKey ⊆ spec.measures.map (·.field)

def flatNames (settings : Settings) (spec : QuerySpec) (row : Document) : List String :=
  row.keys.erase groupKey ++
    ((if spec.granularity.isBinned then [spec.timestampName settings] else []) ++
      spec.dimensionNames)

/-- A flat row beside the row it is made of, which has a given key. No two of its names are the same:
a measure is no dimension, and neither is the timestamp. -/
structure FlatRow (settings : Settings) (spec : QuerySpec) (row key flat : Document) : Prop where
  names : flat.keys.Perm (spec.flatNames settings row)
  apart : (spec.flatNames settings row).Nodup
  measures : ∀ name ∈ row.keys, name ≠ groupKey → flat.get? name = row.get? name
  timestamp : spec.granularity.isBinned = true → flat.get? (spec.timestampName settings) =
    some ((Record.bucketOf? spec.granularity key).elim .null settings.encoding.encode)
  dimensions : ∀ name ∈ spec.dimensionNames, flat.get? name = some ((key.get? name).getD .null)
  keyless : flat.get? groupKey = none

theorem flatNames_eq (hp : p.Sound settings spec) (row : Document) :
    spec.flatNames settings row = row.keys.erase groupKey ++
      ((if spec.granularity.isBinned then [p.timestamp.text] else []) ++
        p.dimensions.map (·.text)) := by
  rw [flatNames, hp.timestamp_text, hp.dimensions_text]
  rfl

theorem nodup_flatNames (hp : p.Sound settings spec) {row : Document}
    (hrow : spec.GroupedRow row) : (spec.flatNames settings row).Nodup := by
  rw [flatNames_eq hp]
  exact nodup_beside hp (hrow.nodup.erase groupKey) hrow.measured

theorem keys_append_entriesOf (hp : p.Sound settings spec) (row key : Document) :
    ((row.erase groupKey).keys ++ (Record.entriesOf spec.granularity p.dimensions p.timestamp
      settings.encoding key).keys).Perm (spec.flatNames settings row) := by
  rw [Record.keys_entriesOf, flatNames_eq hp]
  exact (row.keys_erase_perm groupKey).append_right _

theorem flatRow_ofRow (hp : p.Sound settings spec) {row key : Document}
    (hrow : spec.GroupedRow row) (hkey : row.get? groupKey = some (.object key)) :
    spec.FlatRow settings row key
      (Record.ofRow spec.granularity p.dimensions p.timestamp settings.encoding row) := by
  let added := Record.entriesOf spec.granularity p.dimensions p.timestamp settings.encoding key
  have hapart := nodup_flatNames hp hrow
  have hnames := keys_append_entriesOf hp row key
  have hflat : Record.ofRow spec.granularity p.dimensions p.timestamp settings.encoding row =
      row.erase groupKey ++ added := by
    have hkeyOf : Record.keyOf row = key := by rw [Record.keyOf, hkey]
    rw [Record.ofRow_eq_append, hkeyOf]
    rw [hkeyOf]
    exact hnames.nodup_iff.2 hapart
  have hkeys : (row.erase groupKey ++ added).keys.Perm (spec.flatNames settings row) := by
    rw [Document.keys, List.map_append]
    exact hnames
  have hget {name : String} {v : Json} (h : (name, v) ∈ added) :
      Document.get? (row.erase groupKey ++ added) name = some v :=
    Document.get?_of_mem (hkeys.nodup_iff.2 hapart) (List.mem_append_right _ h)
  rw [hflat]
  refine ⟨hkeys, hapart, fun name hname hne => ?_, fun hg => ?_, fun name hname => ?_, ?_⟩
  · obtain ⟨v, hv⟩ :=
      Option.ne_none_iff_exists'.1 (mt Document.get?_eq_none_iff.1 (not_not.2 hname))
    rw [Document.get?_append, Document.get?_erase hrow.nodup, if_neg hne.symm, hv, Option.some_or]
  · apply hget
    rw [timestampName, ← hp.timestamp_text]
    refine List.mem_append_left _ ?_
    rw [hg, if_pos rfl]
    exact List.mem_singleton.2 rfl
  · apply hget
    rw [dimensionNames, ← hp.dimensions_text] at hname
    obtain ⟨f, hf, rfl⟩ := List.mem_map.1 hname
    exact List.mem_append_right _ (List.mem_map.2 ⟨f, hf, rfl⟩)
  · rw [Document.get?_append, Document.get?_erase hrow.nodup, if_pos rfl, Option.none_or]
    exact Record.get?_groupKey_entriesOf key

end QuerySpec

namespace Plan

/-- Flattening the rows of a query keeps them in their order, one for one, and overwrites nothing in
them. -/
theorem reshape_overwrites_nothing {settings : Settings} {presets : List Preset} {spec : QuerySpec}
    {now : Instant} {plan : Plan} (h : compile settings presets spec now = .ok plan)
    {rows : List Document} (hrows : ∀ row ∈ rows, spec.GroupedRow row) :
    List.Forall₂ (fun row flat => ∀ key, row.get? groupKey = some (.object key) →
      spec.FlatRow settings row key flat) rows (plan.reshape rows) := by
  obtain ⟨p, hp, rfl⟩ := parts_of_compile h
  rw [reshape, List.forall₂_map_right_iff, List.forall₂_same]
  intro row hrow key hkey
  exact QuerySpec.flatRow_ofRow (parts_sound hp) (hrows row hrow) hkey

def dailyLoads : QuerySpec where
  ns := "events"
  range := none
  dimensions := [⟨"host", none, none⟩, ⟨"region", none, none⟩, ⟨"host", none, none⟩]
  measures := [⟨"load", some .max, none⟩, ⟨"year", none, none⟩, ⟨"count", none, none⟩]
  granularity := .day
  limit := none
  timestampField := some "at"
  debug := false

def dayKey (day : Int) : Document :=
  [("day", .int day), ("load", .int 9), ("month", .int 2), ("host", .array [.null]),
    ("year", .int 2024)]

def dayRows : List Document :=
  [[("count", .int 2), ("_id", .object (dayKey 29)), ("year", .object []),
      ("load", .string "high")],
    [("_id", .object (dayKey 30))]]

def flatDays : List Document :=
  [[("count", .int 2), ("load", .string "high"), ("year", .object []),
      ("at", .object [("$date", .string "2024-02-29T00:00:00.000Z")]),
      ("host", .array [.null]), ("region", .null)],
    [("at", .null), ("host", .array [.null]), ("region", .null)]]

theorem reshape_overwrites_nothing_days :
    ∃ plan, compile .standard [] dailyLoads .epoch = .ok plan ∧ plan.reshape dayRows = flatDays ∧
      (∀ row ∈ dayRows, dailyLoads.GroupedRow row) ∧
      List.Forall₂ (fun row flat => ∀ key, row.get? groupKey = some (.object key) →
        dailyLoads.FlatRow .standard row key flat) dayRows flatDays := by
  have hcompiled : (compile .standard [] dailyLoads .epoch).toOption.map
      (fun plan => plan.reshape dayRows) = some flatDays := by decide +kernel
  obtain ⟨plan, hplan, hflat⟩ := eq_ok_of_toOption hcompiled
  have hrows : ∀ row ∈ dayRows, dailyLoads.GroupedRow row := by
    refine List.forall_mem_cons.2 ⟨⟨by decide, ⟨dayKey 29, rfl⟩, by decide⟩,
      List.forall_mem_cons.2 ⟨⟨by decide, ⟨dayKey 30, rfl⟩, by decide⟩, fun _ h => ?_⟩⟩
    cases h
  have hfaithful := reshape_overwrites_nothing hplan hrows
  rw [hflat] at hfaithful
  exact ⟨plan, hplan, hflat, hrows, hfaithful⟩

end Plan

end EventRollup
