import EventRollup.Proofs.Pipeline.Parts
import EventRollup.Proofs.Query.Meaning
import EventRollup.Proofs.Store.Documents
import EventRollup.Proofs.Time.Bucket

namespace EventRollup

namespace DocumentClass

def key (g : Granularity) (c : DocumentClass) : Document :=
  (c.bucket.elim [] fun t => g.dateParts.map fun p => (p.key, .int (p.extract t))) ++ c.present

end DocumentClass

def KeyExpr.valueAt (t : Instant) (d : Document) : KeyExpr → Option Json
  | .datePart part _ _ => some (.int (part.extract t))
  | .field source => d.get? source.text

theorem Grouping.keyFrom_eq {d : Document} {t : Instant} {l : List (String × KeyExpr)}
    {key : Document} (hvalue : ∀ k ∈ l, k.2.ofDocument d = .ok (k.2.valueAt t d))
    (h : (key.keys ++ l.map Prod.fst).Nodup) :
    keyFrom d l key = .ok (key ++ l.filterMap fun k => (k.2.valueAt t d).map (k.1, ·)) := by
  induction l generalizing key with
  | nil => rw [keyFrom, List.filterMap_nil, List.append_nil]
  | cons k r ih =>
      obtain ⟨hk, hr⟩ := List.forall_mem_cons.1 hvalue
      obtain ⟨name, e⟩ := k
      rw [keyFrom, hk]
      simp only [bind, Except.bind]
      cases hv : e.valueAt t d with
      | none =>
          have hrest : (key.keys ++ r.map Prod.fst).Nodup :=
            h.sublist ((List.sublist_cons_self name (r.map Prod.fst)).append_left key.keys)
          rw [List.filterMap_cons_none (by rw [hv, Option.map_none]), ← ih hr hrest]
      | some v =>
          have hnew : name ∉ key.keys := fun hmem =>
            (List.nodup_append.1 h).2.2 name hmem name (List.mem_cons_self ..) rfl
          have hkeys : Document.keys (key ++ [(name, v)]) ++ r.map Prod.fst =
              key.keys ++ ((name, e) :: r).map Prod.fst := by
            simp [Document.keys]
          have hrest := ih hr (hkeys ▸ h)
          rw [List.append_assoc, List.singleton_append] at hrest
          rw [List.filterMap_cons_some (by rw [hv, Option.map_some])]
          dsimp only
          rw [Document.insert_of_not_mem hnew, hrest]

namespace Granularity

theorem dateParts_unbinned {g : Granularity} (h : g.isBinned = false) : g.dateParts = [] := by
  cases g with
  | all => rfl
  | _ => cases h

theorem isBinned_of_mem {g : Granularity} {part : DatePart} (h : part ∈ g.dateParts) :
    g.isBinned = true := by
  cases g with
  | all => cases h
  | _ => rfl

theorem nodup_keys (g : Granularity) : (g.dateParts.map (·.key)).Nodup := by
  cases g <;> decide

theorem parts_truncate {g : Granularity} (hg : g.isBinned = true) (t : Instant) :
    (g.dateParts.map fun p => (p.key, Json.int (p.extract t))) =
      g.dateParts.map fun p => (p.key, Json.int (p.extract (g.truncate t))) := by
  have hparts := partsOf_truncate hg t
  rw [partsOf, partsOf, List.map_inj_left] at hparts
  refine List.map_congr_left fun p hp => ?_
  rw [hparts p hp]

end Granularity

namespace QuerySpec

variable {settings : Settings} {spec : QuerySpec} {p : Plan.Parts}

/-- A document that a binned query can place in time; any will do for the others. -/
def Readable (settings : Settings) (spec : QuerySpec) (d : Document) : Prop :=
  spec.granularity.isBinned = true → ∃ t, spec.timeOf settings d = some t

theorem bucket_classOf (hg : spec.granularity.isBinned = true) {d : Document} {t : Instant}
    (ht : spec.timeOf settings d = some t) :
    (spec.classOf settings d).bucket = some (spec.granularity.truncate t) := by
  rw [classOf, hg, if_pos rfl, ht, Option.map_some]

theorem bucket_classOf_unbinned (hg : spec.granularity.isBinned = false) (d : Document) :
    (spec.classOf settings d).bucket = none := by
  rw [classOf, hg, if_neg (by decide)]

theorem present_classOf (settings : Settings) (spec : QuerySpec) (d : Document) :
    (spec.classOf settings d).present =
      spec.dimensionNames.filterMap fun name => (d.get? name).map (name, ·) := by
  rw [DocumentClass.present, classOf, List.filterMap_map]
  rfl

theorem nodup_names (hp : p.Sound settings spec) :
    ((spec.granularity.dateParts.map fun part => part.key) ++
      p.dimensions.map fun f => f.text).Nodup := by
  have hdims : (p.dimensions.map fun f => f.text).Nodup := by
    rw [hp.dimensions_text]
    exact nodup_eraseDups _
  refine List.nodup_append.2 ⟨spec.granularity.nodup_keys, hdims, fun a ha b hb he => ?_⟩
  obtain ⟨f, hf, rfl⟩ := List.mem_map.1 hb
  obtain ⟨part, hpart, -⟩ := List.mem_map.1 ha
  exact (hp.dimensions_beside (Granularity.isBinned_of_mem hpart) f hf).2 (he ▸ ha)

theorem readInstant_of_timeOf {d : Document} {t : Instant}
    (h : spec.timeOf settings d = some t) :
    readInstant (settings.encoding == .string) (d.get? (spec.timestampName settings)) = .ok t := by
  rw [timeOf] at h
  cases hv : d.get? (spec.timestampName settings) with
  | none =>
      rw [hv] at h
      cases h
  | some v =>
      rw [hv, Option.bind_some] at h
      exact readInstant_eq_ok_iff.2 h

theorem parts_valueAt (settings : Settings) (spec : QuerySpec) (timestamp : FieldName) {d : Document}
    {t : Instant} (ht : spec.granularity.isBinned = true → spec.timeOf settings d = some t) :
    (spec.granularity.dateParts.map fun part =>
        (part.key, KeyExpr.datePart part timestamp (settings.encoding == .string))).filterMap
      (fun k => (k.2.valueAt t d).map (k.1, ·)) =
    (spec.classOf settings d).bucket.elim [] fun t =>
      spec.granularity.dateParts.map fun part => (part.key, .int (part.extract t)) := by
  have hall : spec.granularity.dateParts.filterMap ((fun k : String × KeyExpr =>
      (k.2.valueAt t d).map (k.1, ·)) ∘ fun part =>
      (part.key, KeyExpr.datePart part timestamp (settings.encoding == .string))) =
      spec.granularity.dateParts.map fun part => (part.key, .int (part.extract t)) :=
    congrFun List.filterMap_eq_map _
  rw [List.filterMap_map, hall]
  cases hg : spec.granularity.isBinned with
  | true => rw [bucket_classOf hg (ht hg), Option.elim_some, Granularity.parts_truncate hg]
  | false =>
      rw [bucket_classOf_unbinned hg, Option.elim_none, Granularity.dateParts_unbinned hg,
        List.map_nil]

theorem keyOf_eq (hp : p.Sound settings spec) {d : Document} (hd : spec.Readable settings d) :
    (Plan.grouping spec.granularity p.timestamp settings.encoding p.dimensions p.outputs).keyOf d =
      .ok ((spec.classOf settings d).key spec.granularity) := by
  obtain ⟨t, ht⟩ : ∃ t, spec.granularity.isBinned = true → spec.timeOf settings d = some t := by
    by_cases hg : spec.granularity.isBinned = true
    · obtain ⟨t, ht⟩ := hd hg
      exact ⟨t, fun _ => ht⟩
    · exact ⟨.epoch, fun h => absurd h hg⟩
  have hdims : (p.dimensions.map fun f => (f.text, KeyExpr.field f)).filterMap
      (fun k => (k.2.valueAt t d).map (k.1, ·)) = (spec.classOf settings d).present := by
    rw [present_classOf, dimensionNames, ← hp.dimensions_text, List.filterMap_map,
      List.filterMap_map]
    rfl
  rw [Grouping.keyOf, Plan.grouping]
  dsimp only
  rw [Grouping.keyFrom_eq (t := t), List.filterMap_append, parts_valueAt settings spec _ ht, hdims,
    List.nil_append]
  · rfl
  · intro k hk
    rcases List.mem_append.1 hk with h | h
    · obtain ⟨part, hpart, rfl⟩ := List.mem_map.1 h
      have hread := readInstant_of_timeOf (ht (Granularity.isBinned_of_mem hpart))
      rw [timestampName, ← hp.timestamp_text] at hread
      simp only [KeyExpr.ofDocument, hread, bind, Except.bind, KeyExpr.valueAt]
    · obtain ⟨f, -, rfl⟩ := List.mem_map.1 h
      rfl
  · have hnames := nodup_names hp
    rw [List.map_append, List.map_map, List.map_map]
    exact hnames

theorem get?_present (names : List String) (d : Document) (name : String) :
    Document.get? (names.filterMap fun n => (d.get? n).map (n, ·)) name =
      if name ∈ names then d.get? name else none := by
  induction names with
  | nil => rfl
  | cons n r ih =>
      cases hv : d.get? n with
      | none =>
          rw [List.filterMap_cons_none (by rw [hv, Option.map_none]), ih]
          by_cases hn : name = n
          · subst hn
            simp [hv]
          · simp [hn]
      | some v =>
          rw [List.filterMap_cons_some (by rw [hv, Option.map_some]), Document.get?, ih]
          by_cases hn : n = name
          · subst hn
            simp [hv]
          · have hn' : ¬ name = n := fun he => hn he.symm
            simp [hn, hn']

theorem key_injective {d e : Document} (hd : spec.Readable settings d)
    (he : spec.Readable settings e)
    (h : (spec.classOf settings d).key spec.granularity =
      (spec.classOf settings e).key spec.granularity) :
    spec.classOf settings d = spec.classOf settings e := by
  have hpresent (hsame : (spec.classOf settings d).present = (spec.classOf settings e).present) :
      ∀ x ∈ spec.dimensions, d.get? x.field = e.get? x.field := by
    intro x hx
    have hmem : x.field ∈ spec.dimensionNames :=
      List.mem_eraseDups.2 (List.mem_map.2 ⟨x, hx, rfl⟩)
    have hget := congrArg (Document.get? · x.field) hsame
    simp only [present_classOf, get?_present, if_pos hmem] at hget
    exact hget
  cases hg : spec.granularity.isBinned with
  | false =>
      rw [DocumentClass.key, DocumentClass.key, bucket_classOf_unbinned hg,
        bucket_classOf_unbinned hg] at h
      rw [classOf_eq_iff]
      exact ⟨fun hb => absurd (hg.symm.trans hb) (by decide), hpresent h⟩
  | true =>
      obtain ⟨t, ht⟩ := hd hg
      obtain ⟨u, hu⟩ := he hg
      rw [DocumentClass.key, DocumentClass.key, bucket_classOf hg ht, bucket_classOf hg hu] at h
      obtain ⟨hparts, hsame⟩ := List.append_inj h (by simp)
      have hextract : spec.granularity.partsOf (spec.granularity.truncate t) =
          spec.granularity.partsOf (spec.granularity.truncate u) := by
        refine List.map_congr_left fun part hpart => ?_
        have hpair := List.map_inj_left.1 hparts part hpart
        simpa [Json.int] using hpair
      rw [Granularity.partsOf_truncate hg, Granularity.partsOf_truncate hg] at hextract
      have hstart := Granularity.bucketStart?_eq hg t
      rw [hextract, Granularity.bucketStart?_eq hg u] at hstart
      rw [classOf_eq_iff]
      exact ⟨fun _ => by rw [ht, hu, Option.map_some, Option.map_some, hstart], hpresent hsame⟩

end QuerySpec

namespace Json

/-- Entries of one name decide by their values, entries of calendar parts by the parts. -/
theorem compareEntries_parts (parts : List DatePart) (t u : Instant) (a b : Document) :
    compareEntries ((parts.map fun p => (p.key, int (p.extract t))) ++ a)
        ((parts.map fun p => (p.key, int (p.extract u))) ++ b) =
      (Ord.compare (parts.map fun p => p.extract t) (parts.map fun p => p.extract u)).then
        (compareEntries a b) := by
  induction parts with
  | nil => rfl
  | cons p r ih =>
      have hname : Ord.compare p.key p.key = .eq := Std.ReflOrd.compare_self
      have hvalue : compare (int (p.extract t)) (int (p.extract u)) =
          Ord.compare (p.extract t) (p.extract u) :=
        Double.compare_roundedUnits (p.natAbs_extract_lt t) (p.natAbs_extract_lt u)
      simp only [List.map_cons, List.cons_append, compareEntries, hname, hvalue, Ordering.eq_then,
        ih, List.compare_cons_cons, Ordering.then_assoc]

end Json

namespace QuerySpec

variable {settings : Settings} {spec : QuerySpec}

theorem compare_key (hg : spec.granularity.isBinned = true) {d e : Document}
    (hd : spec.Readable settings d) (he : spec.Readable settings e) :
    Json.compare (.object ((spec.classOf settings d).key spec.granularity))
        (.object ((spec.classOf settings e).key spec.granularity)) =
      (spec.classOf settings d).compareTime (spec.classOf settings e) := by
  obtain ⟨t, ht⟩ := hd hg
  obtain ⟨u, hu⟩ := he hg
  have hnotDate (start : Instant) (r : Document) : Json.asDate? (.object
      ((spec.granularity.dateParts.map fun p => (p.key, .int (p.extract start))) ++ r)) = none := by
    cases hall : spec.granularity with
    | all =>
        rw [hall] at hg
        cases hg
    | _ => rfl
  rw [DocumentClass.key, DocumentClass.key, bucket_classOf hg ht, bucket_classOf hg hu,
    Option.elim_some, Option.elim_some, Json.compare, hnotDate, hnotDate,
    DocumentClass.compareTime, bucket_classOf hg ht, bucket_classOf hg hu]
  dsimp only
  rw [Json.compareEntries_parts]
  have hparts := Granularity.compare_partsOf hg t u
  rw [← Granularity.partsOf_truncate hg t, ← Granularity.partsOf_truncate hg u] at hparts
  rw [← hparts]
  rfl

end QuerySpec

end EventRollup
