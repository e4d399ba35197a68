import EventRollup.Proofs.Number.Magnitude
import EventRollup.Proofs.Query.Rows
import EventRollup.Proofs.Time.CivilTime

namespace EventRollup

namespace Double

theorem isInteger_iff {d : Double} : d.isInteger = true ↔ ∃ n : Int, d.units = n * unitsPerOne := by
  rw [isInteger, decide_eq_true_eq]
  constructor
  · intro h
    obtain ⟨n, hn⟩ := Int.dvd_of_emod_eq_zero h
    exact ⟨n, hn.trans (Int.mul_comm _ _)⟩
  · rintro ⟨n, hn⟩
    rw [hn, Int.mul_emod_left]

theorem truncate_of_units {d : Double} {n : Int} (h : d.units = n * unitsPerOne) :
    d.truncate = n := by
  rw [truncate, h, Int.mul_tdiv_cancel _ (Int.ofNat_ne_zero.2 (Nat.ne_of_gt unitsPerOne_pos))]

end Double

namespace Number

/-- The number is this integer, written as one or as a double. -/
def Denotes : Number → Int → Prop
  | .int m, n => m = n
  | .double d, n => d.units = n * Double.unitsPerOne

theorem toInteger?_eq_some_iff {x : Number} {n : Int} : x.toInteger? = some n ↔ x.Denotes n := by
  cases x with
  | int m => exact Option.some_inj
  | double d =>
      rw [toInteger?, Denotes]
      constructor
      · intro h
        split at h
        · rename_i hwhole
          obtain ⟨m, hm⟩ := Double.isInteger_iff.1 hwhole
          rw [Double.truncate_of_units hm] at h
          rw [hm, Option.some.inj h]
        · cases h
      · intro h
        rw [if_pos (Double.isInteger_iff.2 ⟨n, h⟩), Double.truncate_of_units h]

end Number

namespace Granularity

theorem bucketStart?_map {g : Granularity} (hg : g.isBinned = true) {parts : DatePart → Int}
    (hfiner : ∀ p ∉ g.dateParts, parts p = 0) :
    bucketStart? (g.dateParts.map parts) = DatePart.civil? parts := by
  cases g with
  | all => cases hg
  | day =>
      rw [DatePart.civil?, hfiner .hour (by decide), hfiner .minute (by decide),
        hfiner .second (by decide)]
      rfl
  | hour =>
      rw [DatePart.civil?, hfiner .minute (by decide), hfiner .second (by decide)]
      rfl
  | minute =>
      rw [DatePart.civil?, hfiner .second (by decide)]
      rfl
  | second => rfl

end Granularity

namespace Record

def Gives (key : Document) (part : DatePart) (n : Int) : Prop :=
  ∃ x : Number, key.get? part.key = some (.number x) ∧ x.Denotes n

theorem partOf?_eq_some_iff {key : Document} {part : DatePart} {n : Int} :
    partOf? key part = some n ↔ Gives key part n := by
  constructor
  · intro h
    rw [partOf?] at h
    split at h
    · rename_i x hx
      exact ⟨x, hx, Number.toInteger?_eq_some_iff.1 h⟩
    · cases h
  · rintro ⟨x, hx, hn⟩
    rw [partOf?, hx]
    exact Number.toInteger?_eq_some_iff.2 hn

/-- The key names a bucket: it holds an integer for every calendar part of the width, and with zeros
for the finer parts these are a date and a time of day. -/
structure Names (g : Granularity) (key : Document) (parts : DatePart → Int) : Prop where
  given : ∀ p ∈ g.dateParts, Gives key p (parts p)
  finer : ∀ p ∉ g.dateParts, parts p = 0
  valid : DatePart.Valid parts

theorem exists_of_mapM {α β : Type} {f : α → Option β} {l : List α} {values : List β}
    (h : l.mapM f = some values) {a : α} (ha : a ∈ l) : ∃ b, f a = some b := by
  induction l generalizing values with
  | nil => cases ha
  | cons x r ih =>
      rw [List.mapM_cons] at h
      obtain ⟨b, hb, h⟩ := Option.bind_eq_some_iff.1 h
      obtain ⟨rest, hrest, -⟩ := Option.bind_eq_some_iff.1 h
      rcases List.mem_cons.1 ha with rfl | hmem
      · exact ⟨b, hb⟩
      · exact ih hrest hmem

/-- The bucket of a key is the whole second that has the parts it names. -/
theorem bucketOf?_eq_some_iff {g : Granularity} (hg : g.isBinned = true) {key : Document}
    {t : Instant} : bucketOf? g key = some t ↔
      ∃ parts, Names g key parts ∧ (∀ p : DatePart, p.extract t = parts p) ∧ t.nanos = 0 := by
  have hread {parts : DatePart → Int} (hgiven : ∀ p ∈ g.dateParts, partOf? key p = some (parts p))
      (hfiner : ∀ p ∉ g.dateParts, parts p = 0) : bucketOf? g key = DatePart.civil? parts := by
    rw [bucketOf?, QuerySpec.mapM_eq_some hgiven, Option.bind_some,
      Granularity.bucketStart?_map hg hfiner]
  constructor
  · intro h
    let parts (p : DatePart) : Int := if p ∈ g.dateParts then (partOf? key p).getD 0 else 0
    have hgiven : ∀ p ∈ g.dateParts, partOf? key p = some (parts p) := by
      intro p hp
      obtain ⟨numbers, hnumbers, -⟩ := Option.bind_eq_some_iff.1 h
      obtain ⟨n, hn⟩ := exists_of_mapM hnumbers hp
      simp only [parts, if_pos hp, hn, Option.getD_some]
    have hfiner : ∀ p ∉ g.dateParts, parts p = 0 := fun p hp => if_neg hp
    rw [hread hgiven hfiner] at h
    exact ⟨parts, ⟨fun p hp => partOf?_eq_some_iff.1 (hgiven p hp), hfiner,
      DatePart.valid_iff.2 ⟨t, h⟩⟩, DatePart.civil?_eq_some_iff.1 h⟩
  · rintro ⟨parts, hnames, hparts⟩
    rw [hread (fun p hp => partOf?_eq_some_iff.2 (hnames.given p hp)) hnames.finer]
    exact DatePart.civil?_eq_some_iff.2 hparts

variable {g : Granularity} {e : DateEncoding} {field : FieldName}

/-- What the flat row of a grouped row holds as its timestamp, which is never missing. It is not null
exactly where the row has an object as its key that names a bucket, and then it is the one whole
second with the named parts. -/
structure Stamped (g : Granularity) (e : DateEncoding) (field : FieldName) (row flat : Document) :
    Prop where
  present : ∃ v, flat.get? field.text = some v
  dated_iff : flat.get? field.text ≠ some .null ↔
    ∃ key parts, row.get? groupKey = some (.object key) ∧ Names g key parts
  exact : ∀ key parts, row.get? groupKey = some (.object key) → Names g key parts →
    ∃ t : Instant, flat.get? field.text = some (e.encode t) ∧
      ((∀ p : DatePart, p.extract t = parts p) ∧ t.nanos = 0) ∧
      ∀ u : Instant, (∀ p : DatePart, p.extract u = parts p) ∧ u.nanos = 0 → u = t

theorem get?_addDimensions {dimensions : List FieldName} (h : field ∉ dimensions) (key row : Document) :
    (addDimensions dimensions key row).get? field.text = row.get? field.text := by
  rw [addDimensions]
  induction dimensions generalizing row with
  | nil => rfl
  | cons f r ih =>
      rw [List.mem_cons, not_or] at h
      have hne : ¬ f.text = field.text := fun he => h.1 (FieldName.text_injective he.symm)
      rw [List.foldl_cons, ih h.2, Document.get?_insert, if_neg hne]

theorem get?_timestamp (hg : g.isBinned = true) {dimensions : List FieldName}
    (h : field ∉ dimensions) (row : Document) :
    (ofRow g dimensions field e row).get? field.text =
      some ((bucketOf? g (keyOf row)).elim .null e.encode) := by
  rw [ofRow, get?_addDimensions h, addTimestamp, if_pos hg, Document.get?_insert, if_pos rfl]

theorem Names.get?_groupKey (hg : g.isBinned = true) {row : Document} {parts : DatePart → Int}
    (hnames : Names g (keyOf row) parts) : row.get? groupKey = some (.object (keyOf row)) := by
  have hyear : DatePart.year ∈ g.dateParts := by
    cases g with
    | all => cases hg
    | _ => exact List.mem_cons_self
  obtain ⟨x, hx, -⟩ := hnames.given .year hyear
  rw [keyOf] at hx ⊢
  split
  · assumption
  · rename_i hother
    split at hx
    · rename_i key hkey
      exact absurd hkey (hother key)
    · cases hx

theorem stamped_ofRow (hg : g.isBinned = true) {dimensions : List FieldName}
    (h : field ∉ dimensions) (row : Document) :
    Stamped g e field row (ofRow g dimensions field e row) := by
  have hget := get?_timestamp (e := e) hg h row
  have hnamed {key : Document} {parts : DatePart → Int}
      (hkey : row.get? groupKey = some (.object key)) (hnames : Names g key parts) :
      ∃ t, bucketOf? g (keyOf row) = some t ∧
        (∀ p : DatePart, p.extract t = parts p) ∧ t.nanos = 0 := by
    obtain ⟨t, ht⟩ := DatePart.valid_iff.1 hnames.valid
    have hparts := DatePart.civil?_eq_some_iff.1 ht
    refine ⟨t, ?_, hparts⟩
    rw [keyOf, hkey]
    exact (bucketOf?_eq_some_iff hg).2 ⟨parts, hnames, hparts⟩
  refine ⟨⟨_, hget⟩, ⟨fun hnull => ?_, ?_⟩, fun key parts hkey hnames => ?_⟩
  · cases hbucket : bucketOf? g (keyOf row) with
    | none =>
        rw [hget, hbucket] at hnull
        exact absurd rfl hnull
    | some t =>
        obtain ⟨parts, hnames, -⟩ := (bucketOf?_eq_some_iff hg).1 hbucket
        exact ⟨keyOf row, parts, hnames.get?_groupKey hg, hnames⟩
  · rintro ⟨key, parts, hkey, hnames⟩
    obtain ⟨t, ht, -⟩ := hnamed hkey hnames
    rw [hget, ht]
    cases e <;> simp [DateEncoding.encode]
  · obtain ⟨t, ht, hparts⟩ := hnamed hkey hnames
    refine ⟨t, by rw [hget, ht]; rfl, hparts, fun u hu => ?_⟩
    exact Option.some.inj ((DatePart.civil?_eq_some_iff.2 hu).symm.trans
      (DatePart.civil?_eq_some_iff.2 hparts))

/-- The timestamp of a flat row is never a shifted one. Dimensions are written after it, so it stands
where it is no dimension itself, and in a query that bins and compiles it is none. -/
theorem reshape_shifts_no_bucket (hg : g.isBinned = true) (e : DateEncoding) (field : FieldName) :
    (∀ dimensions : List FieldName, field ∉ dimensions →
      ∀ row, Stamped g e field row (ofRow g dimensions field e row)) ∧
    ∀ settings presets spec now plan, Plan.compile settings presets spec now = .ok plan →
      plan.granularity = g → plan.timestampField = field → plan.encoding = e →
      ∀ rows, List.Forall₂ (Stamped g e field) rows (plan.reshape rows) := by
  refine ⟨fun dimensions h => stamped_ofRow hg h, ?_⟩
  rintro settings presets spec now plan hplan rfl rfl rfl rows
  obtain ⟨p, hp, rfl⟩ := Plan.parts_of_compile hplan
  have hbeside : p.timestamp ∉ p.dimensions := fun hmem =>
    ((Plan.parts_sound hp).dimensions_beside hg p.timestamp hmem).1 rfl
  rw [Plan.reshape, List.forall₂_map_right_iff, List.forall₂_same]
  exact fun row _ => stamped_ofRow hg hbeside row

def februaryRow (day : Int) : Document :=
  [("load", .int 2), ("_id", .object [("day", .int day), ("host", .string "a"), ("month", .int 2),
    ("year", .number (.double ((Double.ofInt? 2024).getD .zero)))])]

def hostDays : QuerySpec where
  ns := "events"
  range := none
  dimensions := [⟨"host", none, none⟩]
  measures := [⟨"load", none, none⟩]
  granularity := .day
  limit := none
  timestampField := none
  debug := false

def flatFebruary : List Document :=
  [[("load", .int 2), ("ts", .object [("$date", .string "2024-02-29T00:00:00.000Z")]),
      ("host", .string "a")],
    [("load", .int 2), ("ts", .null), ("host", .string "a")]]

theorem reshape_shifts_no_bucket_february :
    ∃ plan, Plan.compile .standard [] hostDays .epoch = .ok plan ∧
      plan.granularity.isBinned = true ∧ plan.timestampField = ⟨"ts", by decide⟩ ∧
      plan.encoding = .extended ∧
      plan.reshape [februaryRow 29, februaryRow 30] = flatFebruary ∧
      List.Forall₂ (Stamped plan.granularity .extended ⟨"ts", by decide⟩)
        [februaryRow 29, februaryRow 30] flatFebruary ∧
      (⟨"ts", by decide⟩ : FieldName) ∉ [⟨"host", by decide⟩] ∧
      Stamped plan.granularity .string ⟨"ts", by decide⟩ (februaryRow 29)
        (ofRow plan.granularity [⟨"host", by decide⟩] ⟨"ts", by decide⟩ .string
          (februaryRow 29)) := by
  have hcompiled : (Plan.compile .standard [] hostDays .epoch).toOption.map (fun plan =>
      ((plan.granularity.isBinned, plan.timestampField, plan.encoding),
        plan.reshape [februaryRow 29, februaryRow 30])) =
      some ((true, ⟨"ts", by decide⟩, .extended), flatFebruary) := by decide +kernel
  obtain ⟨plan, hplan, hboth⟩ := eq_ok_of_toOption hcompiled
  obtain ⟨hfields, hflat⟩ := Prod.mk.inj hboth
  obtain ⟨hbinned, hrest⟩ := Prod.mk.inj hfields
  obtain ⟨htimestamp, hencoding⟩ := Prod.mk.inj hrest
  have hrows := (reshape_shifts_no_bucket hbinned .extended ⟨"ts", by decide⟩).2 .standard []
    hostDays .epoch plan hplan rfl htimestamp hencoding [februaryRow 29, februaryRow 30]
  have hbeside : (⟨"ts", by decide⟩ : FieldName) ∉ [⟨"host", by decide⟩] := by decide
  rw [hflat] at hrows
  exact ⟨plan, hplan, hbinned, htimestamp, hencoding, hflat, hrows, hbeside,
    (reshape_shifts_no_bucket hbinned .string ⟨"ts", by decide⟩).1 _ hbeside _⟩

end Record

end EventRollup
