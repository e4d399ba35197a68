import EventRollup.Proofs.Query.Meaning
import EventRollup.Proofs.Store.Journal

namespace EventRollup

def Settings.writing (s : Settings) (e : DateEncoding) : Settings :=
  { s with datesAsStrings := e == .string }

theorem Settings.encoding_writing (s : Settings) (e : DateEncoding) :
    (s.writing e).encoding = e := by
  cases e <;> rfl

/-- A row apart from how the time in one of its fields is written. A row without a time does not
have the field. -/
structure TimedRow (name : String) where
  fields : Document
  time : Option Instant
  untimed : time = none → name ∉ fields.keys

def TimedRow.written {name : String} (e : DateEncoding) (r : TimedRow name) : Document :=
  r.time.elim r.fields fun t => r.fields.insert name (e.encode t)

def StoredEvent.row (field : FieldName) (x : StoredEvent) : TimedRow field.text where
  fields := x.document
  time := some x.time
  untimed := nofun

theorem exists_map {ι α β γ : Type} {f : ι → α → γ} {g : ι → β → γ} {l : List α}
    (h : ∀ a ∈ l, ∃ b, ∀ i, f i a = g i b) : ∃ bs : List β, ∀ i, l.map (f i) = bs.map (g i) := by
  induction l with
  | nil => exact ⟨[], fun _ => rfl⟩
  | cons a r ih =>
      obtain ⟨ha, hr⟩ := List.forall_mem_cons.1 h
      obtain ⟨b, hb⟩ := ha
      obtain ⟨bs, hbs⟩ := ih hr
      exact ⟨b :: bs, fun i => by rw [List.map_cons, List.map_cons, hb, hbs]⟩

namespace QuerySpec

/-- A query on the configured timestamp that uses it neither as a dimension nor as a measure. -/
structure OnTimestamp (settings : Settings) (spec : QuerySpec) : Prop where
  timestamp : spec.timestampName settings = settings.timestampField
  dimensions : ∀ x ∈ spec.dimensions, x.field ≠ settings.timestampField
  measures : ∀ m ∈ spec.measures, m.field ≠ settings.timestampField

theorem OnTimestamp.writing {settings : Settings} {spec : QuerySpec}
    (h : spec.OnTimestamp settings) (e : DateEncoding) : spec.OnTimestamp (settings.writing e) :=
  ⟨h.timestamp, h.dimensions, h.measures⟩

section

variable {settings : Settings} {spec : QuerySpec} {field : FieldName}
  (hfield : field.text = settings.timestampField) (hspec : spec.OnTimestamp settings)

include hfield hspec

theorem timeOf_written (e : DateEncoding) (x : StoredEvent) :
    spec.timeOf (settings.writing e) (x.written field e) = some x.time.toMillis := by
  have hname : spec.timestampName (settings.writing e) = field.text :=
    hspec.timestamp.trans hfield.symm
  rw [timeOf, hname, x.get?_time, settings.encoding_writing, Option.bind_some, e.decode?_encode,
    if_pos x.readable]

theorem classOf_written (e f : DateEncoding) (x : StoredEvent) :
    spec.classOf (settings.writing e) (x.written field e) =
      spec.classOf (settings.writing f) (x.written field f) := by
  have hvalues (g : DateEncoding) : spec.dimensionNames.map (fun name =>
      (name, (x.written field g).get? name)) =
      spec.dimensionNames.map fun name => (name, x.document.get? name) := by
    refine List.map_congr_left fun name hname => ?_
    obtain ⟨dimension, hmem, rfl⟩ := List.mem_map.1 (List.mem_eraseDups.1 hname)
    rw [x.get?_other fun he => hspec.dimensions dimension hmem (he.trans hfield)]
  rw [classOf, classOf, timeOf_written hfield hspec, timeOf_written hfield hspec, hvalues, hvalues]

theorem classes_written (e f : DateEncoding) (events : List StoredEvent) :
    spec.classes (settings.writing e) (events.map (·.written field e)) =
      spec.classes (settings.writing f) (events.map (·.written field f)) := by
  rw [classes, classes, List.map_map, List.map_map]
  congr 1
  exact List.map_congr_left fun x _ => classOf_written hfield hspec e f x

theorem members_written (e : DateEncoding) (events : List StoredEvent) (c : DocumentClass) :
    spec.members (settings.writing e) (events.map (·.written field e)) c =
      (events.filter fun x => decide (spec.classOf (settings.writing .string)
        (x.written field .string) = c)).map (·.written field e) := by
  rw [members, List.filter_map]
  congr 1
  refine List.filter_congr fun x _ => ?_
  rw [Function.comp_apply, classOf_written hfield hspec e .string]

theorem totals_written (e f : DateEncoding) (events : List StoredEvent) :
    spec.totals (settings.writing e) (events.map (·.written field e)) =
      spec.totals (settings.writing f) (events.map (·.written field f)) := by
  have hfed (g : DateEncoding) {m : Measure} (hm : m ∈ spec.measures) :
      measured (settings.writing g) m (events.map (·.written field g)) =
        measured (settings.writing g) m (events.map (·.document)) := by
    have hget (x : StoredEvent) : (x.written field g).get? m.field = x.document.get? m.field :=
      x.get?_other fun he => hspec.measures m hm (he.trans hfield)
    simp only [measured, List.foldl_map, hget]
  refine List.map_congr_left fun m hm => ?_
  rw [hfed e hm, hfed f hm]
  rfl

theorem totals_members_written (e f : DateEncoding) (events : List StoredEvent)
    (c : DocumentClass) :
    spec.totals (settings.writing e)
        (spec.members (settings.writing e) (events.map (·.written field e)) c) =
      spec.totals (settings.writing f)
        (spec.members (settings.writing f) (events.map (·.written field f)) c) := by
  rw [members_written hfield hspec, members_written hfield hspec, totals_written hfield hspec e f]

theorem compareClasses_written (e f : DateEncoding) (events : List StoredEvent)
    (a b : DocumentClass) :
    spec.compareClasses (settings.writing e) (events.map (·.written field e)) a b =
      spec.compareClasses (settings.writing f) (events.map (·.written field f)) a b := by
  rw [compareClasses, compareClasses]
  split
  · rfl
  · rw [totals_members_written hfield hspec e f, totals_members_written hfield hspec e f]

theorem not_mem_keys_totals (e : DateEncoding) (docs : List Document) :
    field.text ∉ (lastFirst (spec.totals (settings.writing e) docs)).keys := by
  intro hmem
  have htotals : field.text ∈ (spec.totals (settings.writing e) docs).keys :=
    ((lastFirst_perm (spec.totals (settings.writing e) docs)).map Prod.fst).mem_iff.1 hmem
  rw [totals, Document.keys, List.map_map] at htotals
  obtain ⟨m, hm, hname⟩ := List.mem_map.1 htotals
  exact hspec.measures m hm (hname.trans hfield)

theorem not_mem_keys_values (e : DateEncoding) (d : Document) : field.text ∉ Document.keys
    ((spec.classOf (settings.writing e) d).values.map fun x => (x.1, x.2.getD .null)) := by
  intro hmem
  rw [classOf, Document.keys, List.map_map, List.map_map] at hmem
  obtain ⟨name, hdim, hname⟩ := List.mem_map.1 hmem
  obtain ⟨dimension, hmem, rfl⟩ := List.mem_map.1 (List.mem_eraseDups.1 hdim)
  exact hspec.dimensions dimension hmem (hname.trans hfield)

theorem rowOf_written (events : List StoredEvent) (x : StoredEvent) :
    ∃ r : TimedRow field.text, ∀ e, spec.rowOf (settings.writing e)
      (events.map (·.written field e))
      (spec.classOf (settings.writing .string) (x.written field .string)) = r.written e := by
  have hname (e : DateEncoding) : spec.timestampName (settings.writing e) = field.text :=
    hspec.timestamp.trans hfield.symm
  have hdims := not_mem_keys_values hfield hspec .string (x.written field .string)
  generalize spec.classOf (settings.writing .string) (x.written field .string) = c at hdims
  have hfirst := not_mem_keys_totals hfield hspec .string (spec.members
    (settings.writing .string) (events.map (·.written field .string)) c)
  have houts (e : DateEncoding) := totals_members_written hfield hspec e .string events c
  generalize spec.totals (settings.writing .string) (spec.members (settings.writing .string)
    (events.map (·.written field .string)) c) = outs at hfirst houts
  cases hb : c.bucket with
  | none =>
      refine ⟨⟨lastFirst outs ++ c.values.map fun x => (x.1, x.2.getD .null), none,
        fun _ hmem => ?_⟩, fun e => ?_⟩
      · rw [Document.keys, List.map_append, List.mem_append] at hmem
        exact hmem.elim hfirst hdims
      · rw [rowOf, houts, hb, Option.map_none, Option.toList_none, List.append_nil]
        rfl
  | some t =>
      refine ⟨⟨lastFirst outs ++ (field.text, .null) ::
        c.values.map fun x => (x.1, x.2.getD .null), some t, fun hnone => by cases hnone⟩,
        fun e => ?_⟩
      rw [rowOf, houts, hb, Option.map_some, hname, settings.encoding_writing, TimedRow.written]
      dsimp only
      rw [Option.elim_some, Document.insert_append hfirst, Option.toList_some, List.append_assoc,
        List.singleton_append]

theorem orderedClasses_written (e f : DateEncoding) (events : List StoredEvent) :
    spec.orderedClasses (settings.writing e) (events.map (·.written field e)) =
      spec.orderedClasses (settings.writing f) (events.map (·.written field f)) := by
  rw [orderedClasses, orderedClasses, classes_written hfield hspec e f]
  congr 1
  funext a b
  rw [compareClasses_written hfield hspec e f]

theorem rows_written (events : List StoredEvent) :
    ∃ rows : List (TimedRow field.text), ∀ e, spec.rows (settings.writing e)
      (events.map (·.written field e)) = rows.map (·.written e) := by
  have hrow : ∀ c ∈ spec.orderedClasses (settings.writing .string)
      (events.map (·.written field .string)), ∃ r : TimedRow field.text, ∀ e,
      spec.rowOf (settings.writing e) (events.map (·.written field e)) c = r.written e := by
    intro c hc
    rw [orderedClasses, List.mem_mergeSort, classes, List.mem_eraseDups, List.map_map] at hc
    obtain ⟨x, -, rfl⟩ := List.mem_map.1 hc
    exact rowOf_written hfield hspec events x
  obtain ⟨rows, hrows⟩ := exists_map hrow
  refine ⟨rows.take ((spec.limit.filter (0 < ·)).getD rows.length), fun e => ?_⟩
  rw [QuerySpec.rows, orderedClasses_written hfield hspec e .string, hrows, limited_map]

end

end QuerySpec

end EventRollup
