import EventRollup.Query.Spec
import EventRollup.Settings
import EventRollup.Store.Accumulator
import EventRollup.Store.Run

namespace EventRollup

/-- What a query tells documents apart by: the start of the bucket they fall into, if it bins, and
what they hold, or that they hold nothing, in the fields of its dimensions. -/
@[ext]
structure DocumentClass where
  bucket : Option Instant
  values : List (String × Option Json)
deriving DecidableEq

namespace DocumentClass

def present (c : DocumentClass) : Document := c.values.filterMap fun x => x.2.map (x.1, ·)

def compareTime (a b : DocumentClass) : Ordering :=
  (match a.bucket, b.bucket with
    | some t, some u => Instant.compare t u
    | _, _ => .eq).then (Json.compareEntries a.present b.present)

end DocumentClass

/-- The last entry comes first: it takes the place of the grouping key that stood there. -/
def lastFirst (entries : Document) : Document :=
  match entries.getLast? with
  | some e => e :: entries.dropLast
  | none => []

theorem lastFirst_perm (entries : Document) : (lastFirst entries).Perm entries := by
  rw [lastFirst]
  cases h : entries.getLast? with
  | none =>
      rw [List.getLast?_eq_none_iff] at h
      rw [h]
  | some e =>
      obtain ⟨front, rfl⟩ := List.getLast?_eq_some_iff.1 h
      dsimp only
      rw [List.dropLast_concat]
      exact (List.perm_append_singleton e front).symm

namespace QuerySpec

variable (settings : Settings) (spec : QuerySpec)

def timestampName : String := spec.timestampField.getD settings.timestampField

def dimensionNames : List String := (spec.dimensions.map (·.field)).eraseDups

def timeOf (d : Document) : Option Instant :=
  (d.get? (spec.timestampName settings)).bind settings.encoding.decode?

def classOf (d : Document) : DocumentClass where
  bucket :=
    if spec.granularity.isBinned then (spec.timeOf settings d).map spec.granularity.truncate
    else none
  values := spec.dimensionNames.map fun name => (name, d.get? name)

def classes (docs : List Document) : List DocumentClass :=
  (docs.map (spec.classOf settings)).eraseDups

def members (docs : List Document) (c : DocumentClass) : List Document :=
  docs.filter fun d => decide (spec.classOf settings d = c)

/-- What a measure comes to over documents. The count measure adds one for each of them. -/
def measured (m : Measure) (docs : List Document) : Json :=
  if m.field = settings.countMeasure then
    (docs.foldl (fun t _ => t.feed (some (.int 1))) (Tally.start .sum)).result
  else (docs.foldl (fun t d => t.feed (d.get? m.field)) (Tally.start m.effective)).result

def totals (docs : List Document) : Document :=
  spec.measures.map fun m => (m.field, measured settings m docs)

def sortedBy : List (String × SortDirection) :=
  spec.measures.filterMap fun m => m.sort.map fun direction => (m.field, direction)

/-- A binned series is chronological, other rows are in the order their measures ask for. -/
def compareClasses (docs : List Document) (a b : DocumentClass) : Ordering :=
  if spec.granularity.isBinned then a.compareTime b
  else Document.compareBy spec.sortedBy (spec.totals settings (spec.members settings docs a))
    (spec.totals settings (spec.members settings docs b))

/-- The row of a class: its measures, the start of its bucket, and its dimensions, null where the
class has no value. -/
def rowOf (docs : List Document) (c : DocumentClass) : Document :=
  lastFirst (spec.totals settings (spec.members settings docs c)) ++
    (c.bucket.map fun t => (spec.timestampName settings, settings.encoding.encode t)).toList ++
    c.values.map fun x => (x.1, x.2.getD .null)

def orderedClasses (docs : List Document) : List DocumentClass :=
  (spec.classes settings docs).mergeSort fun a b => (spec.compareClasses settings docs a b).isLE

def rows (docs : List Document) : List Document :=
  limited (spec.limit.filter (0 < ·))
    ((spec.orderedClasses settings docs).map (spec.rowOf settings docs))

theorem limited_eq_take (limit : Option Nat) (rows : List Document) :
    limited limit rows = rows.take (limit.getD rows.length) := by
  cases limit with
  | none => exact List.take_length.symm
  | some n => rfl

theorem limited_sublist (limit : Option Nat) (docs : List Document) :
    (limited limit docs).Sublist docs := by
  rw [limited_eq_take]
  exact List.take_sublist _ docs

theorem limited_map {α : Type} (limit : Option Nat) (f : α → Document) (l : List α) :
    limited limit (l.map f) = (l.take (limit.getD l.length)).map f := by
  rw [limited_eq_take, List.length_map, List.map_take]

/-- Documents are of one class when their times fall into one bucket, in a query that bins, and
every dimension holds the same value in both or is missing from both. -/
theorem classOf_eq_iff (d e : Document) : spec.classOf settings d = spec.classOf settings e ↔
    (spec.granularity.isBinned = true → (spec.timeOf settings d).map spec.granularity.truncate =
      (spec.timeOf settings e).map spec.granularity.truncate) ∧
    ∀ x ∈ spec.dimensions, d.get? x.field = e.get? x.field := by
  have hvalues : (spec.classOf settings d).values = (spec.classOf settings e).values ↔
      ∀ x ∈ spec.dimensions, d.get? x.field = e.get? x.field := by
    simp only [classOf, List.map_inj_left, Prod.mk.injEq, true_and, dimensionNames,
      List.mem_eraseDups, List.mem_map, forall_exists_index, and_imp, forall_apply_eq_imp_iff₂]
  have hbucket : (spec.classOf settings d).bucket = (spec.classOf settings e).bucket ↔
      (spec.granularity.isBinned = true → (spec.timeOf settings d).map spec.granularity.truncate =
        (spec.timeOf settings e).map spec.granularity.truncate) := by
    cases hg : spec.granularity.isBinned <;> simp [classOf, hg]
  rw [← hvalues, ← hbucket, DocumentClass.ext_iff]

end QuerySpec

end EventRollup
