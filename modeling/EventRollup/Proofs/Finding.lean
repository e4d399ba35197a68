import EventRollup.Proofs.Pipeline.TimeWindow
import EventRollup.Proofs.Query.Meaning
import EventRollup.Proofs.Store.Sorting
import EventRollup.Service

namespace EventRollup

namespace SortDirection

def before : SortDirection → Ordering
  | .ascending => .lt
  | .descending => .gt

theorem compare_eq_lt_iff (direction : SortDirection) (a b : Json) :
    direction.compare a b = .lt ↔ Json.compare a b = direction.before := by
  cases direction with
  | ascending => exact Iff.rfl
  | descending =>
      rw [compare, before, ← Json.compare_swap, Ordering.swap_eq_lt]

theorem compare_eq_eq_iff (direction : SortDirection) (a b : Json) :
    direction.compare a b = .eq ↔ Json.compare a b = .eq := by
  cases direction with
  | ascending => exact Iff.rfl
  | descending => rw [compare, ← Json.compare_swap, Ordering.swap_eq_eq]

end SortDirection

namespace Document

def sortValue (d : Document) (name : String) : Json := (d.get? name).getD .null

def Alike (keys : List (String × SortDirection)) (a b : Document) : Prop :=
  ∀ k ∈ keys, Json.compare (a.sortValue k.1) (b.sortValue k.1) = .eq

instance (keys : List (String × SortDirection)) (a b : Document) : Decidable (Alike keys a b) := by
  unfold Alike
  infer_instance

/-- The first key that tells two documents apart puts one ahead of the other. -/
def Ahead (keys : List (String × SortDirection)) (a b : Document) : Prop :=
  ∃ before k after, keys = before ++ k :: after ∧ Alike before a b ∧
    Json.compare (a.sortValue k.1) (b.sortValue k.1) = k.2.before

/-- Documents by sort keys: none stands behind one that it is ahead of, and those that no key tells
apart stand as they stood. -/
structure Sorted (keys : List (String × SortDirection)) (docs sorted : List Document) : Prop where
  perm : sorted.Perm docs
  ordered : sorted.Pairwise fun a b => Ahead keys a b ∨ Alike keys a b
  stable : ∀ a, (sorted.filter fun b => decide (Alike keys a b)) =
    docs.filter fun b => decide (Alike keys a b)

variable {keys : List (String × SortDirection)}

theorem alike_cons_iff {k : String × SortDirection} {a b : Document} : Alike (k :: keys) a b ↔
    Json.compare (a.sortValue k.1) (b.sortValue k.1) = .eq ∧ Alike keys a b :=
  List.forall_mem_cons

theorem compareBy_eq_eq_iff {a b : Document} : compareBy keys a b = .eq ↔ Alike keys a b := by
  induction keys with
  | nil => exact iff_of_true rfl nofun
  | cons k r ih =>
      rw [compareBy, Ordering.then_eq_eq, ih, SortDirection.compare_eq_eq_iff, alike_cons_iff]
      rfl

theorem ahead_cons_iff {k : String × SortDirection} {a b : Document} : Ahead (k :: keys) a b ↔
    Json.compare (a.sortValue k.1) (b.sortValue k.1) = k.2.before ∨
      Json.compare (a.sortValue k.1) (b.sortValue k.1) = .eq ∧ Ahead keys a b := by
  constructor
  · rintro ⟨before, k', after, hkeys, halike, hahead⟩
    cases before with
    | nil =>
        obtain ⟨rfl, -⟩ := List.cons.inj hkeys
        exact .inl hahead
    | cons j before =>
        obtain ⟨rfl, hrest⟩ := List.cons.inj hkeys
        obtain ⟨hj, halike⟩ := alike_cons_iff.1 halike
        exact .inr ⟨hj, before, k', after, hrest, halike, hahead⟩
  · rintro (hahead | ⟨hk, before, k', after, rfl, halike, hahead⟩)
    · exact ⟨[], k, keys, rfl, nofun, hahead⟩
    · exact ⟨k :: before, k', after, rfl, alike_cons_iff.2 ⟨hk, halike⟩, hahead⟩

theorem compareBy_eq_lt_iff {a b : Document} : compareBy keys a b = .lt ↔ Ahead keys a b := by
  induction keys with
  | nil =>
      refine iff_of_false nofun ?_
      rintro ⟨before, k, after, hkeys, -⟩
      cases before <;> cases hkeys
  | cons k r ih =>
      rw [compareBy, Ordering.then_eq_lt, ih, SortDirection.compare_eq_lt_iff,
        SortDirection.compare_eq_eq_iff, ahead_cons_iff]
      rfl

theorem isLE_compareBy_iff {a b : Document} :
    (compareBy keys a b).isLE = true ↔ Ahead keys a b ∨ Alike keys a b := by
  rw [← compareBy_eq_lt_iff, ← compareBy_eq_eq_iff, Ordering.isLE_iff_eq_lt_or_eq_eq]

theorem sorted_iff {docs sorted : List Document} :
    Sorted keys docs sorted ↔ StablySorted (compareBy keys) docs sorted := by
  have halike (a : Document) : (fun b => decide (Alike keys a b)) =
      fun b => compareBy keys a b == .eq := by
    funext b
    rw [Bool.eq_iff_iff, decide_eq_true_iff, beq_iff_eq, compareBy_eq_eq_iff]
  constructor
  · rintro ⟨hperm, hordered, hstable⟩
    simp only [halike] at hstable
    exact ⟨hperm, hordered.imp isLE_compareBy_iff.2, hstable⟩
  · rintro ⟨hperm, hordered, hties⟩
    simp only [← halike] at hties
    exact ⟨hperm, hordered.imp isLE_compareBy_iff.1, hties⟩

theorem sorted_sortBy (keys : List (String × SortDirection)) (docs : List Document) :
    Sorted keys docs (sortBy keys docs) :=
  sorted_iff.2 ((compareBy_totalPreorder keys).stablySorted_mergeSort docs)

theorem Sorted.eq_sortBy {docs sorted : List Document} (h : Sorted keys docs sorted) :
    sorted = sortBy keys docs :=
  (compareBy_totalPreorder keys).mergeSort_unique (sorted_iff.1 h)

theorem sortBy_kept (keys : List (String × SortDirection)) (f : Filter) (docs : List Document) :
    sortBy keys (f.kept docs) = f.kept (sortBy keys docs) :=
  ((compareBy_totalPreorder keys).mergeSort_filter docs _).symm

end Document

namespace Filter

theorem find_answered {f : Filter} {docs : List Document} (h : ∀ d ∈ docs, ∃ b, f.accepts d = .ok b)
    (options : FindOptions) : f.find options docs =
      .ok (limited options.limit (Document.sortBy options.keys (f.kept docs))) := by
  rw [find, run_answered h]
  rfl

theorem find_total {f : Filter} (h : f.Total) (options : FindOptions) (docs : List Document) :
    f.find options docs =
      .ok (limited options.limit (Document.sortBy options.keys (f.kept docs))) :=
  find_answered (fun d _ => ⟨_, accepts_total h d⟩) options

theorem find_limited (f : Filter) (sort : List (FieldName × SortDirection)) (limit : Option Nat)
    (docs : List Document) :
    f.find ⟨sort, limit⟩ docs = (f.find ⟨sort, none⟩ docs).map (limited limit) := by
  rw [find, find]
  cases f.run docs <;> rfl

theorem kept_empty (docs : List Document) : empty.kept docs = docs :=
  List.filter_eq_self.2 fun _ _ => decide_eq_true nofun

end Filter

namespace Backend

theorem find_limited (b : Backend) (ns : String) (f : Filter)
    (sort : List (FieldName × SortDirection)) (limit : Option Nat) :
    b.find ns f ⟨sort, limit⟩ = (b.find ns f ⟨sort, none⟩).map (limited limit) := by
  rw [find, find]
  cases b.outage with
  | some text => rfl
  | none =>
      dsimp only
      rw [Store.find, Filter.find_limited, Store.find]
      cases f.find ⟨sort, none⟩ (b.store.documents ns) <;> rfl

/-- What a filter finds is what it picks out of everything that can be found. -/
theorem find_picked (b : Backend) (ns : String) {f : Filter} (h : f.Total)
    (sort : List (FieldName × SortDirection)) :
    b.find ns f ⟨sort, none⟩ = (b.find ns .empty ⟨sort, none⟩).map f.kept := by
  have hempty : Filter.empty.Total := nofun
  rw [find, find]
  cases b.outage with
  | some text => rfl
  | none =>
      dsimp only
      rw [Store.find, Store.find, Filter.find_total h, Filter.find_total hempty, Filter.kept_empty,
        Document.sortBy_kept]
      rfl

end Backend

namespace Service

/-- What a scan asks for: the field it is on and its window. -/
def scanParts (settings : Settings) (field : FieldName) (presets : List Preset) (now : Instant)
    (r : ScanRequest) : Except Error (FieldName × Option TimeWindow) := do
  settings.checkNamespace r.ns
  let name ← r.timestampField.elim (.ok field) FieldName.parse
  let window ← r.range.elim (.ok none) fun range => (range.resolve presets now).map some
  .ok (name, window)

def scanFilter (e : DateEncoding) (name : FieldName) (window : Option TimeWindow) : Filter :=
  window.elim .empty fun w => Filter.timeWindow name (some w) e

theorem planScan_eq (s : Service) (now : Instant) (r : ScanRequest) :
    s.planScan now r = (scanParts s.settings s.timestampField s.presets now r).map fun q =>
      (scanFilter s.settings.encoding q.1 q.2, ⟨[(q.1, r.order)], r.limit⟩) := by
  simp only [planScan, scanParts, bind, Except.bind]
  cases s.settings.checkNamespace r.ns with
  | error fault => rfl
  | ok _ =>
      dsimp only
      cases r.timestampField.elim (.ok s.timestampField) FieldName.parse with
      | error fault => rfl
      | ok name =>
          cases r.range with
          | none => rfl
          | some range =>
              dsimp only [Option.elim_some]
              cases range.resolve s.presets now <;> rfl

theorem scanFilter_total (e : DateEncoding) (name : FieldName) (window : Option TimeWindow) :
    (scanFilter e name window).Total := by
  cases window with
  | none => exact fun c hc => by cases hc
  | some w => exact Filter.timeWindow_total name (some w) e

variable {s : Service} {now : Instant} {r : ScanRequest} {field : FieldName}

theorem scan_eq (b : Backend)
    (hfield : r.timestampField.elim (.ok s.timestampField) FieldName.parse = .ok field)
    {window : Option TimeWindow} (hwindow : (r.range.elim (.ok none) fun range =>
      (range.resolve s.presets now).map some) = .ok window) :
    (s.scan now b r).result = (s.settings.checkNamespace r.ns).bind fun _ =>
      b.find r.ns (scanFilter s.settings.encoding field window) ⟨[(field, r.order)], r.limit⟩ := by
  rw [scan, planScan_eq]
  simp only [scanParts, hfield, hwindow]
  cases s.settings.checkNamespace r.ns <;> rfl

/-- A scan within a window gives what is inside it of a scan of everything, in the same order. -/
theorem scan_within (b : Backend)
    (hfield : r.timestampField.elim (.ok s.timestampField) FieldName.parse = .ok field)
    {range : TimeRange} {w : TimeWindow} (hw : range.resolve s.presets now = .ok w) :
    (s.scan now b { r with range := some range, limit := none }).result =
      (s.scan now b { r with range := none, limit := none }).result.map
        (Filter.timeWindow field (some w) s.settings.encoding).kept := by
  rw [scan_eq (r := { r with range := some range, limit := none }) b hfield
      (congrArg (Except.map some) hw),
    scan_eq (r := { r with range := none, limit := none }) b hfield rfl]
  cases s.settings.checkNamespace r.ns with
  | error e => rfl
  | ok _ => exact b.find_picked r.ns (Filter.timeWindow_total field (some w) _) _

theorem scan_limited (s : Service) (now : Instant) (b : Backend) (r : ScanRequest)
    (limit : Option Nat) : (s.scan now b { r with limit }).result =
      (s.scan now b { r with limit := none }).result.map (limited limit) := by
  -- what a scan asks for does not depend on its limit
  have hparts : scanParts s.settings s.timestampField s.presets now { r with limit } =
      scanParts s.settings s.timestampField s.presets now { r with limit := none } := rfl
  rw [scan, scan, planScan_eq, planScan_eq, hparts]
  cases scanParts s.settings s.timestampField s.presets now { r with limit := none } with
  | error e => rfl
  | ok q => exact b.find_limited r.ns _ _ limit

end Service

/-- A limit that lets no more through than another. -/
def NoLarger (small large : Option Nat) : Prop := ∀ n, large = some n → ∃ m ≤ n, small = some m

theorem NoLarger.limited_prefix {small large : Option Nat} (h : NoLarger small large)
    (docs : List Document) : limited small docs <+: limited large docs := by
  cases large with
  | none =>
      rw [QuerySpec.limited_eq_take]
      exact List.take_prefix _ docs
  | some n =>
      obtain ⟨m, hm, rfl⟩ := h n rfl
      exact List.take_prefix_take_left hm

theorem NoLarger.front {small large : Option Nat} (h : NoLarger small large) {e : Type}
    (found : Except e (List Document)) {rows : List Document}
    (hrows : found.map (limited large) = .ok rows) :
    ∃ front, found.map (limited small) = .ok front ∧ front <+: rows := by
  cases found with
  | error e => cases hrows
  | ok docs =>
      rw [← Except.ok.inj hrows]
      exact ⟨_, rfl, h.limited_prefix docs⟩

/-- What is found. Among the lists of the accepted documents one is sorted and keeps the order of
those that no key tells apart, and a find gives its front. A scan within a window gives what the
filter of the window picks out of a scan of everything; between bounds of four-digit years these are
the documents whose stored time is between them. A smaller limit gives the front of what a larger one
gives. -/
theorem Store.find_sorted {store : Store} {ns : String} {f : Filter}
    (hf : ∀ d ∈ store.documents ns, ∃ accepted, f.accepts d = .ok accepted)
    (sort : List (FieldName × SortDirection)) :
    (∃ sorted : List Document,
        (Document.Sorted (FindOptions.keys ⟨sort, none⟩) (f.kept (store.documents ns)) sorted ∧
          ∀ other, Document.Sorted (FindOptions.keys ⟨sort, none⟩) (f.kept (store.documents ns))
            other → other = sorted) ∧
        ∀ limit, store.find ns f ⟨sort, limit⟩ = .ok (limit.elim sorted sorted.take)) ∧
      (∀ (s : Service) (now : Instant) (b : Backend) (r : ScanRequest) (range : TimeRange)
          (w : TimeWindow) (field : FieldName),
        r.timestampField.elim (.ok s.timestampField) FieldName.parse = .ok field →
        range.resolve s.presets now = .ok w →
        (s.scan now b { r with range := some range, limit := none }).result =
            (s.scan now b { r with range := none, limit := none }).result.map
              (Filter.timeWindow field (some w) s.settings.encoding).kept ∧
          ∀ d t, d.get? field.text = some (s.settings.encoding.encode t) →
            w.start.FourDigitYear → w.stop.FourDigitYear →
            ((Filter.timeWindow field (some w) s.settings.encoding).Passes d ↔ w.Contains t)) ∧
      ∀ small large, NoLarger small large →
        (∀ rows, store.find ns f ⟨sort, large⟩ = .ok rows →
          ∃ front, store.find ns f ⟨sort, small⟩ = .ok front ∧ front <+: rows) ∧
        ∀ (s : Service) (now : Instant) (b : Backend) (r : ScanRequest) (rows : List Document),
          (s.scan now b { r with limit := large }).result = .ok rows →
          ∃ front, (s.scan now b { r with limit := small }).result = .ok front ∧
            front <+: rows := by
  refine ⟨⟨Document.sortBy (FindOptions.keys ⟨sort, none⟩) (f.kept (store.documents ns)),
    ⟨Document.sorted_sortBy _ _, fun other hother => hother.eq_sortBy⟩, fun limit => ?_⟩, ?_, ?_⟩
  · rw [find, Filter.find_answered hf]
    cases limit <;> rfl
  · intro s now b r range w field hfield hw
    refine ⟨Service.scan_within b hfield hw, fun d t ht hstart hstop => ?_⟩
    rw [Filter.passes_timeWindow_iff ht, TimeWindow.admits_iff_contains hstart hstop]
  · intro small large hlimits
    constructor
    · intro rows hrows
      rw [find, Filter.find_limited] at hrows ⊢
      exact hlimits.front _ hrows
    · intro s now b r rows hrows
      rw [Service.scan_limited] at hrows ⊢
      exact hlimits.front _ hrows

def unrated : Document := [("_id", .int 1), ("host", .string "a1")]

def nullRated : Document := [("_id", .int 3), ("level", .null), ("host", .string "a2")]

def hosts : List Document :=
  [unrated, [("_id", .int 2), ("host", .string "b1"), ("level", .int 7)], nullRated]

def inRegion : Filter := Filter.empty.push ⟨"host", by decide⟩ (.compare .regex (.string "^a"))

theorem Store.find_sorted_hosts :
    (∀ d ∈ hosts, ∃ accepted, inRegion.accepts d = .ok accepted) ∧
      inRegion.kept hosts = [unrated, nullRated] ∧
      find ⟨[("hosts", hosts)], numbered, 0⟩ "hosts" inRegion
        ⟨[(⟨"level", by decide⟩, .descending)], none⟩ = .ok [unrated, nullRated] ∧
      find ⟨[("hosts", hosts)], numbered, 0⟩ "hosts" inRegion
        ⟨[(⟨"level", by decide⟩, .descending)], some 1⟩ = .ok [unrated] := by
  have hanswered : ∀ d ∈ hosts, ∃ accepted, inRegion.accepts d = .ok accepted := by
    have htotal : inRegion.Total := by
      intro c hc
      obtain rfl := List.mem_singleton.1 hc
      exact Condition.total_regex (by decide +kernel)
    exact fun d _ => ⟨_, Filter.accepts_total htotal d⟩
  have hkept : inRegion.kept hosts = [unrated, nullRated] := by decide +kernel
  obtain ⟨⟨sorted, ⟨-, hunique⟩, hfind⟩, -, -⟩ :=
    @find_sorted ⟨[("hosts", hosts)], numbered, 0⟩ "hosts" inRegion hanswered
      [(⟨"level", by decide⟩, .descending)]
  have hsorted : sorted = [unrated, nullRated] := by
    have hlevels := hunique _ (Document.sorted_sortBy _ _)
    change Document.sortBy _ (inRegion.kept hosts) = sorted at hlevels
    rw [← hlevels, hkept, Document.sortBy_pair, if_pos (by decide +kernel)]
  rw [hsorted] at hfind
  exact ⟨hanswered, hkept, hfind none, hfind (some 1)⟩

end EventRollup
