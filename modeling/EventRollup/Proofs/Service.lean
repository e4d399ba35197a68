import EventRollup.Proofs.Finding
import EventRollup.Proofs.Query.Answer
import EventRollup.Proofs.Query.Encodings
import EventRollup.Proofs.Store.Views
import EventRollup.Service

namespace EventRollup

structure Backend.Holds (field : FieldName) (e : DateEncoding) (j : Journal) (b : Backend) :
    Prop where
  running : b.outage = none
  store : b.store.Holds field e j

theorem Backend.Holds.aggregate_of_run {field : FieldName} {e : DateEncoding} {j : Journal}
    {b : Backend} (h : b.Holds field e j) {ns : String} {p : Pipeline}
    {f : List Document → List Document} {rows : List Document}
    (hrun : (p.run (b.store.documents ns)).map f = .ok rows) :
    (b.aggregate ns p).map f = .ok rows := by
  rw [Backend.aggregate, h.running]
  dsimp only
  rw [Store.aggregate]
  cases hdocs : p.run (b.store.documents ns) with
  | error fault =>
      rw [hdocs] at hrun
      cases hrun
  | ok docs =>
      rw [hdocs] at hrun
      exact congrArg Except.ok (Except.ok.inj hrun)

/-- The bounds of a range, where it has one and it resolves, lie in years of four digits. -/
def TimeRange.WithinFourDigits (presets : List Preset) (now : Instant) (range : Option TimeRange) :
    Prop :=
  ∀ r w, range = some r → r.resolve presets now = .ok w →
    w.start.FourDigitYear ∧ w.stop.FourDigitYear

namespace Plan.Parts

variable {settings : Settings} {spec : QuerySpec} {p : Parts} {field : FieldName}

theorem passes_written (hp : p.Sound settings spec) (hfield : field.text = settings.timestampField)
    (hspec : spec.OnTimestamp settings)
    (hwindow : ∀ w, p.window = some w → w.start.FourDigitYear ∧ w.stop.FourDigitYear)
    (e f : DateEncoding) (x : StoredEvent) :
    (p.filter e).Passes (x.written field e) ↔ (p.filter f).Passes (x.written field f) := by
  have htimestamp : p.timestamp = field :=
    FieldName.text_injective (hp.timestamp_text.trans (hspec.timestamp.trans hfield.symm))
  have hin (g : DateEncoding) :
      (Filter.timeWindow p.timestamp p.window g).Passes (x.written field g) ↔
        ∀ w, p.window = some w → w.Contains x.time := by
    rw [htimestamp]
    cases hw : p.window with
    | none =>
        rw [Filter.passes_timeWindow_none_iff x.get?_time]
        exact ⟨fun _ w hnone => (by cases hnone), fun _ _ => x.readable⟩
    | some w =>
        obtain ⟨hs, he⟩ := hwindow w hw
        rw [Filter.passes_timeWindow_iff x.get?_time, TimeWindow.admits_iff_contains hs he]
        exact ⟨fun h v hv => Option.some.inj hv ▸ h, fun h => h w rfl⟩
  have hconditions (g : DateEncoding) :
      (∀ c ∈ p.conditions, c.2.holds ((x.written field g).get? c.1.text) = .ok true) ↔
        ∀ c ∈ p.conditions, c.2.holds (x.document.get? c.1.text) = .ok true := by
    refine forall₂_congr fun c hc => ?_
    obtain ⟨dimension, hdimension, hname⟩ := hp.conditions_field c hc
    rw [x.get?_other fun he =>
      hspec.dimensions dimension hdimension (hname.symm.trans (he.trans hfield))]
  rw [passes_filter_iff, passes_filter_iff, hin e, hin f, hconditions e, hconditions f]

theorem run_plan_written (hp : ∀ e, p.Sound (settings.writing e) spec)
    (hfield : field.text = settings.timestampField) (hspec : spec.OnTimestamp settings)
    (hwindow : ∀ w, p.window = some w → w.start.FourDigitYear ∧ w.stop.FourDigitYear)
    (events : List StoredEvent) : ∃ rows : List (TimedRow field.text), ∀ e,
      ((p.plan spec e).pipeline.run (events.map (·.written field e))).map
        (p.plan spec e).reshape = .ok (rows.map (·.written e)) := by
  have hpasses (e : DateEncoding) (x : StoredEvent) :=
    passes_written (hp e) hfield (hspec.writing e) hwindow e .string x
  obtain ⟨rows, hrows⟩ := QuerySpec.rows_written hfield hspec (events.filter fun x =>
    decide ((p.filter .string).Passes (x.written field .string)))
  refine ⟨rows, fun e => ?_⟩
  have hnodup : ∀ d ∈ events.map (·.written field e), d.keys.Nodup :=
    List.forall_mem_map.2 fun x _ => x.nodup_written
  have hrun := run_plan (hp e) hnodup fun d hd _ _ => by
    obtain ⟨x, -, rfl⟩ := List.mem_map.1 hd
    exact ⟨_, QuerySpec.timeOf_written hfield hspec e x⟩
  rw [settings.encoding_writing, Filter.kept_map (hpasses e) events, hrows] at hrun
  exact hrun

end Plan.Parts

namespace Filter

variable {field : FieldName}

theorem compareBy_written (name : String) (direction : SortDirection) (e f : DateEncoding)
    (x y : StoredEvent) :
    Document.compareBy [(name, direction)] (x.written field e) (y.written field e) =
      Document.compareBy [(name, direction)] (x.written field f) (y.written field f) := by
  have hvalue : direction.compare (((x.written field e).get? name).getD .null)
      (((y.written field e).get? name).getD .null) =
      direction.compare (((x.written field f).get? name).getD .null)
        (((y.written field f).get? name).getD .null) := by
    by_cases hname : name = field.text
    · subst hname
      rw [x.get?_time, y.get?_time, x.get?_time, y.get?_time]
      cases direction with
      | ascending =>
          exact (compare_encode x.readable y.readable e).trans
            (compare_encode x.readable y.readable f).symm
      | descending =>
          exact (compare_encode y.readable x.readable e).trans
            (compare_encode y.readable x.readable f).symm
    · rw [x.get?_other hname, y.get?_other hname, x.get?_other hname, y.get?_other hname]
  rw [Document.compareBy, Document.compareBy, hvalue]
  rfl

end Filter

namespace Service

def writing (settings : Settings) (field : FieldName) (presets : List Preset) (e : DateEncoding) :
    Service :=
  ⟨settings.writing e, field, presets⟩

variable {settings : Settings} {field : FieldName} {presets : List Preset} {now : Instant}
  {ns : String} {j : Journal}

theorem checkNamespace_writing (e : DateEncoding) :
    (settings.writing e).checkNamespace ns = settings.checkNamespace ns := rfl

theorem prepare_writing (settings : Settings) (presets : List Preset) (ns : String)
    {d : Document} (hd : d.keys.Nodup)
    (hyear : ∀ t, Event.time field now d = .ok t → t.FourDigitYear) :
    ∃ r : Except Error StoredEvent, ∀ e,
      (writing settings field presets e).prepare now ns d = r.map (·.written field e) := by
  cases hns : settings.checkNamespace ns with
  | error fault =>
      refine ⟨.error fault, fun e => ?_⟩
      simp only [prepare, writing, checkNamespace_writing, hns]
      rfl
  | ok _ =>
      cases htime : Event.time field now d with
      | error fault =>
          refine ⟨.error fault, fun e => ?_⟩
          simp only [prepare, writing, checkNamespace_writing, hns, Event.normalize, htime]
          rfl
      | ok t =>
          refine ⟨.ok ⟨d, t, hd, hyear t htime⟩, fun e => ?_⟩
          simp only [prepare, writing, checkNamespace_writing, hns, Event.normalize, htime,
            settings.encoding_writing]
          rfl

theorem insert_writing (settings : Settings) (presets : List Preset) (ns : String) (j : Journal)
    {d : Document} (hd : d.keys.Nodup)
    (hyear : ∀ t, Event.time field now d = .ok t → t.FourDigitYear) :
    ∃ (r : Except Error Json) (next : Journal), ∀ e b, Backend.Holds field e j b →
      ((writing settings field presets e).insert now b ns d).1.result = r ∧
        ((writing settings field presets e).insert now b ns d).2.Holds field e next := by
  obtain ⟨prepared, hprepared⟩ :=
    prepare_writing settings presets ns hd hyear
  cases prepared with
  | error fault =>
      refine ⟨.error fault, j, fun e b hb => ?_⟩
      rw [insert, hprepared e]
      exact ⟨rfl, hb⟩
  | ok x =>
      refine ⟨.ok (j.insertOne field ns x).1, (j.insertOne field ns x).2, fun e b hb => ?_⟩
      obtain ⟨hid, hstore⟩ := Store.holds_insertOne hb.store ns x
      have hone : b.insertOne ns (x.written field e) = (.ok (j.insertOne field ns x).1,
          { b with store := (b.store.insertOne ns (x.written field e)).2 }) := by
        rw [Backend.insertOne, hb.running, ← hid]
      rw [insert, hprepared e]
      change ((b.insertOne ns (x.written field e)).1 = _) ∧
        (b.insertOne ns (x.written field e)).2.Holds field e _
      rw [hone]
      exact ⟨rfl, hb.running, hstore⟩

theorem compile_writing (e : DateEncoding) (spec : QuerySpec) :
    (writing settings field presets e).compile now spec =
      ((settings.checkNamespace spec.ns).bind fun _ => Plan.parts settings presets spec now).map
        fun p => p.plan spec e := by
  simp only [compile, writing, checkNamespace_writing, Plan.compile_eq_parts,
    settings.encoding_writing]
  rw [Settings.writing, Plan.parts_writing]
  cases settings.checkNamespace spec.ns <;> rfl

theorem query_writing (j : Journal) (hfield : field.text = settings.timestampField)
    {spec : QuerySpec} (hspec : spec.OnTimestamp settings)
    (hrange : TimeRange.WithinFourDigits presets now spec.range) :
    ∃ rows : Except Error (List (TimedRow field.text)), ∀ e b, Backend.Holds field e j b →
      ((writing settings field presets e).query now b spec).result =
        rows.map (List.map (·.written e)) := by
  cases h : (settings.checkNamespace spec.ns).bind fun _ =>
      Plan.parts settings presets spec now with
  | error fault =>
      refine ⟨.error fault, fun e b _ => ?_⟩
      rw [query, compile_writing, h]
      rfl
  | ok p =>
      obtain ⟨_, -, hparts⟩ := bind_eq_ok h
      have hsound (e : DateEncoding) : p.Sound (settings.writing e) spec :=
        Plan.parts_sound ((Plan.parts_writing settings _ presets spec now).trans hparts)
      have hwindow (w : TimeWindow) (hw : p.window = some w) :
          w.start.FourDigitYear ∧ w.stop.FourDigitYear := by
        obtain ⟨r, hr, hresolve⟩ := Plan.resolve_of_parts hparts hw
        exact hrange r w hr hresolve
      obtain ⟨rows, hrows⟩ :=
        Plan.Parts.run_plan_written hsound hfield hspec hwindow (j.events spec.ns)
      refine ⟨.ok rows, fun e b hb => ?_⟩
      have hrun := hrows e
      rw [← hb.store.documents] at hrun
      rw [query, compile_writing, h]
      exact hb.aggregate_of_run hrun

theorem queryBody_writing (j : Journal) (hfield : field.text = settings.timestampField)
    {body : QueryBody} (hbody : ∀ spec, body.toSpec ns now = .ok spec →
      spec.OnTimestamp settings ∧ TimeRange.WithinFourDigits presets now spec.range) :
    ∃ rows : Except Error (List (TimedRow field.text)), ∀ e b, Backend.Holds field e j b →
      ((writing settings field presets e).queryBody now b ns body).result =
        rows.map (List.map (·.written e)) := by
  have hspecOf (e : DateEncoding) : (writing settings field presets e).specOf now ns body =
      (settings.checkNamespace ns).bind fun _ => body.toSpec ns now := rfl
  cases hns : (settings.checkNamespace ns).bind fun _ => body.toSpec ns now with
  | error fault =>
      refine ⟨.error fault, fun e b _ => ?_⟩
      rw [queryBody, hspecOf, hns]
      rfl
  | ok spec =>
      obtain ⟨_, -, hspec⟩ := bind_eq_ok hns
      obtain ⟨rows, hrows⟩ := query_writing j hfield (hbody spec hspec).1 (hbody spec hspec).2
      refine ⟨rows, fun e b hb => ?_⟩
      rw [queryBody, hspecOf, hns]
      exact hrows e b hb

theorem planScan_writing (e : DateEncoding) (r : ScanRequest) :
    (writing settings field presets e).planScan now r =
      (scanParts settings field presets now r).map fun q =>
        (scanFilter e q.1 q.2, ⟨[(q.1, r.order)], r.limit⟩) := by
  rw [planScan_eq]
  simp only [scanParts, writing, checkNamespace_writing, settings.encoding_writing]

theorem passes_scanFilter {name : FieldName} {window : Option TimeWindow}
    (hname : window ≠ none → name = field)
    (hwindow : ∀ w, window = some w → w.start.FourDigitYear ∧ w.stop.FourDigitYear)
    (e f : DateEncoding) (x : StoredEvent) :
    (scanFilter e name window).Passes (x.written field e) ↔
      (scanFilter f name window).Passes (x.written field f) := by
  cases window with
  | none => exact ⟨fun _ c hc => (by cases hc), fun _ c hc => by cases hc⟩
  | some w =>
      obtain ⟨hs, he⟩ := hwindow w rfl
      obtain rfl := hname (by simp)
      rw [scanFilter, Option.elim_some, scanFilter, Option.elim_some,
        Filter.passes_timeWindow_iff x.get?_time, Filter.passes_timeWindow_iff x.get?_time,
        TimeWindow.admits_iff_contains hs he, TimeWindow.admits_iff_contains hs he]

theorem of_scanParts {r : ScanRequest} {name : FieldName} {window : Option TimeWindow}
    (h : scanParts settings field presets now r = .ok (name, window)) :
    name.text = r.timestampField.getD field.text ∧
      ∀ w, window = some w → ∃ range, r.range = some range ∧
        range.resolve presets now = .ok w := by
  unfold scanParts at h
  obtain ⟨_, -, h⟩ := bind_eq_ok h
  obtain ⟨name', hname, h⟩ := bind_eq_ok h
  obtain ⟨window', hwindow, h⟩ := bind_eq_ok h
  cases h
  constructor
  · cases hts : r.timestampField with
    | none =>
        rw [hts] at hname
        rw [← Except.ok.inj hname]
        rfl
    | some raw =>
        rw [hts] at hname
        exact FieldName.text_of_parse hname
  · rintro w rfl
    exact Plan.resolve_of_elim hwindow

/-- A scan with a range has to be on the configured timestamp; one without may be on any field. -/
theorem scan_writing (j : Journal) (hfield : field.text = settings.timestampField) {r : ScanRequest}
    (hon : r.range ≠ none → r.timestampField.getD settings.timestampField = settings.timestampField)
    (hrange : TimeRange.WithinFourDigits presets now r.range) :
    ∃ rows : Except Error (List StoredEvent), ∀ e b, Backend.Holds field e j b →
      ((writing settings field presets e).scan now b r).result =
        rows.map (List.map (·.written field e)) := by
  cases h : scanParts settings field presets now r with
  | error fault =>
      refine ⟨.error fault, fun e b _ => ?_⟩
      rw [scan, planScan_writing, h]
      rfl
  | ok q =>
      obtain ⟨name, window⟩ := q
      obtain ⟨hname, hwindow⟩ := of_scanParts h
      have hbounds (w : TimeWindow) (hw : window = some w) :
          w.start.FourDigitYear ∧ w.stop.FourDigitYear := by
        obtain ⟨range, hr, hresolve⟩ := hwindow w hw
        exact hrange range w hr hresolve
      have hconfigured (hne : window ≠ none) : name = field := by
        obtain ⟨w, hw⟩ := Option.ne_none_iff_exists'.1 hne
        obtain ⟨range, hr, -⟩ := hwindow w hw
        have hts := hon (by simp [hr])
        rw [← hfield] at hts
        exact FieldName.text_injective (hname.trans hts)
      obtain ⟨found, -, hfound⟩ := Filter.find_views ⟨[(name, r.order)], r.limit⟩
        DateEncoding.string (fun e => scanFilter_total e name window)
        (fun e x => passes_scanFilter hconfigured hbounds e .string x)
        (fun e x y => Filter.compareBy_written name.text r.order e .string x y) (j.events r.ns)
      refine ⟨.ok found, fun e b hb => ?_⟩
      have hrun := hfound e
      rw [← hb.store.documents] at hrun
      rw [scan, planScan_writing, h]
      change b.find r.ns (scanFilter e name window) ⟨[(name, r.order)], r.limit⟩ = _
      rw [Backend.find, hb.running]
      dsimp only
      rw [Store.find, hrun]
      rfl

end Service

end EventRollup
