import EventRollup.Proofs.Deposits
import EventRollup.Proofs.Event
import EventRollup.Proofs.Finding
import Mathlib.Data.List.Forall2
import Mathlib.Data.List.Perm.Subperm

namespace EventRollup

namespace Instant

theorem NotAfter.of_compare {t u : Instant} (h : (compare t u).isLE = true) : t.NotAfter u := by
  rw [compare_isLE_iff] at h
  rw [NotAfter, compare_isLE_iff]
  simp only [toMillis]
  omega

def eve : Instant := (epoch.before? 31536000).getD epoch

theorem departure_bounds (t : Instant) (span : Int) :
    t.seconds ≤ t.departure span ∧ t.departure span ≤ t.seconds + 1 := by
  unfold departure
  split <;> omega

end Instant

namespace TimeWindow

/-- The time is between the bounds, which are part of the window. -/
def Spans (w : TimeWindow) (t : Instant) : Prop :=
  (Instant.compare w.start t).isLE = true ∧ (Instant.compare t w.stop).isLE = true

instance (w : TimeWindow) (t : Instant) : Decidable (w.Spans t) := by
  unfold Spans
  infer_instance

theorem Spans.contains {w : TimeWindow} {t : Instant} (h : w.Spans t) : w.Contains t :=
  ⟨.of_compare h.1, .of_compare h.2⟩

end TimeWindow

namespace Preset

theorem span_of_mem_standard : ∀ p ∈ standard,
    p.span = .sinceEpoch ∨ ∃ n, p.span = .seconds n ∧ 1 < n ∧ n ≤ 31536000 := by
  have hspan (n : Int) (h : 1 < n ∧ n ≤ 31536000) : PresetSpan.seconds n = .sinceEpoch ∨
      ∃ m, PresetSpan.seconds n = .seconds m ∧ 1 < m ∧ m ≤ 31536000 := .inr ⟨n, rfl, h⟩
  intro p hp
  simp only [standard, List.mem_cons, List.not_mem_nil, or_false] at hp
  rcases hp with rfl | rfl | rfl | rfl | rfl | rfl | rfl | rfl | rfl | rfl | rfl | rfl
  all_goals first | exact .inl rfl | exact hspan _ (by decide)

theorem fourDigitYear_start {p : Preset} (hp : p ∈ standard) {now start : Instant}
    (hepoch : (Instant.compare .epoch now).isLE = true) (hnow : now.FourDigitYear)
    (hstart : p.start? now = some start) : start.FourDigitYear := by
  rw [start?] at hstart
  rcases span_of_mem_standard p hp with hspan | ⟨n, hspan, hn, hleast⟩
  · rw [hspan] at hstart
    obtain rfl := Option.some.inj hstart
    decide
  · rw [hspan] at hstart
    have hseconds : 0 ≤ now.seconds := by
      rw [Instant.compare_isLE_iff] at hepoch
      change 0 < now.seconds ∨ 0 = now.seconds ∧ _ at hepoch
      omega
    have hcounted := Instant.seconds_before (by omega) hstart
    have hdeparture := now.departure_bounds n
    have heve : Instant.eve.NotAfter start := by
      refine .of_compare (Instant.compare_isLE_iff.2 ?_)
      change -31536000 < start.seconds ∨ -31536000 = start.seconds ∧ 0 ≤ start.nanos
      omega
    have hbefore : start.NotAfter now :=
      .of_compare (Instant.compare_isLE_iff.2 (.inl (by omega)))
    exact Instant.FourDigitYear.between (by decide : Instant.eve.FourDigitYear) hnow heve hbefore

end Preset

namespace TimeRange

/-- A range asked for while the clock shows a year from the epoch to the last of four digits, or
between two bounds of four-digit years. -/
def InYears (now : Instant) : TimeRange → Prop
  | .preset _ => (Instant.compare .epoch now).isLE = true ∧ now.FourDigitYear
  | .between start stop => start.FourDigitYear ∧ stop.FourDigitYear

theorem InYears.bounds {range : TimeRange} {now : Instant} (h : range.InYears now) {w : TimeWindow}
    (hw : range.resolve Preset.standard now = .ok w) :
    w.start.FourDigitYear ∧ w.stop.FourDigitYear := by
  cases range with
  | between start stop =>
      rw [← Except.ok.inj hw]
      exact h
  | preset name =>
      rw [resolve, Preset.resolve_eq_ok_iff] at hw
      obtain ⟨p, hfound, hstart, hstop⟩ := hw
      rw [hstop]
      exact ⟨Preset.fourDigitYear_start (List.mem_of_find?_eq_some hfound) h.1 h.2 hstart, h.2⟩

end TimeRange

/-- Nothing is said of the time: the field is missing or null. -/
def Event.Untimed (field : FieldName) (d : Document) : Prop :=
  d.get? field.text = none ∨ d.get? field.text = some .null

instance (field : FieldName) (d : Document) : Decidable (Event.Untimed field d) := by
  unfold Event.Untimed
  infer_instance

theorem Event.normalize_untimed {field : FieldName} {d : Document} (h : Untimed field d)
    (e : DateEncoding) (now : Instant) :
    normalize field e now d = .ok (d.insert field.text (e.encode now)) := by
  refine normalize_eq_ok_iff.2 ⟨now, ?_, rfl⟩
  rw [time]
  rcases h with h | h <;> rw [h]

/-- The stored form of a document without a time: the time is added, to the millisecond, and nothing
else changes but for an identifier where there was none. -/
structure StoredAt (name : String) (e : DateEncoding) (t : Instant) (d stored : Document) :
    Prop where
  time : (stored.get? name).bind e.decode? = some t.toMillis
  identifier : ∀ id, d.get? groupKey = some id → stored.get? groupKey = some id
  others : ∀ other, other ≠ name → other ≠ groupKey → stored.get? other = d.get? other

namespace Deposit

variable {ids : Nat → Json}

theorem get?_stored (x : Deposit) {name : String} (h : name ≠ groupKey) :
    (x.stored ids).get? name = x.document.get? name := by
  obtain ⟨d, number⟩ := x
  cases number with
  | none => rfl
  | some n =>
      have hnone : Document.get? [(groupKey, ids n)] name = none := if_neg fun he => h he.symm
      change Document.get? (d ++ [(groupKey, ids n)]) name = _
      rw [Document.get?_append, hnone, Option.or_none]

theorem stored_of_given {d : Document} {id : Json} (h : d.get? groupKey = some id) (n : Nat) :
    (of d n).stored ids = d := by
  rw [of, if_pos (Document.mem_keys_of_get? h)]
  rfl

theorem get?_time (field : FieldName) (e : DateEncoding) (t : Instant) (d : Document) (n : Nat) :
    ((of (d.insert field.text (e.encode t)) n).stored ids).get? field.text =
      some (e.encode t) := by
  rw [get?_stored _ field.text_ne_groupKey, of, Document.get?_insert, if_pos rfl]

theorem storedAt (field : FieldName) (e : DateEncoding) {t : Instant} (ht : t.FourDigitYear)
    (d : Document) (n : Nat) :
    StoredAt field.text e t d ((of (d.insert field.text (e.encode t)) n).stored ids) where
  time := by
    rw [get?_time, Option.bind_some, e.decode?_encode, if_pos ht]
  identifier := by
    intro id hid
    have hgiven : (d.insert field.text (e.encode t)).get? groupKey = some id := by
      rw [Document.get?_insert, if_neg field.text_ne_groupKey, hid]
    rw [stored_of_given hgiven, hgiven]
  others := by
    intro other hother hkey
    rw [get?_stored _ hkey, of, Document.get?_insert, if_neg fun he => hother he.symm]

end Deposit

theorem Store.documents_clear (s : Store) {ns other : String} (h : other ≠ ns) :
    (s.clear other).documents ns = s.documents ns := by
  obtain ⟨collections, ids, issued⟩ := s
  simp only [clear, documents]
  induction collections with
  | nil => rfl
  | cons c r ih =>
      obtain ⟨name, docs⟩ := c
      by_cases hname : name = other
      · have hne : (ns == name) = false := by
          rw [hname]
          exact beq_false_of_ne fun he => h he.symm
        rw [List.filter_cons_of_neg (by simp [hname]), List.lookup_cons, hne]
        exact ih
      · rw [List.filter_cons_of_pos (by simpa using hname), List.lookup_cons, List.lookup_cons]
        cases ns == name with
        | true => rfl
        | false => exact ih

theorem Backend.sublist_insertOne (b : Backend) (other : String) (d : Document) (ns : String) :
    (b.store.documents ns).Sublist ((b.insertOne other d).2.store.documents ns) := by
  rw [insertOne]
  cases b.outage with
  | some text => exact List.Sublist.refl _
  | none =>
      obtain ⟨stored, hstored⟩ := b.store.documents_insertOne other d ns
      dsimp only
      rw [hstored]
      split
      · exact List.sublist_append_left _ _
      · exact List.Sublist.refl _

namespace Session

/-- The document without a time that a step puts into a namespace, with the reading of the clock, if
the window spans that. -/
def arrival (s : Session) (ns : String) (w : TimeWindow) (step : Step) :
    List (Instant × Document) :=
  match step.insertion? with
  | some (other, d) =>
    if other = ns ∧ s.backend.outage = none ∧ Event.Untimed s.service.timestampField d ∧
        w.Spans s.now then [(s.now, d)]
    else []
  | none => []

def arrivals (ns : String) (w : TimeWindow) : Session → List Step → List (Instant × Document)
  | _, [] => []
  | s, step :: r => s.arrival ns w step ++ arrivals ns w (s.run step).2 r

def Arrived (s : Session) (w : TimeWindow) (a : Instant × Document) (x : Deposit) : Prop :=
  w.Spans a.1 ∧ ∃ n, x = .of (a.2.insert s.service.timestampField.text
    (s.service.settings.encoding.encode a.1)) n

theorem arrived_entry (s : Session) {ns : String} (hns : s.service.settings.allows ns = true)
    (w : TimeWindow) (step : Step) : ∃ xs, xs.Sublist (s.entry ns step) ∧
      List.Forall₂ (s.Arrived w) (s.arrival ns w step) xs := by
  unfold arrival entry
  cases step.insertion? with
  | none => exact ⟨[], .slnil, .nil⟩
  | some i =>
      obtain ⟨other, d⟩ := i
      dsimp only
      by_cases h : other = ns ∧ s.backend.outage = none ∧
          Event.Untimed s.service.timestampField d ∧ w.Spans s.now
      · rw [if_pos h]
        obtain ⟨rfl, houtage, huntimed, hspans⟩ := h
        have haccepted : s.accepted? other d = some (.of (d.insert s.service.timestampField.text
            (s.service.settings.encoding.encode s.now)) s.backend.store.issued) := by
          have hprepare : s.service.prepare s.now other d = .ok (d.insert
              s.service.timestampField.text (s.service.settings.encoding.encode s.now)) := by
            rw [Service.prepare, Settings.checkNamespace, if_pos hns]
            exact Event.normalize_untimed huntimed _ _
          rw [accepted?, hprepare, houtage]
        rw [if_pos rfl, haccepted]
        exact ⟨_, List.Sublist.refl _, .cons ⟨hspans, _, rfl⟩ .nil⟩
      · rw [if_neg h]
        exact ⟨[], List.nil_sublist _, .nil⟩

theorem arrived_entries (s : Session) {ns : String} (hns : s.service.settings.allows ns = true)
    (w : TimeWindow) (steps : List Step) : ∃ xs, xs.Sublist (entries ns s steps) ∧
      List.Forall₂ (s.Arrived w) (arrivals ns w s steps) xs := by
  induction steps generalizing s with
  | nil => exact ⟨[], .slnil, .nil⟩
  | cons step r ih =>
      have hservice := s.service_run step
      obtain ⟨xs, hxs, harrived⟩ := s.arrived_entry hns w step
      obtain ⟨ys, hys, hlater⟩ := ih (s.run step).2 (by rw [hservice, hns])
      refine ⟨xs ++ ys, hxs.append hys, List.rel_append harrived ?_⟩
      unfold Arrived at hlater ⊢
      rwa [hservice] at hlater

/-- A step takes nothing out of a namespace but by clearing it. -/
theorem sublist_documents_run (s : Session) {ns : String} {step : Step} (h : step ≠ .clear ns) :
    (s.backend.store.documents ns ++
        (s.entry ns step).map (·.stored s.backend.store.identifier)).Sublist
      ((s.run step).2.backend.store.documents ns) := by
  by_cases hstep : step.isServed = true
  · rw [s.documents_run_entry hstep]
  · have hentry : s.entry ns step = [] := by
      cases step <;> first | rfl | exact absurd rfl hstep
    rw [hentry, List.map_nil, List.append_nil]
    cases step with
    | put other d => exact s.backend.sublist_insertOne other d ns
    | clear other =>
        have hne : other ≠ ns := fun he => h (he ▸ rfl)
        have hkept : (s.run (.clear other)).2.backend.store.documents ns =
            s.backend.store.documents ns := s.backend.store.documents_clear hne
        rw [hkept]
    | _ => first | exact List.Sublist.refl _ | exact absurd rfl hstep

theorem sublist_documents_runAll (s : Session) {ns : String} {steps : List Step}
    (h : .clear ns ∉ steps) :
    (s.backend.store.documents ns ++
        (entries ns s steps).map (·.stored s.backend.store.identifier)).Sublist
      ((s.runAll steps).2.backend.store.documents ns) := by
  induction steps generalizing s with
  | nil =>
      rw [entries, List.map_nil, List.append_nil]
      exact List.Sublist.refl _
  | cons step r ih =>
      obtain ⟨hstep, hr⟩ := not_or.1 (fun hmem => h (List.mem_cons.2 hmem))
      have hhere := s.sublist_documents_run fun he => hstep he.symm
      rw [entries, List.map_append, ← List.append_assoc]
      have hlater := ih (s.run step).2 hr
      rw [identifier_run] at hlater
      exact (hhere.append_right _).trans hlater

end Session

theorem Service.of_start {settings : Settings} {s : Service} (h : start settings = .ok s) :
    s.settings = settings ∧ FieldName.parse settings.timestampField = .ok s.timestampField ∧
      s.presets = Preset.standard := by
  obtain ⟨_, -, h⟩ := bind_eq_ok h
  obtain ⟨field, hfield, h⟩ := bind_eq_ok h
  rw [← Except.ok.inj h]
  exact ⟨rfl, hfield, rfl⟩

theorem Service.scan_configured {settings : Settings} {s : Service}
    (h : start settings = .ok s) {r : ScanRequest} (hns : settings.allows r.ns = true)
    (hfield : r.timestampField.getD settings.timestampField = settings.timestampField)
    (hlimit : r.limit = none) {range : TimeRange} (hrange : r.range = some range) {now : Instant}
    {w : TimeWindow} (hw : range.resolve Preset.standard now = .ok w) {b : Backend}
    (hb : b.outage = none) : (s.scan now b r).result =
      .ok (Document.sortBy [(s.timestampField.text, r.order)]
        ((Filter.timeWindow s.timestampField (some w) settings.encoding).kept
          (b.store.documents r.ns))) := by
  obtain ⟨hsettings, hparse, hpresets⟩ := of_start h
  have hname : r.timestampField.elim (.ok s.timestampField) FieldName.parse =
      .ok s.timestampField := by
    cases hraw : r.timestampField with
    | none => rfl
    | some raw =>
        rw [hraw, Option.getD_some] at hfield
        rw [Option.elim_some, hfield, hparse]
  have hwindow : (r.range.elim (.ok none) fun range => (range.resolve s.presets now).map some) =
      .ok (some w) := by
    rw [hrange, Option.elim_some, hpresets, hw]
    rfl
  rw [scan_eq b hname hwindow, hsettings, Settings.checkNamespace, if_pos hns, hlimit, Except.bind,
    Backend.find, hb]
  dsimp only
  rw [Store.find, Filter.find_total (scanFilter_total _ _ _)]
  rfl

namespace Session

/-- Whatever a run inserts without a time into a namespace is seen by a later scan of it, if the
window spans the clock at the insert: once for every such insert, at that time to the millisecond.
The window is that of a standard preset, or given by its bounds, and nothing but clearing the
namespace takes a document away. -/
theorem untimed_inserts_visible {settings : Settings} {s : Session}
    (h : Service.start settings = .ok s.service) {steps : List Step} {r : ScanRequest}
    (hns : settings.allows r.ns = true) (hsteps : .clear r.ns ∉ steps)
    (hrunning : (s.runAll steps).2.backend.outage = none)
    (hfield : r.timestampField.getD settings.timestampField = settings.timestampField)
    (hlimit : r.limit = none) {range : TimeRange} (hrange : r.range = some range)
    (hyears : range.InYears (s.runAll steps).2.now) {w : TimeWindow}
    (hw : range.resolve Preset.standard (s.runAll steps).2.now = .ok w) :
    ∃ rows visible : List Document,
      ((s.runAll steps).2.run (.scan r)).1.result = .ok (.documents rows) ∧
      visible.Subperm rows ∧
      List.Forall₂ (fun a stored => StoredAt settings.timestampField settings.encoding a.1 a.2 stored)
        (arrivals r.ns w s steps) visible := by
  obtain ⟨hsettings, hparse, -⟩ := Service.of_start h
  obtain ⟨hstart, hstop⟩ := hyears.bounds hw
  obtain ⟨filter, hfilter⟩ : ∃ f, f = Filter.timeWindow s.service.timestampField (some w)
    settings.encoding := ⟨_, rfl⟩
  have hscan := Service.scan_configured h hns hfield hlimit hrange hw hrunning
  rw [← hfilter, ← s.service_runAll steps] at hscan
  obtain ⟨xs, hxs, harrived⟩ := s.arrived_entries (hsettings ▸ hns) w steps
  obtain ⟨ids, hids⟩ : ∃ ids, ids = s.backend.store.identifier := ⟨_, rfl⟩
  have hseen : List.Forall₂ (fun a x => filter.Passes (x.stored ids) ∧
      StoredAt settings.timestampField settings.encoding a.1 a.2 (x.stored ids))
      (arrivals r.ns w s steps) xs := by
    refine harrived.imp fun a x hax => ?_
    obtain ⟨hspans, n, rfl⟩ := hax
    rw [hsettings, ← FieldName.text_of_parse hparse]
    have hcontains := hspans.contains
    have hyear := hstart.between hstop hcontains.1 hcontains.2
    refine ⟨?_, Deposit.storedAt _ _ hyear _ _⟩
    rw [hfilter, Filter.passes_timeWindow_iff (Deposit.get?_time _ _ _ _ _),
      TimeWindow.admits_iff_contains hstart hstop]
    exact hcontains
  obtain ⟨hpass, hstored⟩ := (List.forall₂_and_left _ _).1 hseen.flip
  -- what passes is found among the documents, as often as it was put there
  have hsub : (xs.map (·.stored ids)).Sublist
      (filter.kept ((s.runAll steps).2.backend.store.documents r.ns)) := by
    have hself : (xs.map (·.stored ids)).filter (fun d => decide (filter.Passes d)) =
        xs.map (·.stored ids) := by
      rw [List.filter_eq_self, List.forall_mem_map]
      exact fun x hx => decide_eq_true (hpass x hx)
    rw [← hself, hids]
    refine List.Sublist.filter _ ((hxs.map _).trans ?_)
    exact (List.sublist_append_right _ _).trans (s.sublist_documents_runAll hsteps)
  exact ⟨_, xs.map (·.stored ids), congrArg (Except.map Answer.documents) hscan,
    hsub.subperm.trans (List.mergeSort_perm _ _).symm.subperm,
    List.forall₂_map_right_iff.2 hstored.flip⟩

def justAfter : Instant :=
  ⟨1700006400, 999999, by decide, by decide, by decide, by decide⟩

def minuteLater : Instant :=
  ⟨1700006460, 999999, by decide, by decide, by decide, by decide⟩

def sightings : List Step :=
  [.setClock justAfter, .insert "events" [("load", .int 1)],
    .insertDetached "events" [("load", .int 1)], .insert "events" [("ts", .int 0)],
    .setClock minuteLater]

def lastMinute : ScanRequest :=
  ⟨"events", some (.preset " 1 minute"), none, .descending, none, false⟩

theorem untimed_inserts_visible_sightings :
    ∃ s : Session, Service.start ⟨[], "ts", "count", true⟩ = .ok s.service ∧
      TimeRange.resolve Preset.standard minuteLater (.preset " 1 minute") =
        .ok ⟨justAfter, minuteLater⟩ ∧
      arrivals "events" ⟨justAfter, minuteLater⟩ s sightings =
        [(justAfter, [("load", .int 1)]), (justAfter, [("load", .int 1)])] ∧
      ∃ rows visible : List Document,
        ((s.runAll sightings).2.run (.scan lastMinute)).1.result = .ok (.documents rows) ∧
        visible.Subperm rows ∧
        List.Forall₂ (fun a stored => StoredAt "ts" .string a.1 a.2 stored)
          [(justAfter, [("load", .int 1)]), (justAfter, [("load", .int 1)])] visible := by
  let s : Session :=
    ⟨⟨⟨[], "ts", "count", true⟩, ⟨"ts", by decide⟩, Preset.standard⟩, ⟨.empty, none⟩, .epoch⟩
  have hstart : Service.start ⟨[], "ts", "count", true⟩ = .ok s.service := rfl
  have hwindow : TimeRange.resolve Preset.standard minuteLater (.preset " 1 minute") =
      .ok ⟨justAfter, minuteLater⟩ := ok_of_toOption (by decide +kernel)
  have harrivals : arrivals "events" ⟨justAfter, minuteLater⟩ s sightings =
      [(justAfter, [("load", .int 1)]), (justAfter, [("load", .int 1)])] := by decide +kernel
  have hnow : (s.runAll sightings).2.now = minuteLater := by decide +kernel
  have hrunning : (s.runAll sightings).2.backend.outage = none := by decide +kernel
  have hyears : TimeRange.InYears (s.runAll sightings).2.now (.preset " 1 minute") := by
    rw [hnow]
    exact ⟨by decide, by decide⟩
  obtain ⟨rows, visible, hscan, hsub, hstored⟩ := @untimed_inserts_visible _ s hstart sightings
    lastMinute rfl (by decide) hrunning rfl rfl _ rfl hyears _ (hnow ▸ hwindow)
  exact ⟨s, hstart, hwindow, harrivals, rows, visible, hscan, hsub, harrivals ▸ hstored⟩

end Session

end EventRollup
