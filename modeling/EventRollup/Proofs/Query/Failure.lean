import EventRollup.Proofs.Query.Answer
import EventRollup.Service

namespace EventRollup

theorem Grouping.gather_eq_error {g : Grouping} {front rest : List Document} {d : Document}
    {fault : StoreFault} (hfront : ∀ e ∈ front, ∃ key, g.keyOf e = .ok key)
    (hd : g.keyOf d = .error fault) (buckets : List Bucket) :
    g.gather buckets (front ++ d :: rest) = .error fault := by
  induction front generalizing buckets with
  | nil =>
      rw [List.nil_append, gather, hd]
      rfl
  | cons e r ih =>
      obtain ⟨he, hr⟩ := List.forall_mem_cons.1 hfront
      obtain ⟨key, hkey⟩ := he
      rw [List.cons_append, gather, hkey]
      exact ih hr _

namespace QuerySpec

variable {settings : Settings} {spec : QuerySpec} {p : Plan.Parts}

/-- The text that a document holds as its time, if it is no timestamp. -/
def illegible? (settings : Settings) (spec : QuerySpec) (d : Document) : Option String :=
  match d.get? (spec.timestampName settings) with
  | some (.string text) => if (Timestamp.instant? text).isNone then some text else none
  | _ => none

theorem illegible?_eq_some_iff {d : Document} {text : String} :
    spec.illegible? settings d = some text ↔
      d.get? (spec.timestampName settings) = some (.string text) ∧
        Timestamp.instant? text = none := by
  unfold illegible?
  split
  · rename_i s hs
    by_cases hnone : Timestamp.instant? s = none
    · rw [if_pos (Option.isNone_iff_eq_none.2 hnone), hs]
      constructor
      · rintro ⟨⟩
        exact ⟨rfl, hnone⟩
      · rintro ⟨⟨⟩, -⟩
        rfl
    · rw [if_neg fun h => hnone (Option.isNone_iff_eq_none.1 h), hs]
      constructor
      · rintro ⟨⟩
      · rintro ⟨⟨⟩, h⟩
        exact absurd h hnone
  · rename_i hother
    constructor
    · rintro ⟨⟩
    · rintro ⟨h, -⟩
      exact absurd h (hother text)

theorem keyOf_illegible (hp : p.Sound settings spec) (hg : spec.granularity.isBinned = true)
    (he : settings.encoding = .string) {d : Document} {text : String}
    (h : spec.illegible? settings d = some text) :
    (Plan.grouping spec.granularity p.timestamp settings.encoding p.dimensions p.outputs).keyOf d =
      .error (.unreadableDateString text) := by
  obtain ⟨hget, hnone⟩ := illegible?_eq_some_iff.1 h
  rw [timestampName, ← hp.timestamp_text] at hget
  obtain ⟨parts, hparts⟩ : ∃ parts, spec.granularity.dateParts = .year :: parts := by
    cases hgranularity : spec.granularity with
    | all =>
        rw [hgranularity] at hg
        cases hg
    | _ => exact ⟨_, rfl⟩
  have hread : readInstant true (d.get? p.timestamp.text) =
      .error (.unreadableDateString text) := by
    simp only [hget, readInstant, hnone, if_true]
  have hstring : (DateEncoding.string == .string) = true := rfl
  simp only [Grouping.keyOf, Plan.grouping, hparts, List.map_cons, List.cons_append, he, hstring,
    Grouping.keyFrom, KeyExpr.ofDocument, hread, bind, Except.bind]

end QuerySpec

namespace Plan.Parts

variable {settings : Settings} {spec : QuerySpec} {p : Parts}

theorem string_of_passes (hp : p.Sound settings spec) (he : settings.encoding = .string)
    {d : Document} (h : (p.filter settings.encoding).Passes d) :
    ∃ text, d.get? (spec.timestampName settings) = some (.string text) := by
  have htype := typeIs_of_passes h
  rw [he, ValueType.ofEncoding, Condition.holds, Except.ok.injEq, Option.isSome_iff_exists] at htype
  obtain ⟨text, htext⟩ := htype
  obtain ⟨v, hv, hstring⟩ := Option.bind_eq_some_iff.1 htext
  rw [QuerySpec.timestampName, ← hp.timestamp_text, hv]
  cases v with
  | string s => exact ⟨s, rfl⟩
  | _ => cases hstring

theorem readable_of_passes (hp : p.Sound settings spec) {d : Document}
    (h : (p.filter settings.encoding).Passes d)
    (hlegible : settings.encoding = .string → spec.granularity.isBinned = true →
      spec.illegible? settings d = none) : spec.Readable settings d := by
  intro hg
  cases he : settings.encoding with
  | extended => exact timeOf_of_passes hp he h
  | string =>
      obtain ⟨text, htext⟩ := string_of_passes hp he h
      cases ht : Timestamp.instant? text with
      | some t =>
          refine ⟨t, ?_⟩
          rw [QuerySpec.timeOf, htext, he]
          exact ht
      | none =>
          rw [QuerySpec.illegible?_eq_some_iff.2 ⟨htext, ht⟩] at hlegible
          cases hlegible he hg

/-- The first text that passes and is no timestamp ends the run of a query that bins over texts. -/
theorem run_plan_illegible (hp : p.Sound settings spec) (he : settings.encoding = .string)
    (hg : spec.granularity.isBinned = true) {docs : List Document}
    (hdocs : ∀ d ∈ docs, d.keys.Nodup) {text : String}
    (h : ((p.filter settings.encoding).kept docs).findSome? (spec.illegible? settings) =
      some text) :
    (p.plan spec settings.encoding).pipeline.run docs = .error (.unreadableDateString text) := by
  obtain ⟨front, d, rest, hsplit, hd, hfront⟩ := List.findSome?_eq_some_iff.1 h
  have hkeys : ∀ e ∈ front, ∃ key, (grouping spec.granularity p.timestamp settings.encoding
      p.dimensions p.outputs).keyOf e = .ok key := by
    intro e hmem
    have hkept : e ∈ (p.filter settings.encoding).kept docs := by
      rw [hsplit]
      exact List.mem_append_left _ hmem
    exact ⟨_, QuerySpec.keyOf_eq hp (readable_of_passes hp (Filter.mem_kept.1 hkept).2
      fun _ _ => hfront e hmem)⟩
  have hfault := QuerySpec.keyOf_illegible hp hg he hd
  rw [run_plan_kept hp hdocs, hsplit, Grouping.run, Grouping.gather_eq_error hkeys hfault]
  rfl

theorem readable_or_illegible (hp : p.Sound settings spec) (docs : List Document) :
    (∀ d ∈ (p.filter settings.encoding).kept docs, spec.Readable settings d) ∨
      settings.encoding = .string ∧ spec.granularity.isBinned = true ∧ ∃ text,
        ((p.filter settings.encoding).kept docs).findSome? (spec.illegible? settings) =
          some text := by
  by_cases hmatters : settings.encoding = .string ∧ spec.granularity.isBinned = true
  · cases hfound : ((p.filter settings.encoding).kept docs).findSome?
        (spec.illegible? settings) with
    | some text => exact .inr ⟨hmatters.1, hmatters.2, text, rfl⟩
    | none =>
        refine .inl fun d hd => readable_of_passes hp (Filter.mem_kept.1 hd).2 fun _ _ => ?_
        exact List.findSome?_eq_none_iff.1 hfound d hd
  · refine .inl fun d hd => readable_of_passes hp (Filter.mem_kept.1 hd).2 fun he hg => ?_
    exact absurd ⟨he, hg⟩ hmatters

theorem run_plan_eq_error_iff (hp : p.Sound settings spec) {docs : List Document}
    (hdocs : ∀ d ∈ docs, d.keys.Nodup) {fault : StoreFault} :
    (p.plan spec settings.encoding).pipeline.run docs = .error fault ↔
      settings.encoding = .string ∧ spec.granularity.isBinned = true ∧ ∃ text,
        ((p.filter settings.encoding).kept docs).findSome? (spec.illegible? settings) =
          some text ∧ fault = .unreadableDateString text := by
  constructor
  · intro h
    rcases readable_or_illegible hp docs with hread | ⟨he, hg, text, htext⟩
    · rw [run_plan_grouped hp rfl hdocs hread] at h
      cases h
    · rw [run_plan_illegible hp he hg hdocs htext] at h
      exact ⟨he, hg, text, htext, (Except.error.inj h).symm⟩
  · rintro ⟨he, hg, text, htext, rfl⟩
    exact run_plan_illegible hp he hg hdocs htext

theorem readable_of_run (hp : p.Sound settings spec) {docs rows : List Document}
    (hdocs : ∀ d ∈ docs, d.keys.Nodup)
    (h : (p.plan spec settings.encoding).pipeline.run docs = .ok rows) :
    ∀ d ∈ (p.filter settings.encoding).kept docs, spec.Readable settings d := by
  refine (readable_or_illegible hp docs).resolve_right ?_
  rintro ⟨he, hg, text, htext⟩
  rw [run_plan_illegible hp he hg hdocs htext] at h
  cases h

end Plan.Parts

namespace Plan

/-- When the run of a compiled query fails, whatever documents it is run on: over texts, if it bins
and some document that passes its filter has a time that is no timestamp. The first of these is what
the failure names, and a store reports it as its own failure. -/
theorem run_fails_iff {settings : Settings} {presets : List Preset} {spec : QuerySpec}
    {now : Instant} {plan : Plan} (h : compile settings presets spec now = .ok plan) :
    ∃ f, plan.pipeline.filter? = some f ∧ ∀ docs : List Document, (∀ d ∈ docs, d.keys.Nodup) →
      ((∃ fault, plan.pipeline.run docs = .error fault) ↔
        settings.datesAsStrings = true ∧ spec.granularity.isBinned = true ∧
          ∃ d ∈ docs, f.accepts d = .ok true ∧ ∃ text,
            d.get? plan.timestampField.text = some (.string text) ∧
              Timestamp.instant? text = none) ∧
      (∀ fault, plan.pipeline.run docs = .error fault → ∃ text,
        (f.kept docs).findSome? (spec.illegible? settings) = some text ∧
          fault = .unreadableDateString text) ∧
      ∀ (b : Backend) (ns : String), b.outage = none → b.store.documents ns = docs →
        b.aggregate ns plan.pipeline = (plan.pipeline.run docs).mapError .store := by
  obtain ⟨p, hparts, rfl⟩ := parts_of_compile h
  have hp := parts_sound hparts
  have hmode : settings.encoding = .string ↔ settings.datesAsStrings = true := by
    rw [Settings.encoding]
    cases settings.datesAsStrings <;> decide
  refine ⟨p.filter settings.encoding, rfl, fun docs hdocs => ⟨?_, fun fault hfault => ?_, ?_⟩⟩
  · have hfound : (∃ text, ((p.filter settings.encoding).kept docs).findSome?
        (spec.illegible? settings) = some text) ↔
        ∃ d ∈ docs, (p.filter settings.encoding).accepts d = .ok true ∧
          ∃ text, d.get? p.timestamp.text = some (.string text) ∧
            Timestamp.instant? text = none := by
      rw [← Option.isSome_iff_exists, List.findSome?_isSome_iff]
      simp only [Filter.mem_kept, Option.isSome_iff_exists, QuerySpec.illegible?_eq_some_iff,
        Filter.accepts_eq_true_iff, hp.timestamp_text, QuerySpec.timestampName, and_assoc]
    simp only [Parts.run_plan_eq_error_iff hp hdocs, hmode]
    change _ ↔ _ ∧ _ ∧ ∃ d ∈ docs, (p.filter settings.encoding).accepts d = .ok true ∧
      ∃ text, d.get? p.timestamp.text = some (.string text) ∧ _
    rw [← hfound]
    constructor
    · rintro ⟨fault, he, hg, text, htext, -⟩
      exact ⟨he, hg, text, htext⟩
    · rintro ⟨he, hg, text, htext⟩
      exact ⟨_, he, hg, text, htext, rfl⟩
  · obtain ⟨-, -, hfirst⟩ := (Parts.run_plan_eq_error_iff hp hdocs).1 hfault
    exact hfirst
  · intro b ns houtage hstore
    rw [Backend.aggregate, houtage, Store.aggregate, hstore]

theorem run_fails_iff_yesterday :
    ∃ plan, compile ⟨[], "ts", "count", true⟩ [] hourlyLoads .epoch = .ok plan ∧
      plan.pipeline.run (readings ++ [[("ts", .string "yesterday")]]) =
        .error (.unreadableDateString "yesterday") := by
  let settings : Settings := ⟨[], "ts", "count", true⟩
  let f := Filter.timeWindow ⟨"ts", by decide⟩ none .string
  let docs := readings ++ [[("ts", .string "yesterday")]]
  have hcompiled : (compile settings [] hourlyLoads .epoch).toOption.map
      (fun plan => (plan.pipeline.filter?, plan.timestampField.text)) = some (some f, "ts") := by
    decide +kernel
  obtain ⟨plan, hplan, hpair⟩ := eq_ok_of_toOption hcompiled
  obtain ⟨hfilter, hfield⟩ := Prod.mk.inj hpair
  obtain ⟨f', hf', hfails⟩ := run_fails_iff hplan
  obtain rfl : f' = f := Option.some.inj (hf'.symm.trans hfilter)
  obtain ⟨hiff, hnamed, -⟩ := hfails docs (by decide)
  have haccepted : f.accepts [("ts", .string "yesterday")] = .ok true :=
    Filter.accepts_eq_true_iff.2 (by decide +kernel)
  obtain ⟨fault, hfault⟩ := hiff.2 ⟨rfl, rfl, _, List.mem_append_right _ List.mem_cons_self,
    haccepted, "yesterday", by rw [hfield]; rfl, by decide +kernel⟩
  obtain ⟨text, hfirst, rfl⟩ := hnamed fault hfault
  have hyesterday : (f.kept docs).findSome? (hourlyLoads.illegible? settings) =
      some "yesterday" := by decide +kernel
  obtain rfl : "yesterday" = text := Option.some.inj (hyesterday.symm.trans hfirst)
  exact ⟨plan, hplan, hfault⟩

end Plan

end EventRollup
