import EventRollup.Proofs.Finding
import EventRollup.Proofs.Query.Answer
import EventRollup.Proofs.Store.Views

namespace EventRollup

theorem Instant.compare_self (t : Instant) : compare t t = .eq :=
  (TotalPreorder.of_chained compare_chained compare_swap).refl t

namespace Json

theorem compare_self (v : Json) : compare v v = .eq :=
  (TotalPreorder.of_chained compare_chained compare_swap).refl v

/-- Values that are dates of one instant, whatever the spelling. -/
def SameDate (v w : Json) : Prop := ∃ t, v.asDate? = some t ∧ w.asDate? = some t

namespace SameDate

variable {v w : Json} (h : v.SameDate w)
include h

theorem objects : ∃ a b, v = .object a ∧ w = .object b := by
  obtain ⟨t, hv, hw⟩ := h
  cases v with
  | object a =>
      cases w with
      | object b => exact ⟨a, b, rfl, rfl⟩
      | _ => cases hw
  | _ => cases hv

theorem compare_eq : compare v w = .eq := by
  obtain ⟨a, b, rfl, rfl⟩ := h.objects
  obtain ⟨t, ha, hb⟩ := h
  rw [compare, ha, hb]
  exact t.compare_self

theorem compare_left (c : Json) : compare w c = compare v c :=
  ((compare_chained v w c).1 h.compare_eq).symm

theorem typeRank_eq : w.typeRank = v.typeRank := (typeRank_of_compare_eq h.compare_eq).symm

theorem matchesEq_eq : matchesEq (some w) = matchesEq (some v) := by
  funext operand
  have hcompare := h.compare_left operand
  obtain ⟨a, b, rfl, rfl⟩ := h.objects
  exact congrArg (· == Ordering.eq) hcompare

theorem matchesOrder_eq (accept : Ordering → Bool) (operand : Json) :
    matchesOrder accept (some w) operand = matchesOrder accept (some v) operand := by
  rw [matchesOrder, matchesOrder, h.typeRank_eq, h.compare_left]

theorem holds_eq (c : Condition) : c.holds (some w) = c.holds (some v) := by
  have hmatchesEq := h.matchesEq_eq
  have hmatchesOrder := h.matchesOrder_eq
  obtain ⟨a, b, rfl, rfl⟩ := h.objects
  obtain ⟨t, ha, hb⟩ := h
  cases c with
  | typeIs type =>
      cases type with
      | date => simp only [Condition.holds, Option.bind_some, ha, hb]
      | string => rfl
  | compare op operand =>
      cases op with
      | regex => rfl
      | «exists» => rfl
      | _ => simp only [Condition.holds, matchesIn, hmatchesEq, hmatchesOrder]

theorem readInstant_eq : readInstant false (some w) = readInstant false (some v) := by
  obtain ⟨t, hv, hw⟩ := h
  simp only [readInstant, hv, hw, Bool.false_eq_true, if_false]

end SameDate

end Json

namespace Document

inductive Redated (name : String) (d : Document) : Document → Prop
  | kept : Redated name d d
  | spelled {v w : Json} (hv : d.get? name = some v) (h : v.SameDate w) :
      Redated name d (d.insert name w)

namespace Redated

variable {name : String} {d d' : Document} (h : d.Redated name d')
include h

theorem get?_cases (other : String) : d'.get? other = d.get? other ∨ other = name ∧
    ∃ v w, d.get? other = some v ∧ d'.get? other = some w ∧ v.SameDate w := by
  cases h with
  | kept => exact .inl rfl
  | @spelled v w hv h =>
      rw [get?_insert]
      by_cases hname : name = other
      · subst hname
        exact .inr ⟨rfl, v, w, hv, if_pos rfl, h⟩
      · exact .inl (if_neg hname)

theorem get?_other {other : String} (hne : other ≠ name) : d'.get? other = d.get? other := by
  rcases h.get?_cases other with heq | ⟨rfl, -⟩
  · exact heq
  · exact absurd rfl hne

theorem nodup (hd : d.keys.Nodup) : d'.keys.Nodup := by
  cases h with
  | kept => exact hd
  | spelled hv h => exact nodup_insert hd _ _

theorem holds_eq (c : Condition) (other : String) :
    c.holds (d'.get? other) = c.holds (d.get? other) := by
  rcases h.get?_cases other with heq | ⟨-, v, w, hv, hw, hsame⟩
  · rw [heq]
  · rw [hv, hw, hsame.holds_eq]

theorem passes_iff (f : Filter) : f.Passes d' ↔ f.Passes d := by
  simp only [Filter.Passes, h.holds_eq]

theorem alike (keys : List (String × SortDirection)) : Alike keys d d' := by
  intro k _
  rw [sortValue, sortValue]
  rcases h.get?_cases k.1 with heq | ⟨-, v, w, hv, hw, hsame⟩
  · rw [heq, Json.compare_self]
  · rw [hv, hw]
    exact hsame.compare_eq

theorem readInstant_eq (other : String) :
    readInstant false (d'.get? other) = readInstant false (d.get? other) := by
  rcases h.get?_cases other with heq | ⟨-, v, w, hv, hw, hsame⟩
  · rw [heq]
  · rw [hv, hw, hsame.readInstant_eq]

end Redated

end Document

/-- A document beside the one it becomes when its date under a name is spelled in another way. -/
structure Redating (name : String) where
  document : Document
  rewritten : Document
  nodup : document.keys.Nodup
  redated : document.Redated name rewritten

namespace Redating

variable {name : String}

def side (r : Redating name) (again : Bool) : Document := cond again r.rewritten r.document

theorem passes_side (r : Redating name) (f : Filter) (again : Bool) :
    f.Passes (r.side again) ↔ f.Passes r.document := by
  cases again with
  | false => exact Iff.rfl
  | true => exact r.redated.passes_iff f

theorem compareBy_side (keys : List (String × SortDirection)) (again : Bool) (r s : Redating name) :
    Document.compareBy keys (r.side again) (s.side again) =
      Document.compareBy keys r.document s.document := by
  cases again with
  | false => rfl
  | true =>
      have hr := Document.compareBy_eq_eq_iff.2 (r.redated.alike keys)
      have hs := Document.compareBy_eq_eq_iff.2 (s.redated.alike keys)
      exact ((Document.compareBy_totalPreorder keys).congr _ _ _ _ hr hs).symm

variable {settings : Settings} {spec : QuerySpec} {p : Plan.Parts}

/-- The grouping of a query over dates does not tell the two documents apart, if it neither groups by
the date nor measures it: it asks of the date only what calendar parts it has. -/
theorem grouping_alike (hp : p.Sound settings spec) (he : settings.encoding = .extended)
    (hdims : ∀ x ∈ spec.dimensions, x.field ≠ name) (hmeasures : ∀ m ∈ spec.measures, m.field ≠ name)
    (r : Redating name) :
    (Plan.grouping spec.granularity p.timestamp settings.encoding p.dimensions p.outputs).Alike
      r.document r.rewritten where
  components := by
    rw [he]
    intro k hk
    rcases List.mem_append.1 hk with hpart | hdim
    · obtain ⟨part, -, rfl⟩ := List.mem_map.1 hpart
      change (KeyExpr.datePart part p.timestamp false).ofDocument r.rewritten =
        (KeyExpr.datePart part p.timestamp false).ofDocument r.document
      rw [KeyExpr.ofDocument, KeyExpr.ofDocument, r.redated.readInstant_eq]
    · obtain ⟨f, hf, rfl⟩ := List.mem_map.1 hdim
      have hasked : ∃ x ∈ spec.dimensions, x.field = f.text := by
        rw [← List.mem_map, ← List.mem_eraseDups, ← hp.dimensions_text]
        exact List.mem_map_of_mem hf
      obtain ⟨x, hx, hfield⟩ := hasked
      exact congrArg Except.ok (r.redated.get?_other (hfield ▸ hdims x hx))
  inputs := by
    intro a ha
    obtain ⟨o, ho, rfl⟩ := List.mem_map.1 ha
    have hasked : ∃ m ∈ spec.measures, m.field = o.field.text := by
      rw [← List.mem_map, ← QuerySpec.outputs_text hp]
      exact List.mem_map_of_mem ho
    obtain ⟨m, hm, hfield⟩ := hasked
    rw [Plan.Output.accumulator]
    cases o.counts with
    | true => rfl
    | false => exact r.redated.get?_other (hfield ▸ hmeasures m hm)

end Redating

namespace Plan

variable {settings : Settings} {presets : List Preset} {spec : QuerySpec} {now : Instant}
  {plan : Plan} {name : String}

theorem run_redated (h : compile settings presets spec now = .ok plan)
    (he : settings.datesAsStrings = false) (hdims : ∀ x ∈ spec.dimensions, x.field ≠ name)
    (hmeasures : ∀ m ∈ spec.measures, m.field ≠ name) (l : List (Redating name)) :
    plan.pipeline.run (l.map (·.rewritten)) = plan.pipeline.run (l.map (·.document)) := by
  obtain ⟨p, hparts, rfl⟩ := parts_of_compile h
  have hp := parts_sound hparts
  have hencoding : settings.encoding = .extended := by
    rw [Settings.encoding, he]
    rfl
  have hnodup : ∀ d ∈ l.map (·.document), d.keys.Nodup :=
    List.forall_mem_map.2 fun r _ => r.nodup
  have hnodup' : ∀ d ∈ l.map (·.rewritten), d.keys.Nodup :=
    List.forall_mem_map.2 fun r _ => r.redated.nodup r.nodup
  rw [Parts.run_plan_kept hp hnodup', Parts.run_plan_kept hp hnodup,
    Filter.kept_map (fun r => r.redated.passes_iff _) l, Filter.kept_map (fun _ => Iff.rfl) l,
    Grouping.run_alike fun r _ => r.grouping_alike hp hencoding hdims hmeasures]

end Plan

theorem Filter.find_redated {f : Filter} (hf : f.Total) (options : FindOptions) {name : String}
    (l : List (Redating name)) : ∃ found : List (Redating name), found.Subperm l ∧
      f.find options (l.map (·.document)) = .ok (found.map (·.document)) ∧
      f.find options (l.map (·.rewritten)) = .ok (found.map (·.rewritten)) := by
  obtain ⟨found, hsub, hfind⟩ := find_views options false (fun _ => hf)
    (fun again r => r.passes_side f again) (Redating.compareBy_side options.keys) l
  exact ⟨found, hsub, hfind false, hfind true⟩

/-- The spelling of dates is not seen. In a store of dates every document may have its date spelled in
another way. A query that neither groups by the date nor measures it then has the same outcome, be it
rows or a failure. A find within a window, sorted by the date or by any other fields and with any
limit, gives the same documents in the same order. -/
theorem redating_unseen (field : FieldName) (l : List (Redating field.text)) :
    (∀ (settings : Settings) (presets : List Preset) (spec : QuerySpec) (now : Instant) (plan : Plan),
        settings.datesAsStrings = false → Plan.compile settings presets spec now = .ok plan →
        (∀ x ∈ spec.dimensions, x.field ≠ field.text) →
        (∀ m ∈ spec.measures, m.field ≠ field.text) →
        plan.pipeline.run (l.map (·.rewritten)) = plan.pipeline.run (l.map (·.document))) ∧
      ∀ (window : Option TimeWindow) (options : FindOptions),
        ∃ found : List (Redating field.text), found.Subperm l ∧
          (Filter.timeWindow field window .extended).find options (l.map (·.document)) =
            .ok (found.map (·.document)) ∧
          (Filter.timeWindow field window .extended).find options (l.map (·.rewritten)) =
            .ok (found.map (·.rewritten)) := by
  constructor
  · intro settings presets spec now plan he hplan hdims hmeasures
    exact Plan.run_redated hplan he hdims hmeasures l
  · intro window options
    exact Filter.find_redated (Filter.timeWindow_total field window .extended) options l

namespace Redating

def reading {first second : Json} (h : first.SameDate second) (rest : Document)
    (hrest : ("ts" :: rest.keys).Nodup) : Redating "ts" where
  document := ("ts", first) :: rest
  rewritten := ("ts", second) :: rest
  nodup := hrest
  redated := .spelled rfl h

def dated (date : Json) : Json := .object [("$date", date)]

def long (digits : String) : Json := dated (.object [("$numberLong", .string digits)])

def readings : List (Redating "ts") :=
  let region : Document := [("region", .string "eu")]
  have eleven : (dated (.string "2024-03-01T12:59:00+02:00")).SameDate
      (dated (.int 1709290740000)) :=
    ⟨(Instant.ofMillis? 1709290740000).getD .epoch, by decide +kernel, by decide +kernel⟩
  have ten : (dated (.int 1709287200250)).SameDate (long "1709287200250") :=
    ⟨(Instant.ofMillis? 1709287200250).getD .epoch, by decide +kernel, by decide +kernel⟩
  have nine : (long "1709285400000").SameDate (dated (.string "2024-03-01T09:30:00Z")) :=
    ⟨(Instant.ofMillis? 1709285400000).getD .epoch, by decide +kernel, by decide +kernel⟩
  [reading eleven (region ++ [("load", .int 1)]) (by decide),
    reading ten (region ++ [("load", .int 5)]) (by decide), reading nine [] (by decide)]

def hours : List Document :=
  let day : Document := [("year", .int 2024), ("month", .int 3), ("day", .int 1)]
  [[("_id", .object (day ++ [("hour", .int 9)])), ("count", .int 1), ("load", .null)],
    [("_id", .object (day ++ [("hour", .int 10), ("region", .string "eu")])), ("count", .int 2),
      ("load", .int 5)]]

def fromTen : TimeWindow :=
  ⟨(Instant.ofMillis? 1709287200000).getD .epoch, (Instant.ofMillis? 1709290800000).getD .epoch⟩

end Redating

theorem redating_unseen_readings :
    ∃ plan, Plan.compile .standard [] Plan.hourlyLoads .epoch = .ok plan ∧
      plan.pipeline.run (Redating.readings.map (·.rewritten)) = .ok Redating.hours ∧
      ∃ found : List (Redating "ts"),
        found.map (·.document) = [Redating.readings[1].document, Redating.readings[0].document] ∧
        (Filter.timeWindow ⟨"ts", by decide⟩ (some Redating.fromTen) .extended).find
          ⟨[(⟨"ts", by decide⟩, .ascending)], some 2⟩ (Redating.readings.map (·.rewritten)) =
            .ok (found.map (·.rewritten)) := by
  let field : FieldName := ⟨"ts", by decide⟩
  let options : FindOptions := ⟨[(field, .ascending)], some 2⟩
  have hcompiled : (Plan.compile .standard [] Plan.hourlyLoads .epoch).toOption.map
      (fun plan => plan.pipeline.stages.drop 3) = some [.sort ⟨[(.groupKey, .ascending)]⟩] := by
    decide +kernel
  have hgrouped : (Plan.compile .standard [] Plan.hourlyLoads .epoch).toOption.map (fun plan =>
      (runStages (plan.pipeline.stages.take 3) (Redating.readings.map (·.document))).toOption) =
      some (some Redating.hours.reverse) := by decide +kernel
  obtain ⟨plan, hplan, hrest⟩ := eq_ok_of_toOption hcompiled
  rw [hplan] at hgrouped
  replace hgrouped := ok_of_toOption (Option.some.inj hgrouped)
  obtain ⟨hrun, hfind⟩ := redating_unseen field Redating.readings
  have hsorted : Document.sortBy [("_id", .ascending)] Redating.hours.reverse = Redating.hours := by
    change Document.sortBy _ [Redating.hours[1], Redating.hours[0]] = _
    rw [Document.sortBy_pair, if_neg (by decide +kernel)]
    rfl
  have hhours : plan.pipeline.run (Redating.readings.map (·.document)) = .ok Redating.hours := by
    rw [QuerySpec.run_of_take hgrouped, hrest]
    change Except.ok (Document.sortBy [("_id", .ascending)] _) = _
    rw [hsorted]
  obtain ⟨found, -, hdocument, hrewritten⟩ := hfind (some Redating.fromTen) options
  refine ⟨plan, hplan, ?_, found, ?_, hrewritten⟩
  · rw [← hhours]
    exact hrun .standard [] Plan.hourlyLoads .epoch plan rfl hplan (by decide) (by decide)
  · have hkept : (Filter.timeWindow field (some Redating.fromTen) .extended).kept
        (Redating.readings.map (·.document)) =
        [Redating.readings[0].document, Redating.readings[1].document] := by decide +kernel
    rw [Filter.find, Filter.run_total (Filter.timeWindow_total _ _ _), hkept] at hdocument
    change Except.ok (limited (some 2) (Document.sortBy options.keys _)) = _ at hdocument
    rw [Document.sortBy_pair, if_neg (by decide +kernel)] at hdocument
    exact (Except.ok.inj hdocument).symm

end EventRollup
