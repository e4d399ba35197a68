import EventRollup.Pipeline.Plan
import EventRollup.Proofs.Pipeline.TimeWindow
import EventRollup.Proofs.Store.Classes

namespace EventRollup

theorem bind_eq_ok {ε α β : Type} {x : Except ε α} {f : α → Except ε β} {b : β}
    (h : (x >>= f) = .ok b) : ∃ a, x = .ok a ∧ f a = .ok b := by
  cases x with
  | error e => cases h
  | ok a => exact ⟨a, rfl, h⟩

theorem eq_ok_of_toOption {ε α β : Type} {x : Except ε α} {f : α → β} {b : β}
    (h : x.toOption.map f = some b) : ∃ a, x = .ok a ∧ f a = b := by
  cases x with
  | error e => cases h
  | ok a => exact ⟨a, rfl, Option.some.inj h⟩

theorem ok_of_toOption {ε α : Type} {x : Except ε α} {a : α} (h : x.toOption = some a) :
    x = .ok a := by
  cases x with
  | error e => cases h
  | ok b => rw [Option.some.inj h]

theorem FieldName.text_injective {f g : FieldName} (h : f.text = g.text) : f = g := by
  obtain ⟨text, _⟩ := f
  obtain ⟨text', _⟩ := g
  cases h
  rfl

theorem FieldName.text_inj {f g : FieldName} : f.text = g.text ↔ f = g :=
  ⟨text_injective, congrArg text⟩

theorem FieldName.mem_texts {f : FieldName} {l : List FieldName} :
    f.text ∈ l.map (·.text) ↔ f ∈ l := by
  simp [text_inj]

theorem FieldName.nodup_texts {α : Type} {field : α → FieldName} {l : List α}
    (h : (l.map field).Nodup) : (l.map fun a => (field a).text).Nodup := by
  rw [List.Nodup, List.pairwise_map] at h ⊢
  exact h.imp fun hne he => hne (text_injective he)

theorem FieldName.text_of_parse {raw : String} {f : FieldName} (h : parse raw = .ok f) :
    f.text = raw := by
  unfold parse at h
  split at h
  · cases h
    rfl
  · cases h

theorem map_eraseDups {α β : Type} [DecidableEq α] [DecidableEq β] {f : α → β}
    (hf : ∀ a b, f a = f b → a = b) (l : List α) : l.eraseDups.map f = (l.map f).eraseDups := by
  match l with
  | [] => rfl
  | a :: r =>
      have hrest : (r.filter fun b => !b == a).map f = (r.map f).filter fun b => !b == f a := by
        rw [List.filter_map]
        congr 1
        refine List.filter_congr fun b _ => ?_
        by_cases h : b = a
        · rw [h]
          simp
        · have hne : f b ≠ f a := fun he => h (hf b a he)
          rw [Function.comp_apply, beq_false_of_ne h, beq_false_of_ne hne]
      rw [List.eraseDups_cons, List.map_cons, map_eraseDups hf, List.map_cons, List.eraseDups_cons,
        hrest]
termination_by l.length
decreasing_by exact Nat.lt_succ_of_le (List.length_filter_le _ r)

namespace Plan

/-- What a query asks for once its names, its range and its operands are checked. -/
structure Parts where
  timestamp : FieldName
  dimensions : List FieldName
  outputs : List Output
  window : Option TimeWindow
  conditions : List (FieldName × Condition)

def conditionsOf : List (Dimension × FieldName) → Except Error (List (FieldName × Condition))
  | [] => .ok []
  | (d, field) :: r =>
    match d.op with
    | none => conditionsOf r
    | some op => do
      let v ← operand d op
      let cs ← conditionsOf r
      .ok ((field, .compare op v) :: cs)

def parts (settings : Settings) (presets : List Preset) (spec : QuerySpec) (now : Instant) :
    Except Error Parts := do
  let timestamp ← FieldName.parse (spec.timestampField.getD settings.timestampField)
  let names ← spec.dimensions.mapM fun d => FieldName.parse d.field
  let dimensions ← distinctDimensions spec.granularity timestamp [] names
  let outs ← outputs settings spec.granularity timestamp dimensions [] spec.measures
  let window ← spec.range.elim (.ok none) fun r => (r.resolve presets now).map some
  let conditions ← conditionsOf (spec.dimensions.zip names)
  .ok ⟨timestamp, dimensions, outs, window, conditions⟩

def pushAll (cs : List (FieldName × Condition)) (f : Filter) : Filter :=
  cs.foldl (fun f c => f.push c.1 c.2) f

theorem conditions_pushAll (cs : List (FieldName × Condition)) (f : Filter) :
    (pushAll cs f).conditions.Perm (cs ++ f.conditions) := by
  induction cs generalizing f with
  | nil => exact List.Perm.refl _
  | cons c r ih =>
      have hrest := ih (f.push c.1 c.2)
      have hpush := (f.conditions_push c.1 c.2).append_left r
      exact (hrest.trans hpush).trans List.perm_middle

namespace Parts

def filter (p : Parts) (encoding : DateEncoding) : Filter :=
  pushAll p.conditions (Filter.timeWindow p.timestamp p.window encoding)

def sorting (p : Parts) (spec : QuerySpec) : SortOrder :=
  sortOrder spec.granularity spec.measures p.outputs

def plan (p : Parts) (spec : QuerySpec) (encoding : DateEncoding) : Plan where
  pipeline := ⟨[.filter (p.filter encoding),
      .project (projection spec.granularity p.timestamp p.dimensions p.outputs),
      .group (grouping spec.granularity p.timestamp encoding p.dimensions p.outputs)] ++
    (if (p.sorting spec).keys.isEmpty then [] else [.sort (p.sorting spec)]) ++
    limitStage spec.limit⟩
  granularity := spec.granularity
  dimensions := p.dimensions
  timestampField := p.timestamp
  encoding := encoding

end Parts

theorem addConditions_eq (l : List (Dimension × FieldName)) (f : Filter) :
    addConditions l f = (conditionsOf l).map fun cs => pushAll cs f := by
  induction l generalizing f with
  | nil => rfl
  | cons e r ih =>
      obtain ⟨d, field⟩ := e
      rw [addConditions, conditionsOf]
      cases d.op with
      | none => exact ih f
      | some op =>
          dsimp only
          cases operand d op with
          | error fault => rfl
          | ok v =>
              simp only [bind, Except.bind, ih]
              cases conditionsOf r <;> rfl

theorem compile_eq_parts (settings : Settings) (presets : List Preset) (spec : QuerySpec)
    (now : Instant) : compile settings presets spec now =
      (parts settings presets spec now).map fun p => p.plan spec settings.encoding := by
  simp only [compile, parts, addConditions_eq, bind, Except.bind]
  cases FieldName.parse (spec.timestampField.getD settings.timestampField) with
  | error e => rfl
  | ok timestamp =>
      dsimp only
      cases spec.dimensions.mapM fun d => FieldName.parse d.field with
      | error e => rfl
      | ok names =>
          dsimp only
          cases distinctDimensions spec.granularity timestamp [] names with
          | error e => rfl
          | ok dims =>
              dsimp only
              cases outputs settings spec.granularity timestamp dims [] spec.measures with
              | error e => rfl
              | ok outs =>
                  dsimp only
                  cases spec.range.elim (.ok none) fun r => (r.resolve presets now).map some with
                  | error e => rfl
                  | ok window =>
                      dsimp only
                      cases conditionsOf (spec.dimensions.zip names) <;> rfl

theorem parts_of_compile {settings : Settings} {presets : List Preset} {spec : QuerySpec}
    {now : Instant} {plan : Plan} (h : compile settings presets spec now = .ok plan) :
    ∃ p, parts settings presets spec now = .ok p ∧ p.plan spec settings.encoding = plan := by
  rw [compile_eq_parts] at h
  cases hparts : parts settings presets spec now with
  | error e =>
      rw [hparts] at h
      cases h
  | ok p =>
      rw [hparts] at h
      exact ⟨p, rfl, Except.ok.inj h⟩

theorem mapM_parse_text {α : Type} {raw : α → String} {l : List α} {names : List FieldName}
    (h : l.mapM (fun a => FieldName.parse (raw a)) = .ok names) :
    names.map (·.text) = l.map raw := by
  induction l generalizing names with
  | nil =>
      cases h
      rfl
  | cons a r ih =>
      rw [List.mapM_cons] at h
      obtain ⟨f, hf, h⟩ := bind_eq_ok h
      obtain ⟨fs, hfs, h⟩ := bind_eq_ok h
      rw [← Except.ok.inj h, List.map_cons, List.map_cons, FieldName.text_of_parse hf, ih hfs]

/-- Where a query bins, a dimension without fault is neither the timestamp nor called like a calendar
part of the grouping key. -/
theorem dimensionFault?_eq_none_iff {g : Granularity} {timestamp field : FieldName} :
    dimensionFault? g timestamp field = none ↔
      (g.isBinned = true → field ≠ timestamp ∧ field.text ∉ g.dateParts.map (·.key)) := by
  unfold dimensionFault?
  cases g.isBinned with
  | false => simp
  | true => by_cases h : field = timestamp <;> simp [h]

theorem distinctDimensions_eq {g : Granularity} {timestamp : FieldName}
    {before names dims : List FieldName}
    (h : distinctDimensions g timestamp before.eraseDups names = .ok dims) :
    dims = (before ++ names).eraseDups ∧
      ∀ f ∈ names, dimensionFault? g timestamp f = none := by
  induction names generalizing before with
  | nil =>
      rw [distinctDimensions] at h
      rw [← Except.ok.inj h, List.append_nil]
      exact ⟨rfl, fun f hf => by cases hf⟩
  | cons f r ih =>
      rw [distinctDimensions] at h
      cases hfault : dimensionFault? g timestamp f with
      | some fault =>
          rw [hfault] at h
          cases h
      | none =>
          have hnext : (if f ∈ before.eraseDups then before.eraseDups else before.eraseDups ++ [f]) =
              (before ++ [f]).eraseDups := by
            rw [eraseDups_concat]
            simp only [List.mem_eraseDups]
          rw [hfault, hnext] at h
          obtain ⟨hdims, hrest⟩ := ih h
          rw [hdims, List.append_assoc, List.singleton_append]
          exact ⟨rfl, List.forall_mem_cons.2 ⟨hfault, hrest⟩⟩

def Output.told (o : Output) : String × AggregateOperator × Bool := (o.field.text, o.op, o.counts)

theorem Output.output_accumulator (o : Output) : o.accumulator.output = o.field := by
  rw [accumulator]
  split <;> rfl

/-- A measure without fault is beside the dimensions, the measures before it and, where the query
bins, the timestamp. -/
theorem measureFault?_eq_none_iff {g : Granularity} {timestamp field : FieldName}
    {dims : List FieldName} {seen : List Output} :
    measureFault? g timestamp dims seen field = none ↔
      (g.isBinned = true → field ≠ timestamp) ∧ field ∉ dims ∧ field ∉ seen.map (·.field) := by
  unfold measureFault?
  cases g.isBinned with
  | false => by_cases hdims : field ∈ dims <;> simp [hdims]
  | true =>
      by_cases h : field = timestamp <;> by_cases hdims : field ∈ dims <;> simp [h, hdims]

theorem outputs_eq {settings : Settings} {g : Granularity} {timestamp : FieldName}
    {dims : List FieldName} {seen outs : List Output} {measures : List Measure}
    (hseen : (seen.map (·.field)).Nodup)
    (h : outputs settings g timestamp dims seen measures = .ok outs) :
    (outs.map (·.field)).Nodup ∧ ∃ added, outs = seen ++ added ∧
      added.map Output.told =
        measures.map (fun m => (m.field, m.effective, m.field == settings.countMeasure)) ∧
      ∀ o ∈ added, o.field ∉ dims ∧ (g.isBinned = true → o.field ≠ timestamp) := by
  induction measures generalizing seen with
  | nil =>
      rw [outputs] at h
      rw [← Except.ok.inj h]
      exact ⟨hseen, [], (List.append_nil _).symm, rfl, fun o ho => by cases ho⟩
  | cons m r ih =>
      rw [outputs] at h
      obtain ⟨field, hf, h⟩ := bind_eq_ok h
      cases hfault : measureFault? g timestamp dims seen field with
      | some fault =>
          rw [hfault] at h
          cases h
      | none =>
          rw [hfault] at h
          obtain ⟨htimestamp, hdims, hnew⟩ := measureFault?_eq_none_iff.1 hfault
          have hnext : ((seen ++ [(⟨field, m.effective, field.text == settings.countMeasure⟩ :
              Output)]).map (·.field)).Nodup := by
            rw [List.map_append, List.map_singleton]
            exact nodup_concat hseen hnew
          obtain ⟨hnodup, added, houts, htold, hrest⟩ := ih hnext h
          rw [List.append_assoc, List.singleton_append] at houts
          refine ⟨hnodup, _ :: added, houts, ?_,
            List.forall_mem_cons.2 ⟨⟨hdims, htimestamp⟩, hrest⟩⟩
          rw [List.map_cons, List.map_cons, htold, Output.told, FieldName.text_of_parse hf]

theorem pattern_of_operand {d : Dimension} {v : Json} (h : operand d .regex = .ok v) :
    ∃ pattern, d.value = some (.string pattern) ∧ v = .string pattern ∧
      Pattern.isValid pattern = true := by
  obtain ⟨field, op, value⟩ := d
  cases value with
  | none => cases h
  | some operand =>
      cases operand with
      | string pattern =>
          by_cases hvalid : Pattern.isValid pattern = true
          · have hv : Except.ok (.string pattern) = Except.ok (ε := Error) v := by
              rw [← h]
              exact (if_pos hvalid).symm
            exact ⟨pattern, rfl, (Except.ok.inj hv).symm, hvalid⟩
          · have hv : Except.error (Error.invalidFilter field .invalidPattern) = Except.ok v := by
              rw [← h]
              exact (if_neg hvalid).symm
            cases hv
      | _ => cases h

theorem total_of_conditionsOf {l : List (Dimension × FieldName)} {cs : List (FieldName × Condition)}
    (h : conditionsOf l = .ok cs) : ∀ c ∈ cs, c.2.Total := by
  induction l generalizing cs with
  | nil =>
      rw [conditionsOf] at h
      rw [← Except.ok.inj h]
      exact fun c hc => by cases hc
  | cons e r ih =>
      obtain ⟨d, field⟩ := e
      rw [conditionsOf] at h
      cases hop : d.op with
      | none =>
          rw [hop] at h
          exact ih h
      | some op =>
          rw [hop] at h
          obtain ⟨v, hv, h⟩ := bind_eq_ok h
          obtain ⟨rest, hrest, h⟩ := bind_eq_ok h
          rw [← Except.ok.inj h]
          refine List.forall_mem_cons.2 ⟨?_, ih hrest⟩
          by_cases hregex : op = .regex
          · subst hregex
            obtain ⟨pattern, -, rfl, hvalid⟩ := pattern_of_operand hv
            exact Condition.total_regex hvalid
          · exact Condition.total_of_ne_regex hregex v

theorem mem_of_conditionsOf {l : List (Dimension × FieldName)} {cs : List (FieldName × Condition)}
    (h : conditionsOf l = .ok cs) : ∀ c ∈ cs, c.1 ∈ l.map Prod.snd := by
  induction l generalizing cs with
  | nil =>
      rw [conditionsOf] at h
      rw [← Except.ok.inj h]
      exact fun c hc => by cases hc
  | cons e r ih =>
      obtain ⟨d, field⟩ := e
      rw [conditionsOf] at h
      cases hop : d.op with
      | none =>
          rw [hop] at h
          exact fun c hc => List.mem_cons_of_mem field (ih h c hc)
      | some op =>
          rw [hop] at h
          obtain ⟨v, hv, h⟩ := bind_eq_ok h
          obtain ⟨rest, hrest, h⟩ := bind_eq_ok h
          rw [← Except.ok.inj h]
          exact List.forall_mem_cons.2 ⟨List.mem_cons_self ..,
            fun c hc => List.mem_cons_of_mem field (ih hrest c hc)⟩

/-- What the checks of a query establish about its parts. -/
structure Parts.Sound (settings : Settings) (spec : QuerySpec) (p : Parts) : Prop where
  timestamp_text : p.timestamp.text = spec.timestampField.getD settings.timestampField
  dimensions_text : p.dimensions.map (·.text) = (spec.dimensions.map (·.field)).eraseDups
  dimensions_beside : spec.granularity.isBinned = true → ∀ f ∈ p.dimensions,
    f ≠ p.timestamp ∧ f.text ∉ spec.granularity.dateParts.map (·.key)
  outputs_told : p.outputs.map Output.told =
    spec.measures.map fun m => (m.field, m.effective, m.field == settings.countMeasure)
  outputs_nodup : (p.outputs.map (·.field)).Nodup
  outputs_beside : ∀ o ∈ p.outputs, o.field ∉ p.dimensions ∧
    (spec.granularity.isBinned = true → o.field ≠ p.timestamp)
  conditions_total : ∀ c ∈ p.conditions, c.2.Total
  conditions_field : ∀ c ∈ p.conditions, ∃ x ∈ spec.dimensions, c.1.text = x.field

theorem steps_of_parts {settings : Settings} {presets : List Preset} {spec : QuerySpec}
    {now : Instant} {p : Parts} (h : parts settings presets spec now = .ok p) :
    FieldName.parse (spec.timestampField.getD settings.timestampField) = .ok p.timestamp ∧
      (∃ names, (spec.dimensions.mapM fun d => FieldName.parse d.field) = .ok names ∧
        distinctDimensions spec.granularity p.timestamp [] names = .ok p.dimensions ∧
        conditionsOf (spec.dimensions.zip names) = .ok p.conditions) ∧
      outputs settings spec.granularity p.timestamp p.dimensions [] spec.measures = .ok p.outputs ∧
      (spec.range.elim (.ok none) fun r => (r.resolve presets now).map some) = .ok p.window := by
  unfold parts at h
  obtain ⟨timestamp, hts, h⟩ := bind_eq_ok h
  obtain ⟨names, hnames, h⟩ := bind_eq_ok h
  obtain ⟨dims, hdims, h⟩ := bind_eq_ok h
  obtain ⟨outs, houts, h⟩ := bind_eq_ok h
  obtain ⟨window, hwindow, h⟩ := bind_eq_ok h
  obtain ⟨conditions, hconditions, h⟩ := bind_eq_ok h
  rw [← Except.ok.inj h]
  exact ⟨hts, ⟨names, hnames, hdims, hconditions⟩, houts, hwindow⟩

theorem parts_sound {settings : Settings} {presets : List Preset} {spec : QuerySpec} {now : Instant}
    {p : Parts} (h : parts settings presets spec now = .ok p) : p.Sound settings spec := by
  obtain ⟨hts, ⟨names, hnames, hdims, hconditions⟩, houts, -⟩ := steps_of_parts h
  obtain ⟨hdistinct, hfaultless⟩ := @distinctDimensions_eq _ _ [] _ _ hdims
  obtain ⟨hnodup, added, hadded, htold, hbeside⟩ := outputs_eq (by exact List.nodup_nil) houts
  rw [List.nil_append] at hdistinct hadded
  subst hadded
  have htext := mapM_parse_text hnames
  refine ⟨FieldName.text_of_parse hts, ?_, ?_, htold, hnodup, hbeside,
    total_of_conditionsOf hconditions, ?_⟩
  · rw [hdistinct, map_eraseDups fun _ _ => FieldName.text_injective, htext]
  · intro hg f hf
    rw [hdistinct, List.mem_eraseDups] at hf
    exact dimensionFault?_eq_none_iff.1 (hfaultless f hf) hg
  · intro c hc
    obtain ⟨q, hq, hname⟩ := List.mem_map.1 (mem_of_conditionsOf hconditions c hc)
    have hmem : c.1.text ∈ spec.dimensions.map (·.field) := by
      rw [← htext, ← hname]
      exact List.mem_map.2 ⟨q.2, (List.of_mem_zip hq).2, rfl⟩
    obtain ⟨x, hx, hfield⟩ := List.mem_map.1 hmem
    exact ⟨x, hx, hfield.symm⟩

theorem resolve_of_elim {range : Option TimeRange} {presets : List Preset} {now : Instant}
    {w : TimeWindow} (h : (range.elim (.ok none) fun r => (r.resolve presets now).map some :
      Except Error (Option TimeWindow)) = .ok (some w)) :
    ∃ r, range = some r ∧ r.resolve presets now = .ok w := by
  cases range with
  | none => cases h
  | some r =>
      refine ⟨r, rfl, ?_⟩
      rw [Option.elim_some] at h
      cases hresolve : r.resolve presets now with
      | error e =>
          rw [hresolve] at h
          cases h
      | ok v =>
          rw [hresolve] at h
          cases h
          rfl

theorem resolve_of_parts {settings : Settings} {presets : List Preset} {spec : QuerySpec}
    {now : Instant} {p : Parts} (h : parts settings presets spec now = .ok p) {w : TimeWindow}
    (hw : p.window = some w) : ∃ r, spec.range = some r ∧ r.resolve presets now = .ok w := by
  obtain ⟨-, -, -, hwindow⟩ := steps_of_parts h
  rw [hw] at hwindow
  exact resolve_of_elim hwindow

theorem outputs_writing (settings : Settings) (datesAsStrings : Bool) (g : Granularity)
    (timestamp : FieldName) (dims : List FieldName) (seen : List Output) (measures : List Measure) :
    outputs { settings with datesAsStrings } g timestamp dims seen measures =
      outputs settings g timestamp dims seen measures := by
  induction measures generalizing seen with
  | nil => rfl
  | cons m r ih => simp only [outputs, ih]

theorem parts_writing (settings : Settings) (datesAsStrings : Bool) (presets : List Preset)
    (spec : QuerySpec) (now : Instant) :
    parts { settings with datesAsStrings } presets spec now =
      parts settings presets spec now := by
  simp only [parts, outputs_writing]

end Plan

end EventRollup
