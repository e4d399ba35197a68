import EventRollup.Proofs.Pipeline.Parts
import EventRollup.Proofs.Query.Meaning
import Mathlib.Data.List.TakeWhile

namespace EventRollup

/-- A check that passes what is sound, and in all else reports a fault of a certain kind. -/
structure Decides {α : Type} (x : Except Error α) (sound : Prop) (fault : Error → Prop) : Prop where
  passes : sound → ∃ a, x = .ok a
  reports : ¬ sound → ∃ e, x = .error e ∧ fault e

namespace Decides

variable {α β : Type} {x : Except Error α} {f : α → Except Error β} {sound sound' : Prop}
  {fault fault' : Error → Prop}

theorem ok (a : α) (h : sound) : Decides (.ok a) sound fault :=
  ⟨fun _ => ⟨a, rfl⟩, fun hnot => absurd h hnot⟩

theorem error {e : Error} (h : ¬ sound) (he : fault e) :
    Decides (.error e : Except Error α) sound fault :=
  ⟨fun hs => absurd hs h, fun _ => ⟨e, rfl, he⟩⟩

theorem congr (h : Decides x sound fault) (hsound : sound ↔ sound')
    (hfault : ∀ e, fault e → fault' e) : Decides x sound' fault' := by
  refine ⟨fun hs => h.passes (hsound.2 hs), fun hnot => ?_⟩
  obtain ⟨e, he, hreported⟩ := h.reports fun hs => hnot (hsound.1 hs)
  exact ⟨e, he, hfault e hreported⟩

theorem map (h : Decides x sound fault) (g : α → β) : Decides (x.map g) sound fault := by
  constructor
  · intro hs
    obtain ⟨a, rfl⟩ := h.passes hs
    exact ⟨g a, rfl⟩
  · intro hnot
    obtain ⟨e, rfl, he⟩ := h.reports hnot
    exact ⟨e, rfl, he⟩

theorem bind (hx : Decides x sound fault) (hf : ∀ a, x = .ok a → Decides (f a) sound' fault') :
    Decides (x >>= f) (sound ∧ sound') fun e => ¬ sound ∧ fault e ∨ sound ∧ fault' e := by
  by_cases hs : sound
  · obtain ⟨a, ha⟩ := hx.passes hs
    subst ha
    refine (hf a rfl).congr ?_ fun e he => .inr ⟨hs, he⟩
    exact ⟨fun hs' => ⟨hs, hs'⟩, fun h => h.2⟩
  · obtain ⟨e, rfl, he⟩ := hx.reports hs
    exact error (fun h => hs h.1) (.inl ⟨hs, he⟩)

end Decides

namespace FieldName

/-- A text that can name a field: not blank, no operator and no path, and not the grouping key. -/
structure Valid (raw : String) : Prop where
  filled : ∃ c ∈ raw.toList, Text.isBlank c = false
  plain : raw.toList.head? ≠ some '$'
  topLevel : '.' ∉ raw.toList
  printable : '\x00' ∉ raw.toList
  own : raw ≠ groupKey

theorem isEmpty_trimChars_iff {cs : List Char} :
    (Text.trimChars cs).isEmpty = true ↔ ∀ c ∈ cs, Text.isBlank c = true := by
  rw [List.isEmpty_iff, Text.trimChars, List.reverse_eq_nil_iff, List.dropWhile_eq_nil_iff]
  simp only [List.mem_reverse]
  constructor
  · intro h c hc
    rw [← List.takeWhile_append_dropWhile (p := Text.isBlank) (l := cs), List.mem_append] at hc
    exact hc.elim (fun htake => List.mem_takeWhile_imp htake) (h c)
  · intro h c hc
    exact h c ((List.dropWhile_suffix _).subset hc)

theorem fault?_eq_none_iff {raw : String} : fault? raw = none ↔ Valid raw := by
  have hfilled : ¬ (Text.trimChars raw.toList).isEmpty = true ↔
      ∃ c ∈ raw.toList, Text.isBlank c = false := by
    rw [isEmpty_trimChars_iff]
    simp
  have hnone {p : Prop} [Decidable p] {fault : FieldFault} {rest : Option FieldFault} :
      (if p then some fault else rest) = none ↔ ¬ p ∧ rest = none := by
    by_cases hp : p <;> simp [hp]
  rw [fault?, hnone, hnone, hnone, hnone, hnone, hfilled]
  constructor
  · rintro ⟨hfilled, hplain, htop, hprintable, hown, -⟩
    exact ⟨hfilled, hplain, htop, hprintable, hown⟩
  · intro h
    exact ⟨h.filled, h.plain, h.topLevel, h.printable, h.own, rfl⟩

theorem decides_parse (raw : String) :
    Decides (parse raw) (Valid raw) fun e => ∃ fault, e = .invalidFieldName raw fault := by
  unfold parse
  split
  · rename_i h
    exact .ok _ (fault?_eq_none_iff.1 h)
  · rename_i fault h
    refine .error (fun hvalid => ?_) ⟨fault, rfl⟩
    rw [fault?_eq_none_iff.2 hvalid] at h
    cases h

end FieldName

theorem Decides.mapM {α β : Type} {f : α → Except Error β} {sound : α → Prop}
    {fault : α → Error → Prop} (hf : ∀ a, Decides (f a) (sound a) (fault a)) (l : List α) :
    Decides (l.mapM f) (∀ a ∈ l, sound a) fun e => ∃ a ∈ l, fault a e := by
  induction l with
  | nil => exact .ok [] nofun
  | cons a r ih =>
      rw [List.mapM_cons]
      have hrest (b : β) : Decides (r.mapM f >>= fun bs => .ok (b :: bs)) (∀ a ∈ r, sound a)
          fun e => ∃ a ∈ r, fault a e :=
        ih.map (b :: ·)
      refine ((hf a).bind fun b _ => hrest b).congr List.forall_mem_cons.symm fun e he => ?_
      rcases he with ⟨-, hfault⟩ | ⟨-, b, hb, hfault⟩
      · exact ⟨a, List.mem_cons_self, hfault⟩
      · exact ⟨b, List.mem_cons_of_mem a hb, hfault⟩

namespace Preset

/-- A preset is in the table, but for blanks around its name and the case of ASCII letters. -/
def Known (table : List Preset) (name : String) : Prop :=
  ∃ p ∈ table, sameName p.name (Text.trim name) = true

/-- The first preset of that name starts within the years that there are. -/
def Reached (table : List Preset) (name : String) (now : Instant) : Prop :=
  ∀ p n, find? table name = some p → p.span = .seconds n → now.Reaches n

theorem exists_start_iff (p : Preset) (now : Instant) :
    (∃ start, p.start? now = some start) ↔ ∀ n, p.span = .seconds n → now.Reaches n := by
  rw [start?]
  cases p.span with
  | seconds n => simp [Instant.exists_before_iff]
  | sinceEpoch => simp

theorem decides_resolve (table : List Preset) (name : String) (now : Instant) :
    Decides (resolve table name now) (Known table name ∧ Reached table name now)
      fun e => ¬ Known table name ∧ e = .unknownRangePreset name ∨
        Known table name ∧ e = .timestamp name .outOfReach := by
  rw [resolve, Reached]
  cases hfound : find? table name with
  | none =>
      have hunknown : ¬ Known table name := by
        rintro ⟨p, hp, hsame⟩
        rw [find?] at hfound
        exact List.find?_eq_none.1 hfound p hp hsame
      exact .error (fun h => hunknown h.1) (.inl ⟨hunknown, rfl⟩)
  | some p =>
      have hknown : Known table name := by
        rw [find?] at hfound
        have hsame := List.find?_some hfound
        exact ⟨p, List.mem_of_find?_eq_some hfound, hsame⟩
      have hreached := p.exists_start_iff now
      dsimp only
      cases hstart : p.start? now with
      | some start =>
          refine .ok _ ⟨hknown, fun q n hq hn => ?_⟩
          obtain rfl := Option.some.inj hq
          exact hreached.1 ⟨start, hstart⟩ n hn
      | none =>
          refine .error (fun h => ?_) (.inr ⟨hknown, rfl⟩)
          obtain ⟨start, hsome⟩ := hreached.2 fun n hn => h.2 p n rfl hn
          rw [hstart] at hsome
          cases hsome

end Preset

namespace QuerySpec

def fieldNames (settings : Settings) (spec : QuerySpec) : List String :=
  spec.timestampName settings :: (spec.dimensions.map (·.field) ++ spec.measures.map (·.field))

/-- What the names of a query have to be: fields, and apart wherever one would take the place of
another in a row. -/
structure NamesFit (settings : Settings) (spec : QuerySpec) : Prop where
  valid : ∀ name ∈ spec.fieldNames settings, FieldName.Valid name
  binnedDimensions : spec.granularity.isBinned = true → ∀ d ∈ spec.dimensions,
    d.field ≠ spec.timestampName settings ∧ d.field ∉ spec.granularity.dateParts.map (·.key)
  binnedMeasures : spec.granularity.isBinned = true → ∀ m ∈ spec.measures,
    m.field ≠ spec.timestampName settings
  apart : ∀ m ∈ spec.measures, m.field ∉ spec.dimensions.map (·.field)
  distinct : (spec.measures.map (·.field)).Nodup

def RangeKnown (presets : List Preset) (spec : QuerySpec) : Prop :=
  ∀ name, spec.range = some (.preset name) → Preset.Known presets name

def RangeReached (presets : List Preset) (now : Instant) (spec : QuerySpec) : Prop :=
  ∀ name, spec.range = some (.preset name) → Preset.Reached presets name now

end QuerySpec

/-- The operands an operator can do with. Equality compares with null where none is given, and
presence is asked for. -/
def FilterOperator.Fits : FilterOperator → Option Json → Prop
  | .eq, _ | .ne, _ => True
  | .gt, v | .gte, v | .lt, v | .lte, v => v ≠ none
  | .isIn, v | .notIn, v => ∃ items, v = some (.array items)
  | .regex, v => ∃ pattern, v = some (.string pattern) ∧ Pattern.isValid pattern = true
  | .exists, v => v = none ∨ ∃ b, v = some (.bool b)

def Dimension.Fits (d : Dimension) : Prop := ∀ op, d.op = some op → op.Fits d.value

def QuerySpec.OperandsFit (spec : QuerySpec) : Prop := ∀ d ∈ spec.dimensions, d.Fits

namespace Plan

variable {settings : Settings} {g : Granularity} {timestamp : FieldName}

theorem decides_distinctDimensions (g : Granularity) (timestamp : FieldName)
    (seen names : List FieldName) :
    Decides (distinctDimensions g timestamp seen names)
      (g.isBinned = true → ∀ f ∈ names,
        f.text ≠ timestamp.text ∧ f.text ∉ g.dateParts.map (·.key))
      fun e => ∃ f ∈ names, ∃ fault, e = .invalidFieldName f.text fault := by
  induction names generalizing seen with
  | nil => exact .ok seen nofun
  | cons f r ih =>
      unfold distinctDimensions
      have hsplit : (g.isBinned = true → ∀ f' ∈ f :: r,
          f'.text ≠ timestamp.text ∧ f'.text ∉ g.dateParts.map (·.key)) ↔
          dimensionFault? g timestamp f = none ∧ (g.isBinned = true → ∀ f' ∈ r,
            f'.text ≠ timestamp.text ∧ f'.text ∉ g.dateParts.map (·.key)) := by
        rw [dimensionFault?_eq_none_iff, ← forall_and]
        simp only [List.forall_mem_cons, ne_eq, FieldName.text_inj]
      cases hfault : dimensionFault? g timestamp f with
      | some fault =>
          refine .error (fun hs => ?_) ⟨f, List.mem_cons_self, fault, rfl⟩
          rw [(hsplit.1 hs).1] at hfault
          cases hfault
      | none =>
          refine (ih _).congr ?_ fun e he => ?_
          · rw [hsplit]
            exact ⟨fun hr => ⟨hfault, hr⟩, fun h => h.2⟩
          · obtain ⟨f', hf', hreported⟩ := he
            exact ⟨f', List.mem_cons_of_mem f hf', hreported⟩

/-- A name that nothing else has where a measure would put it. -/
structure Beside (g : Granularity) (timestamp : FieldName) (dims : List FieldName)
    (others : List String) (name : String) : Prop where
  timestamp : g.isBinned = true → name ≠ timestamp.text
  dimensions : name ∉ dims.map (·.text)
  measures : name ∉ others

theorem beside_concat_iff {dims : List FieldName} {others : List String} {name other : String} :
    Beside g timestamp dims (others ++ [other]) name ↔
      Beside g timestamp dims others name ∧ name ≠ other := by
  have hothers : name ∉ others ++ [other] ↔ name ∉ others ∧ name ≠ other := by
    simp [not_or]
  constructor
  · rintro ⟨hts, hdims, hnew⟩
    exact ⟨⟨hts, hdims, (hothers.1 hnew).1⟩, (hothers.1 hnew).2⟩
  · rintro ⟨⟨hts, hdims, hnew⟩, hne⟩
    exact ⟨hts, hdims, hothers.2 ⟨hnew, hne⟩⟩

theorem measureFault?_eq_none_iff_beside {dims : List FieldName} {seen : List Output}
    {field : FieldName} : measureFault? g timestamp dims seen field = none ↔
      Beside g timestamp dims (seen.map (·.field.text)) field.text := by
  have hseen : seen.map (·.field.text) = (seen.map (·.field)).map (·.text) := by
    rw [List.map_map]
    rfl
  rw [measureFault?_eq_none_iff, hseen]
  constructor
  · rintro ⟨hts, hdims, hnew⟩
    exact ⟨fun hg he => hts hg (FieldName.text_injective he),
      fun hmem => hdims (FieldName.mem_texts.1 hmem), fun hmem => hnew (FieldName.mem_texts.1 hmem)⟩
  · rintro ⟨hts, hdims, hnew⟩
    exact ⟨fun hg he => hts hg (congrArg FieldName.text he),
      fun hmem => hdims (FieldName.mem_texts.2 hmem), fun hmem => hnew (FieldName.mem_texts.2 hmem)⟩

theorem decides_outputs (settings : Settings) (g : Granularity) (timestamp : FieldName)
    (dims : List FieldName) (seen : List Output) (measures : List Measure) :
    Decides (outputs settings g timestamp dims seen measures)
      ((∀ m ∈ measures, FieldName.Valid m.field ∧
          Beside g timestamp dims (seen.map (·.field.text)) m.field) ∧
        (measures.map (·.field)).Nodup)
      fun e => ∃ m ∈ measures, ∃ fault, e = .invalidFieldName m.field fault := by
  induction measures generalizing seen with
  | nil => exact .ok seen ⟨nofun, List.nodup_nil⟩
  | cons m r ih =>
      -- the measures that follow also have to be beside this one
      have hstep : Decides (outputs settings g timestamp dims seen (m :: r))
          (FieldName.Valid m.field ∧ Beside g timestamp dims (seen.map (·.field.text)) m.field ∧
            (∀ x ∈ r, FieldName.Valid x.field ∧
              Beside g timestamp dims (seen.map (·.field.text) ++ [m.field]) x.field) ∧
            (r.map (·.field)).Nodup)
          fun e => ¬ FieldName.Valid m.field ∧ (∃ fault, e = .invalidFieldName m.field fault) ∨
            FieldName.Valid m.field ∧ ∃ x ∈ m :: r, ∃ fault, e = .invalidFieldName x.field fault := by
        unfold outputs
        refine (FieldName.decides_parse m.field).bind fun field hfield => ?_
        rw [← FieldName.text_of_parse hfield]
        cases hfault : measureFault? g timestamp dims seen field with
        | some fault =>
            refine .error (fun hs => ?_) ⟨m, List.mem_cons_self, fault, ?_⟩
            · rw [measureFault?_eq_none_iff_beside.2 hs.1] at hfault
              cases hfault
            · rw [FieldName.text_of_parse hfield]
        | none =>
            refine (ih _).congr ?_ fun e he => ?_
            · rw [List.map_append, List.map_singleton]
              exact ⟨fun h => ⟨measureFault?_eq_none_iff_beside.1 hfault, h⟩, fun h => h.2⟩
            · obtain ⟨x, hx, hreported⟩ := he
              exact ⟨x, List.mem_cons_of_mem m hx, hreported⟩
      have hnew : (m :: r |>.map (·.field)).Nodup ↔
          (∀ x ∈ r, x.field ≠ m.field) ∧ (r.map (·.field)).Nodup := by
        rw [List.map_cons, List.nodup_cons]
        simp
      refine hstep.congr ?_ fun e he => ?_
      · rw [hnew]
        simp only [beside_concat_iff, List.forall_mem_cons, forall_and]
        constructor
        · rintro ⟨hvalid, hbeside, ⟨hvalids, hbesides, hne⟩, hnodup⟩
          exact ⟨⟨⟨hvalid, hvalids⟩, hbeside, hbesides⟩, hne, hnodup⟩
        · rintro ⟨⟨⟨hvalid, hvalids⟩, hbeside, hbesides⟩, hne, hnodup⟩
          exact ⟨hvalid, hbeside, ⟨hvalids, hbesides, hne⟩, hnodup⟩
      · rcases he with ⟨-, hfault⟩ | ⟨-, hreported⟩
        · exact ⟨m, List.mem_cons_self, hfault⟩
        · exact hreported

def BlamesRange (presets : List Preset) (spec : QuerySpec) (e : Error) : Prop :=
  ∃ name, spec.range = some (.preset name) ∧
    (¬ spec.RangeKnown presets ∧ e = .unknownRangePreset name ∨
      spec.RangeKnown presets ∧ e = .timestamp name .outOfReach)

theorem decides_window (presets : List Preset) (spec : QuerySpec) (now : Instant) :
    Decides (spec.range.elim (.ok none) fun r => (r.resolve presets now).map some :
        Except Error (Option TimeWindow))
      (spec.RangeKnown presets ∧ spec.RangeReached presets now) (BlamesRange presets spec) := by
  unfold BlamesRange QuerySpec.RangeReached QuerySpec.RangeKnown
  cases spec.range with
  | none => exact .ok none ⟨nofun, nofun⟩
  | some range =>
      cases range with
      | between start stop =>
          refine .ok (some (TimeWindow.mk start stop)) ⟨fun name hname => ?_, fun name hname => ?_⟩
          all_goals cases hname
      | preset name =>
          have honly {P : String → Prop} :
              (∀ name', some (TimeRange.preset name) = some (.preset name') → P name') ↔ P name := by
            simp
          rw [honly, honly]
          exact ((Preset.decides_resolve presets name now).map some).congr Iff.rfl
            fun e he => ⟨name, rfl, he⟩

theorem decides_operand (d : Dimension) (op : FilterOperator) :
    Decides (operand d op) (op.Fits d.value) fun e => ∃ fault, e = .invalidFilter d.field fault := by
  obtain ⟨field, _, value⟩ := d
  have refused {fault : FilterFault} (h : ¬ op.Fits value) :
      Decides (.error (.invalidFilter field fault) : Except Error Json) (op.Fits value)
        fun e => ∃ fault, e = .invalidFilter field fault :=
    .error h ⟨fault, rfl⟩
  cases op with
  | eq | ne => exact .ok _ trivial
  | gt | gte | lt | lte =>
      cases value with
      | none => exact refused fun h => h rfl
      | some v => exact .ok v (Option.some_ne_none v)
  | isIn | notIn =>
      cases value with
      | none => exact refused nofun
      | some v =>
          cases v with
          | array items => exact .ok _ ⟨items, rfl⟩
          | _ => exact refused nofun
  | regex =>
      cases value with
      | none => exact refused nofun
      | some v =>
          cases v with
          | string pattern =>
              change Decides (if Pattern.isValid pattern then .ok (Json.string pattern)
                else .error (.invalidFilter field .invalidPattern)) _ _
              split
              · rename_i hvalid
                exact .ok _ ⟨pattern, rfl, hvalid⟩
              · rename_i hinvalid
                refine refused ?_
                rintro ⟨_, he, hvalid⟩
                cases he
                exact hinvalid hvalid
          | _ => exact refused nofun
  | «exists» =>
      cases value with
      | none => exact .ok _ (.inl rfl)
      | some v =>
          cases v with
          | bool b => exact .ok _ (.inr ⟨b, rfl⟩)
          | _ => exact refused nofun

theorem decides_conditionsOf (l : List (Dimension × FieldName)) :
    Decides (conditionsOf l) (∀ p ∈ l, p.1.Fits)
      fun e => ∃ p ∈ l, ¬ p.1.Fits ∧ ∃ fault, e = .invalidFilter p.1.field fault := by
  induction l with
  | nil => exact .ok [] nofun
  | cons p r ih =>
      obtain ⟨d, field⟩ := p
      unfold conditionsOf
      have hfits (op : FilterOperator) (hop : d.op = some op) : op.Fits d.value ↔ d.Fits := by
        rw [Dimension.Fits, hop]
        exact ⟨fun h op' he => Option.some.inj he ▸ h, fun h => h op rfl⟩
      cases hop : d.op with
      | none =>
          have hd : d.Fits := fun op he => by
            rw [hop] at he
            cases he
          refine ih.congr ?_ fun e he => ?_
          · rw [List.forall_mem_cons]
            exact ⟨fun hr => ⟨hd, hr⟩, fun h => h.2⟩
          · obtain ⟨q, hq, hreported⟩ := he
            exact ⟨q, List.mem_cons_of_mem _ hq, hreported⟩
      | some op =>
          have hrest (v : Json) : Decides
              (conditionsOf r >>= fun cs => .ok ((field, Condition.compare op v) :: cs))
              (∀ q ∈ r, q.1.Fits)
              fun e => ∃ q ∈ r, ¬ q.1.Fits ∧ ∃ fault, e = .invalidFilter q.1.field fault :=
            ih.map _
          refine ((decides_operand d op).bind fun v _ => hrest v).congr ?_ fun e he => ?_
          · rw [List.forall_mem_cons, hfits op hop]
          · rcases he with ⟨hd, hfault⟩ | ⟨-, q, hq, hreported⟩
            · exact ⟨(d, field), List.mem_cons_self, fun h => hd ((hfits op hop).2 h), hfault⟩
            · exact ⟨q, List.mem_cons_of_mem _ hq, hreported⟩

theorem decides_operands {spec : QuerySpec} {names : List FieldName}
    (htext : names.map (·.text) = spec.dimensions.map (·.field)) :
    Decides (conditionsOf (spec.dimensions.zip names)) spec.OperandsFit
      fun e => ∃ d ∈ spec.dimensions, ¬ d.Fits ∧ ∃ fault, e = .invalidFilter d.field fault := by
  have hlength : spec.dimensions.length = names.length := by
    simpa using (congrArg List.length htext).symm
  have hfst : (spec.dimensions.zip names).map Prod.fst = spec.dimensions :=
    List.map_fst_zip (Nat.le_of_eq hlength)
  refine (decides_conditionsOf (spec.dimensions.zip names)).congr ?_ fun e he => ?_
  · rw [QuerySpec.OperandsFit, ← List.forall_mem_map (f := Prod.fst), hfst]
  · obtain ⟨p, hp, hreported⟩ := he
    exact ⟨p.1, hfst ▸ List.mem_map_of_mem hp, hreported⟩

def BlamesName (settings : Settings) (spec : QuerySpec) (e : Error) : Prop :=
  ∃ name ∈ spec.fieldNames settings, ∃ fault, e = .invalidFieldName name fault

section

variable {spec : QuerySpec} {names dims : List FieldName}

theorem blamesName_of_dimension {d : Dimension} (hd : d ∈ spec.dimensions) {e : Error}
    (h : ∃ fault, e = .invalidFieldName d.field fault) : BlamesName settings spec e :=
  ⟨d.field, List.mem_cons_of_mem _ (List.mem_append_left _ (List.mem_map_of_mem hd)), h⟩

theorem blamesName_of_measure {m : Measure} (hm : m ∈ spec.measures) {e : Error}
    (h : ∃ fault, e = .invalidFieldName m.field fault) : BlamesName settings spec e :=
  ⟨m.field, List.mem_cons_of_mem _ (List.mem_append_right _ (List.mem_map_of_mem hm)), h⟩

theorem decides_dimensions (htimestamp : timestamp.text = spec.timestampName settings)
    (hnames : names.map (·.text) = spec.dimensions.map (·.field)) :
    Decides (distinctDimensions spec.granularity timestamp [] names)
      (spec.granularity.isBinned = true → ∀ d ∈ spec.dimensions,
        d.field ≠ spec.timestampName settings ∧ d.field ∉ spec.granularity.dateParts.map (·.key))
      (BlamesName settings spec) := by
  refine (decides_distinctDimensions spec.granularity timestamp [] names).congr ?_ ?_
  · have htexts (P : String → Prop) :
        (∀ f ∈ names, P f.text) ↔ ∀ d ∈ spec.dimensions, P d.field := by
      rw [← List.forall_mem_map (f := FieldName.text), hnames, List.forall_mem_map]
    rw [htexts fun name => name ≠ timestamp.text ∧
      name ∉ spec.granularity.dateParts.map (·.key), htimestamp]
  · rintro e ⟨f, hf, hreported⟩
    have hmem : f.text ∈ spec.dimensions.map (·.field) := hnames ▸ List.mem_map_of_mem hf
    obtain ⟨d, hd, hfield⟩ := List.mem_map.1 hmem
    rw [← hfield] at hreported
    exact blamesName_of_dimension hd hreported

theorem decides_measures (htimestamp : timestamp.text = spec.timestampName settings)
    (hdims : ∀ name, name ∈ dims.map (·.text) ↔ name ∈ spec.dimensions.map (·.field)) :
    Decides (outputs settings spec.granularity timestamp dims [] spec.measures)
      ((∀ m ∈ spec.measures, FieldName.Valid m.field) ∧
        (spec.granularity.isBinned = true → ∀ m ∈ spec.measures,
          m.field ≠ spec.timestampName settings) ∧
        (∀ m ∈ spec.measures, m.field ∉ spec.dimensions.map (·.field)) ∧
        (spec.measures.map (·.field)).Nodup)
      (BlamesName settings spec) := by
  refine (decides_outputs settings spec.granularity timestamp dims [] spec.measures).congr ?_ ?_
  · constructor
    · rintro ⟨hfits, hnodup⟩
      refine ⟨fun m hm => (hfits m hm).1, fun hg m hm => ?_, fun m hm => ?_, hnodup⟩
      · exact htimestamp ▸ (hfits m hm).2.timestamp hg
      · exact fun hmem => (hfits m hm).2.dimensions ((hdims m.field).2 hmem)
    · rintro ⟨hvalid, hbinned, hapart, hnodup⟩
      refine ⟨fun m hm => ⟨hvalid m hm, fun hg => ?_, fun hmem => ?_, nofun⟩, hnodup⟩
      · exact htimestamp ▸ hbinned hg m hm
      · exact hapart m hm ((hdims m.field).1 hmem)
  · rintro e ⟨m, hm, hreported⟩
    exact blamesName_of_measure hm hreported

end

theorem namesFit_iff {spec : QuerySpec} : spec.NamesFit settings ↔
    FieldName.Valid (spec.timestampName settings) ∧
      (∀ d ∈ spec.dimensions, FieldName.Valid d.field) ∧
      (spec.granularity.isBinned = true → ∀ d ∈ spec.dimensions,
        d.field ≠ spec.timestampName settings ∧
          d.field ∉ spec.granularity.dateParts.map (·.key)) ∧
      (∀ m ∈ spec.measures, FieldName.Valid m.field) ∧
      (spec.granularity.isBinned = true → ∀ m ∈ spec.measures,
        m.field ≠ spec.timestampName settings) ∧
      (∀ m ∈ spec.measures, m.field ∉ spec.dimensions.map (·.field)) ∧
      (spec.measures.map (·.field)).Nodup := by
  have hvalid : (∀ name ∈ spec.fieldNames settings, FieldName.Valid name) ↔
      FieldName.Valid (spec.timestampName settings) ∧
        (∀ d ∈ spec.dimensions, FieldName.Valid d.field) ∧
        ∀ m ∈ spec.measures, FieldName.Valid m.field := by
    rw [QuerySpec.fieldNames, List.forall_mem_cons, List.forall_mem_append, List.forall_mem_map,
      List.forall_mem_map]
  constructor
  · intro h
    obtain ⟨hts, hdims, hmeasures⟩ := hvalid.1 h.valid
    exact ⟨hts, hdims, h.binnedDimensions, hmeasures, h.binnedMeasures, h.apart, h.distinct⟩
  · rintro ⟨hts, hdims, hbinned, hmeasures, hbinned', hapart, hdistinct⟩
    exact ⟨hvalid.2 ⟨hts, hdims, hmeasures⟩, hbinned, hbinned', hapart, hdistinct⟩

theorem decides_parts (settings : Settings) (presets : List Preset) (spec : QuerySpec)
    (now : Instant) : Decides (parts settings presets spec now)
      (spec.NamesFit settings ∧ (spec.RangeKnown presets ∧ spec.RangeReached presets now) ∧
        spec.OperandsFit)
      fun e => ¬ spec.NamesFit settings ∧ BlamesName settings spec e ∨
        spec.NamesFit settings ∧
          (¬ (spec.RangeKnown presets ∧ spec.RangeReached presets now) ∧ BlamesRange presets spec e ∨
            (spec.RangeKnown presets ∧ spec.RangeReached presets now) ∧
              ∃ d ∈ spec.dimensions, ¬ d.Fits ∧ ∃ fault, e = .invalidFilter d.field fault) := by
  have htimestamp := (FieldName.decides_parse (spec.timestampName settings)).congr Iff.rfl
    fun e he => (⟨_, List.mem_cons_self, he⟩ : BlamesName settings spec e)
  have hdimensions := (Decides.mapM (fun d : Dimension => FieldName.decides_parse d.field)
    spec.dimensions).congr Iff.rfl fun e ⟨d, hd, he⟩ =>
      (blamesName_of_dimension hd he : BlamesName settings spec e)
  unfold parts
  refine (htimestamp.bind fun timestamp hts =>
    hdimensions.bind fun names hnames =>
    (decides_dimensions (FieldName.text_of_parse hts) (mapM_parse_text hnames)).bind fun dims hdims =>
    (decides_measures (FieldName.text_of_parse hts) fun name => ?_).bind fun outs _ =>
    (decides_window presets spec now).bind fun window _ =>
    (decides_operands (mapM_parse_text hnames)).map _).congr ?_ ?_
  · have hdistinct := (@distinctDimensions_eq _ _ [] _ _ hdims).1
    rw [hdistinct, List.nil_append, ← mapM_parse_text hnames]
    simp
  · rw [namesFit_iff]
    simp only [and_assoc]
  · intro e he
    rw [namesFit_iff]
    rcases he with ⟨hnot, hblamed⟩ | ⟨hts, ⟨hnot, hblamed⟩ | ⟨hdims, ⟨hnot, hblamed⟩ |
      ⟨hbinned, ⟨hnot, hblamed⟩ | ⟨hmeasures, hreported⟩⟩⟩⟩
    · exact .inl ⟨fun h => hnot h.1, hblamed⟩
    · exact .inl ⟨fun h => hnot h.2.1, hblamed⟩
    · exact .inl ⟨fun h => hnot h.2.2.1, hblamed⟩
    · exact .inl ⟨fun h => hnot h.2.2.2, hblamed⟩
    · exact .inr ⟨⟨hts, hdims, hbinned, hmeasures⟩, hreported⟩

/-- A query compiles if and only if its names, its range and the operands of its conditions are
sound, and what is reported of any other is the first of the three that is not. A range is sound if
its preset is known and starts within the years that there are. -/
theorem compile_decided (settings : Settings) (presets : List Preset) (spec : QuerySpec)
    (now : Instant) :
    ((∃ plan, compile settings presets spec now = .ok plan) ↔
        spec.NamesFit settings ∧ spec.RangeKnown presets ∧ spec.RangeReached presets now ∧
          spec.OperandsFit) ∧
      ((∃ name ∈ spec.fieldNames settings, ∃ fault,
          compile settings presets spec now = .error (.invalidFieldName name fault)) ↔
        ¬ spec.NamesFit settings) ∧
      ((∃ name, spec.range = some (.preset name) ∧
          compile settings presets spec now = .error (.unknownRangePreset name)) ↔
        spec.NamesFit settings ∧ ¬ spec.RangeKnown presets) ∧
      ((∃ name, spec.range = some (.preset name) ∧
          compile settings presets spec now = .error (.timestamp name .outOfReach)) ↔
        spec.NamesFit settings ∧ spec.RangeKnown presets ∧ ¬ spec.RangeReached presets now) ∧
      ((∃ d ∈ spec.dimensions, ¬ d.Fits ∧ ∃ fault,
          compile settings presets spec now = .error (.invalidFilter d.field fault)) ↔
        spec.NamesFit settings ∧ spec.RangeKnown presets ∧ spec.RangeReached presets now ∧
          ¬ spec.OperandsFit) := by
  have hdecides := (decides_parts settings presets spec now).map fun p =>
    p.plan spec settings.encoding
  rw [← compile_eq_parts] at hdecides
  by_cases hsound : spec.NamesFit settings ∧
      (spec.RangeKnown presets ∧ spec.RangeReached presets now) ∧ spec.OperandsFit
  · obtain ⟨plan, hplan⟩ := hdecides.passes hsound
    obtain ⟨hnames, ⟨hknown, hreached⟩, hoperands⟩ := hsound
    simp [hplan, hnames, hknown, hreached, hoperands]
  · obtain ⟨e, he, ⟨hnames, name, hname, fault, rfl⟩ |
      ⟨hnames, ⟨hrange, name, hname, ⟨hunknown, rfl⟩ | ⟨hknown, rfl⟩⟩ |
        ⟨⟨hknown, hreached⟩, d, hd, hfits, fault, rfl⟩⟩⟩ := hdecides.reports hsound
    · simp [he, hnames, hname]
    · simp [he, hnames, hunknown, hname]
    · have hunreached : ¬ spec.RangeReached presets now := fun h => hrange ⟨hknown, h⟩
      simp [he, hnames, hknown, hunreached, hname]
    · have hoperands : ¬ spec.OperandsFit := fun h => hfits (h d hd)
      simpa [he, hnames, hknown, hreached, hoperands] using ⟨d, hd, hfits, rfl⟩

end Plan

end EventRollup
