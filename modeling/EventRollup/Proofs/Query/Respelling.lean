import EventRollup.Proofs.Number.DecimalText
import EventRollup.Proofs.Query.Spelling
import Mathlib.Logic.Relation

namespace EventRollup

def LimitInput.settled : LimitInput → LimitInput
  | .number n => .number n
  | .text s =>
    match Text.toInt64? (Text.trim s) with
    | some n => .number n
    | none => .text s

theorem LimitInput.resolve_settled (l : LimitInput) : l.settled.resolve = l.resolve := by
  cases l with
  | number n => rfl
  | text s =>
      cases h : Text.toInt64? (Text.trim s) <;> simp only [settled, resolve, h]

theorem LimitInput.elim_settled (l : Option LimitInput) :
    (l.map settled).elim (.ok none) resolve = l.elim (.ok none) resolve := by
  cases l with
  | none => rfl
  | some l => exact l.resolve_settled

def items? : Json → Option (List Json)
  | .null => some []
  | .array items => some items
  | _ => none

def readItems? {β : Type} (read : Json → Except RequestFault β) (v : Json) : Option (List β) :=
  (Json.optional (Json.readList RequestFault.malformed read) v).toOption.map (·.getD [])

theorem readItems?_eq {β : Type} (read : Json → Except RequestFault β) (v : Json) :
    readItems? read v = (items? v).bind fun items => (items.mapM read).toOption := by
  cases v with
  | array items =>
      simp only [readItems?, Json.optional, Json.readList, items?, Option.bind_some]
      cases items.mapM read <;> rfl
  | _ => rfl

theorem toOption_mapM_congr {α β γ ε : Type} {read : α → Except ε β} {sense : α → γ}
    {Proper : α → Prop} (hread : ∀ v w, Proper v → Proper w → sense v = sense w →
      (read v).toOption = (read w).toOption)
    {l l' : List α} (hl : ∀ v ∈ l, Proper v) (hl' : ∀ v ∈ l', Proper v)
    (h : l.map sense = l'.map sense) : (l.mapM read).toOption = (l'.mapM read).toOption := by
  induction l generalizing l' with
  | nil =>
      rw [List.map_nil, eq_comm, List.map_eq_nil_iff] at h
      rw [h]
  | cons v l ih =>
      rw [List.map_cons, eq_comm, List.map_eq_cons_iff] at h
      obtain ⟨w, r, rfl, hw, hr⟩ := h
      obtain ⟨hv, hl⟩ := List.forall_mem_cons.1 hl
      obtain ⟨hw', hr'⟩ := List.forall_mem_cons.1 hl'
      have hhead := hread v w hv hw' hw.symm
      have htail := ih hl hr' hr.symm
      rw [List.mapM_cons, List.mapM_cons]
      revert hhead htail
      cases read v <;> cases read w <;> cases l.mapM read <;> cases r.mapM read <;>
        intro hhead htail <;> cases hhead <;> cases htail <;> rfl

section Items

variable {β γ : Type} {read : Json → Except RequestFault β} {sense : Json → γ} {v w : Json}

theorem readItems?_congr {Proper : Json → Prop} (hread : ∀ v w, Proper v → Proper w →
      sense v = sense w → (read v).toOption = (read w).toOption)
    (hv : ∀ d ∈ (items? v).getD [], Proper d) (hw : ∀ d ∈ (items? w).getD [], Proper d)
    (h : (items? v).map (·.map sense) = (items? w).map (·.map sense)) :
    readItems? read v = readItems? read w := by
  rw [readItems?_eq, readItems?_eq]
  cases ha : items? v with
  | none =>
      rw [ha, Option.map_none, eq_comm, Option.map_eq_none_iff] at h
      rw [h]
  | some a =>
      rw [ha, Option.map_some, eq_comm, Option.map_eq_some_iff] at h
      obtain ⟨b, hb, hab⟩ := h
      rw [ha, Option.getD_some] at hv
      rw [hb, Option.getD_some] at hw
      rw [hb, Option.bind_some, Option.bind_some, toOption_mapM_congr hread hv hw hab.symm]

theorem readItems?_of_none (h : (items? v).map (·.map sense) = some []) :
    readItems? read v = some [] := by
  obtain ⟨items, hitems, hnil⟩ := Option.map_eq_some_iff.1 h
  rw [readItems?_eq, hitems, List.map_eq_nil_iff.1 hnil]
  rfl

end Items

namespace QueryBody

def Value : Field → Type
  | .startTime => Option Json
  | .endTime => Option Json
  | .range => Option String
  | .dimensions => List Dimension
  | .measures => List Measure
  | .timestampField => Option String
  | .granularity => Granularity
  | .limit => Option LimitInput
  | .debug => Bool

def get (b : QueryBody) : (f : Field) → Value f
  | .startTime => b.startTime
  | .endTime => b.endTime
  | .range => b.range
  | .dimensions => b.dimensions
  | .measures => b.measures
  | .timestampField => b.timestampField
  | .granularity => b.granularity
  | .limit => b.limit
  | .debug => b.debug

def make (x : (f : Field) → Value f) : QueryBody :=
  ⟨x .startTime, x .endTime, x .range, x .dimensions, x .measures, x .timestampField,
    x .granularity, x .limit, x .debug⟩

def parse : (f : Field) → Json → Option (Value f)
  | .startTime, v => some (given v)
  | .endTime, v => some (given v)
  | .range, v => (Json.optional (Json.readString RequestFault.malformed) v).toOption
  | .dimensions, v => readItems? Dimension.ofJson v
  | .measures, v => readItems? Measure.ofJson v
  | .timestampField, v => (Json.optional (Json.readString RequestFault.malformed) v).toOption
  | .granularity, v => (Json.optional Granularity.ofJson v).toOption.map (·.getD .all)
  | .limit, v => (Json.optional LimitInput.ofJson v).toOption
  | .debug, v => (Json.optional (Json.readBool RequestFault.malformed) v).toOption.map (·.getD false)

def fieldWise : RecordReader.FieldWise reader Value where
  fields := ⟨get, make, fun _ => rfl, fun x => by funext f; cases f <;> rfl⟩
  parse := parse
  read_eq f v b := by
    cases f with
    | startTime | endTime => rfl
    | range | timestampField =>
        simp only [reader, parse]
        cases Json.optional (Json.readString RequestFault.malformed) v <;> rfl
    | dimensions =>
        simp only [reader, parse, readItems?]
        cases Json.optional (Json.readList RequestFault.malformed Dimension.ofJson) v <;> rfl
    | measures =>
        simp only [reader, parse, readItems?]
        cases Json.optional (Json.readList RequestFault.malformed Measure.ofJson) v <;> rfl
    | granularity =>
        simp only [reader, parse]
        cases Json.optional Granularity.ofJson v <;> rfl
    | limit =>
        simp only [reader, parse]
        cases Json.optional LimitInput.ofJson v <;> rfl
    | debug =>
        simp only [reader, parse]
        cases Json.optional (Json.readBool RequestFault.malformed) v <;> rfl

theorem fieldWise_parse (f : Field) (v : Json) : fieldWise.parse f v = parse f v := rfl

theorem key_of_field? {k : String} {f : Field} (h : reader.field? k = some f) : f.key = k := by
  simpa using List.find?_some h

def Content : Field → Type
  | .dimensions => Option (List Dimension.Saying)
  | .measures => Option (List Measure.Saying)
  | f => Option (Value f)

/-- What matters of a field's value: not the preset if there are bounds, and not whether the limit
is a number or the text of one. -/
def settle (hasBounds : Bool) : (f : Field) → Value f → Value f
  | .range, x => if hasBounds then none else x
  | .limit, x => Option.map LimitInput.settled x
  | _, x => x

/-- What a value says. Lists say what their items say, since an item may spell a field twice in
between and be read only in the end. -/
def content (hasBounds : Bool) : (f : Field) → Json → Content f
  | .dimensions, v => (items? v).map (·.map Dimension.sense)
  | .measures, v => (items? v).map (·.map Measure.sense)
  | .startTime, v => (parse .startTime v).map (settle hasBounds .startTime)
  | .endTime, v => (parse .endTime v).map (settle hasBounds .endTime)
  | .range, v => (parse .range v).map (settle hasBounds .range)
  | .timestampField, v => (parse .timestampField v).map (settle hasBounds .timestampField)
  | .granularity, v => (parse .granularity v).map (settle hasBounds .granularity)
  | .limit, v => (parse .limit v).map (settle hasBounds .limit)
  | .debug, v => (parse .debug v).map (settle hasBounds .debug)

def absent : (f : Field) → Content f
  | .dimensions => some []
  | .measures => some []
  | .startTime => some none
  | .endTime => some none
  | .range => some none
  | .timestampField => some none
  | .granularity => some .all
  | .limit => some none
  | .debug => some false

def Proper : Field → Json → Prop
  | .dimensions, v => ∀ d ∈ (items? v).getD [], Dimension.reader.SpelledOnceIn d
  | .measures, v => ∀ m ∈ (items? v).getD [], Measure.reader.SpelledOnceIn m
  | _, _ => True

def sense (hasBounds : Bool) : RecordReader.Sense fieldWise empty where
  Content := Content
  content := content hasBounds
  absent := absent
  settle := settle hasBounds
  Proper := Proper
  agrees f v w hv hw h := by
    rw [fieldWise_parse, fieldWise_parse]
    cases f with
    | dimensions =>
        exact congrArg _ (readItems?_congr (fun _ _ => Dimension.ofJson_congr) hv hw h)
    | measures => exact congrArg _ (readItems?_congr (fun _ _ => Measure.ofJson_congr) hv hw h)
    | _ => exact h
  idle f v h := by
    rw [fieldWise_parse]
    cases f with
    | dimensions => exact congrArg (Option.map _) (readItems?_of_none h)
    | measures => exact congrArg (Option.map _) (readItems?_of_none h)
    | range =>
        refine h.trans ?_
        cases hasBounds <;> rfl
    | _ => exact h

def keys : List String := Field.all.map Field.key

def isBound (e : String × Json) : Bool :=
  (e.1 == "startTime" || e.1 == "endTime") && !e.2.isNull

def hasBounds (entries : List (String × Json)) : Bool := entries.any isBound

inductive SameEntry : String × Json → String × Json → Prop
  | dimension (before after : List Json) {v w : Json} (h : Dimension.Respelt v w) :
      SameEntry ("dimensions", .array (before ++ v :: after))
        ("dimensions", .array (before ++ w :: after))
  | measure (before after : List Json) {v w : Json} (h : Measure.Respelt v w) :
      SameEntry ("measures", .array (before ++ v :: after))
        ("measures", .array (before ++ w :: after))
  | limit {n : Int} (hn : Text.leastInt64 ≤ n ∧ n ≤ Text.greatestInt64) {before after : List Char}
      (hbefore : ∀ b ∈ before, Text.isBlank b = true) (hafter : ∀ b ∈ after, Text.isBlank b = true) :
      SameEntry ("limit", .int n)
        ("limit", .string (String.ofList (before ++ (Number.int n).chars ++ after)))

/-- One change to how a body is written. A preset may be added beside bounds, and so removed or
changed there by changes in turn. -/
inductive Respelt : List (String × Json) → List (String × Json) → Prop
  | entries {entries entries' : List (String × Json)}
      (h : RecordReader.Respelt (Silent keys keys) SameEntry entries entries') :
      Respelt entries entries'
  | range (before after : List (String × Json)) (preset : String)
      (h : hasBounds (before ++ after) = true) :
      Respelt (before ++ after) (before ++ ("range", .string preset) :: after)

/-- No field is spelled twice in the body, nor in a dimension or a measure that is an object. -/
structure SpelledOnce (entries : List (String × Json)) : Prop where
  body : reader.SpelledOnce entries
  dimensions : ∀ e ∈ entries, e.1 = "dimensions" →
    ∀ d ∈ (items? e.2).getD [], Dimension.reader.SpelledOnceIn d
  measures : ∀ e ∈ entries, e.1 = "measures" →
    ∀ m ∈ (items? e.2).getD [], Measure.reader.SpelledOnceIn m

instance (entries : List (String × Json)) : Decidable (SpelledOnce entries) :=
  decidable_of_iff (reader.SpelledOnce entries ∧
    (∀ e ∈ entries, e.1 = "dimensions" →
      ∀ d ∈ (items? e.2).getD [], Dimension.reader.SpelledOnceIn d) ∧
    ∀ e ∈ entries, e.1 = "measures" → ∀ m ∈ (items? e.2).getD [], Measure.reader.SpelledOnceIn m)
    ⟨fun h => ⟨h.1, h.2.1, h.2.2⟩, fun h => ⟨h.body, h.dimensions, h.measures⟩⟩

theorem SpelledOnce.proper {entries : List (String × Json)} (h : SpelledOnce entries) {f : Field}
    {v : Json} (hv : (f, v) ∈ reader.given entries) : Proper f v := by
  obtain ⟨e, he, hf, rfl⟩ := RecordReader.mem_given.1 hv
  have hkey := key_of_field? hf
  cases f with
  | dimensions => exact h.dimensions e he hkey.symm
  | measures => exact h.measures e he hkey.symm
  | _ => trivial

variable {entries entries' : List (String × Json)}

theorem isBound_silent {e : String × Json} (h : Silent keys keys e) : isBound e = false := by
  cases h with
  | @unknown k v hk =>
      have hstart : k ≠ "startTime" := fun he => hk (he ▸ by decide)
      have hend : k ≠ "endTime" := fun he => hk (he ▸ by decide)
      simp [isBound, hstart, hend]
  | null hk => simp [isBound, Json.isNull]

theorem isBound_sameEntry {e e' : String × Json} (h : SameEntry e e') :
    isBound e = false ∧ isBound e' = false := by
  cases h <;> exact ⟨rfl, rfl⟩

theorem hasBounds_respelt (h : Respelt entries entries') :
    hasBounds entries = hasBounds entries' := by
  cases h with
  | entries h =>
      cases h with
      | reordered h => exact h.any_eq
      | added before after h =>
          simp only [hasBounds, List.any_append, List.any_cons, isBound_silent h, Bool.false_or]
      | rewritten before after h =>
          obtain ⟨he, he'⟩ := isBound_sameEntry h
          simp only [hasBounds, List.any_append, List.any_cons, he, he']
  | range before after preset h =>
      have hrange : isBound ("range", .string preset) = false := rfl
      simp only [hasBounds, List.any_append, List.any_cons, hrange, Bool.false_or]

theorem content_null (b : Bool) (f : Field) : content b f .null = absent f := by
  cases f with
  | range => cases b <;> rfl
  | _ => rfl

theorem content_sameEntry (b : Bool) {e e' : String × Json} (h : SameEntry e e') :
    reader.field? e.1 = reader.field? e'.1 ∧
      ∀ f, reader.field? e.1 = some f → content b f e.2 = content b f e'.2 := by
  cases h with
  | @dimension before after v w h =>
      have hmap : (before ++ v :: after).map Dimension.sense =
          (before ++ w :: after).map Dimension.sense := by
        rw [List.map_append, List.map_cons, Dimension.sense_respelt h, List.map_append,
          List.map_cons]
      refine ⟨rfl, fun f hf => ?_⟩
      obtain rfl : Field.dimensions = f := Option.some.inj hf
      exact congrArg some hmap
  | @measure before after v w h =>
      have hmap : (before ++ v :: after).map Measure.sense =
          (before ++ w :: after).map Measure.sense := by
        rw [List.map_append, List.map_cons, Measure.sense_respelt h, List.map_append, List.map_cons]
      refine ⟨rfl, fun f hf => ?_⟩
      obtain rfl : Field.measures = f := Option.some.inj hf
      exact congrArg some hmap
  | @limit n hn before after hbefore hafter =>
      have hnumber : Json.optional LimitInput.ofJson (.int n) = .ok (some (.number n)) := by
        simp only [Json.int, Json.optional, LimitInput.ofJson, Number.toInt64?, if_pos hn, Except.map]
      have htext : LimitInput.settled
          (.text (String.ofList (before ++ (Number.int n).chars ++ after))) = .number n := by
        simp only [LimitInput.settled, Number.toInt64?_trim_between hn hbefore hafter]
      refine ⟨rfl, fun f hf => ?_⟩
      obtain rfl : Field.limit = f := Option.some.inj hf
      simp only [content, parse, hnumber]
      exact congrArg (some ∘ some) htext.symm

theorem states_respelt (h : Respelt entries entries') :
    (sense (hasBounds entries)).States entries = (sense (hasBounds entries)).States entries' := by
  have hknown (k : String) (f : Field) (hf : reader.field? k = some f) : k ∈ keys := by
    rw [← key_of_field? hf]
    refine List.mem_map_of_mem ?_
    cases f <;> decide
  cases h with
  | entries h =>
      exact RecordReader.Sense.states_respelt _
        (fun _ he _ hf => he.content_eq _ hknown (fun _ _ f _ => content_null _ f) hf)
        (fun _ _ he => content_sameEntry _ he) h
  | range before after preset h =>
      have hidle : RecordReader.Respelt (· = ("range", .string preset)) (fun _ _ => False)
          (before ++ after) (before ++ ("range", .string preset) :: after) := .added _ _ rfl
      refine RecordReader.Sense.states_respelt _ (fun e he f hf => ?_) (fun _ _ he => he.elim) hidle
      obtain rfl := he
      obtain rfl : Field.range = f := Option.some.inj hf
      rw [h]
      rfl

def meaning (entries : List (String × Json)) : Bool × ((f : Field) → Content f → Prop) :=
  (hasBounds entries, (sense (hasBounds entries)).States entries)

theorem meaning_respelt (h : Respelt entries entries') : meaning entries = meaning entries' := by
  have hstates := states_respelt h
  rw [meaning, meaning, ← hasBounds_respelt h]
  exact congrArg _ hstates

theorem meaning_eqvGen (h : Relation.EqvGen Respelt entries entries') :
    meaning entries = meaning entries' := by
  induction h with
  | rel a b h => exact meaning_respelt h
  | refl a => rfl
  | symm a b _ ih => exact ih.symm
  | trans a b c _ _ ih ih' => exact ih.trans ih'

theorem ofJson_eq_ok_iff {v : Json} {b : QueryBody} :
    ofJson v = .ok b ↔ reader.readFrom empty v = .ok b := by
  rw [ofJson]
  cases reader.readFrom empty v with
  | ok c => exact ⟨fun h => congrArg _ (Except.ok.inj h), fun h => congrArg _ (Except.ok.inj h)⟩
  | error fault =>
      constructor
      · intro h
        cases h
      · intro h
        cases h

theorem bounded_of_hasBounds {b : QueryBody} (h : hasBounds entries = true)
    (htells : ∀ f, fieldWise.Tells empty entries f (b.get f)) :
    b.startTime.isSome ∨ b.endTime.isSome := by
  obtain ⟨⟨k, v⟩, hmem, hbound⟩ := List.any_eq_true.1 h
  simp only [isBound, Bool.and_eq_true, Bool.or_eq_true, beq_iff_eq, Bool.not_eq_true'] at hbound
  obtain ⟨hkey, hv⟩ := hbound
  have hgiven : given v = some v := by rw [given, hv]; rfl
  rcases hkey with rfl | rfl
  · have hstart : some (given v) = some b.startTime :=
      (htells .startTime).1 v (RecordReader.mem_given.2 ⟨_, hmem, rfl, rfl⟩)
    left
    rw [← Option.some.inj hstart, hgiven]
    rfl
  · have hend : some (given v) = some b.endTime :=
      (htells .endTime).1 v (RecordReader.mem_given.2 ⟨_, hmem, rfl, rfl⟩)
    right
    rw [← Option.some.inj hend, hgiven]
    rfl

theorem toSpec_congr {b c : QueryBody} {bounds : Bool}
    (h : ∀ f, settle bounds f (c.get f) = settle bounds f (b.get f))
    (hbounds : bounds = true → b.startTime.isSome ∨ b.endTime.isSome) (ns : String) (now : Instant) :
    c.toSpec ns now = b.toSpec ns now := by
  obtain ⟨start, stop, range, dimensions, measures, field, granularity, limit, debug⟩ := b
  obtain ⟨start', stop', range', dimensions', measures', field', granularity', limit', debug'⟩ := c
  obtain rfl : start' = start := h .startTime
  obtain rfl : stop' = stop := h .endTime
  obtain rfl : dimensions' = dimensions := h .dimensions
  obtain rfl : measures' = measures := h .measures
  obtain rfl : field' = field := h .timestampField
  obtain rfl : granularity' = granularity := h .granularity
  obtain rfl : debug' = debug := h .debug
  have hrange : (if bounds then none else range') = (if bounds then none else range) := h .range
  have hlimit : limit'.map LimitInput.settled = limit.map LimitInput.settled := h .limit
  have htime : timeRange ⟨start', stop', range', dimensions', measures', field', granularity',
      limit', debug'⟩ now = timeRange ⟨start', stop', range, dimensions', measures', field',
        granularity', limit, debug'⟩ now := by
    rw [timeRange, timeRange]
    cases bounds with
    | true => rw [if_pos (hbounds rfl), if_pos (hbounds rfl)]
    | false =>
        obtain rfl : range' = range := hrange
        rfl
  rw [toSpec, toSpec, htime, ← LimitInput.elim_settled limit', hlimit, LimitInput.elim_settled]

/-- Of two bodies that mean the same one is read if the other is, and the same is asked for. -/
theorem toSpec_of_meaning (h : SpelledOnce entries) (h' : SpelledOnce entries')
    (hmeaning : meaning entries = meaning entries') {b : QueryBody}
    (hb : ofJson (.object entries) = .ok b) : ∃ c, ofJson (.object entries') = .ok c ∧
      ∀ ns now, c.toSpec ns now = b.toSpec ns now := by
  rw [ofJson_eq_ok_iff, RecordReader.readFrom,
    RecordReader.FieldWise.readEntries_eq_ok_iff (W := fieldWise)] at hb
  obtain ⟨-, htells⟩ := hb
  have hhas : hasBounds entries = hasBounds entries' := congrArg Prod.fst hmeaning
  have hstates : (sense (hasBounds entries)).States entries =
      (sense (hasBounds entries)).States entries' := by
    have hsnd := congrArg Prod.snd hmeaning
    rw [meaning, meaning, ← hhas] at hsnd
    exact hsnd
  have hfield (f : Field) : ∃ x, fieldWise.Tells empty entries' f x ∧
      settle (hasBounds entries) f x = settle (hasBounds entries) f (b.get f) :=
    (RecordReader.Sense.tells_congr (S := sense (hasBounds entries)) h'.body
      (fun _ hv => h.proper hv) (fun _ hv => h'.proper hv) (congrFun hstates f) (htells f))
  choose x hx hsettle using hfield
  refine ⟨make x, ?_, fun ns now => ?_⟩
  · rw [ofJson_eq_ok_iff, RecordReader.readFrom,
      RecordReader.FieldWise.readEntries_eq_ok_iff (W := fieldWise)]
    refine ⟨h'.body, fun f => ?_⟩
    have hget : fieldWise.fields (make x) f = x f := congrFun (fieldWise.fields.right_inv x) f
    exact hget ▸ hx f
  · refine toSpec_congr (fun f => ?_) (fun hbounds => bounded_of_hasBounds hbounds htells) ns now
    have hget : (make x).get f = x f := congrFun (fieldWise.fields.right_inv x) f
    rw [hget]
    exact hsettle f

/-- Bodies that spell no field twice and differ by any sequence of the changes above ask for the same
query at any time, or are both refused. -/
theorem respelt_same_query (h : Relation.EqvGen Respelt entries entries')
    (hentries : SpelledOnce entries) (hentries' : SpelledOnce entries') (ns : String)
    (now : Instant) :
    (ofJson (.object entries) >>= fun b => b.toSpec ns now).toOption =
      (ofJson (.object entries') >>= fun b => b.toSpec ns now).toOption := by
  have hmeaning := meaning_eqvGen h
  cases hb : ofJson (.object entries) with
  | ok b =>
      obtain ⟨c, hc, hspec⟩ := toSpec_of_meaning hentries hentries' hmeaning hb
      rw [hc]
      exact congrArg Except.toOption (hspec ns now).symm
  | error e =>
      cases hc : ofJson (.object entries') with
      | error e' => rfl
      | ok c =>
          obtain ⟨b, hb', -⟩ := toSpec_of_meaning hentries' hentries hmeaning.symm hc
          rw [hb'] at hb
          cases hb

def leapBody (dimensions measures : List Json) (limit : Json) : List (String × Json) :=
  [("startTime", .string "2024-02-29"), ("dimensions", .array dimensions),
    ("measures", .array measures), ("limit", limit)]

def levelIn (key name : String) : Json :=
  .object [("field", .string "level"), (key, .string name), ("value", .array [.nat 3])]

def terseBody : List (String × Json) :=
  leapBody [.string "host", levelIn "op" "in"] [.object [("field", .string "load")]]
    (.int Text.greatestInt64)

def wordyBody : List (String × Json) :=
  [("limit", .string " 9223372036854775807\n"),
    ("measures", .array [.object [("sort", .string "none"), ("field", .string "load")]]),
    ("dimensions", .array [.object [("field", .string "host")], levelIn "operator" " $in"]),
    ("startTime", .string "2024-02-29"), ("range", .string "yesterday"), ("note", .bool true)]

def leapDay : Instant := (Instant.ofMillis? 1709164800000).getD .epoch

def leapNoon : Instant := (Instant.ofMillis? 1709208000000).getD .epoch

def terseSpec : QuerySpec where
  ns := "audit"
  range := some (.between leapDay leapNoon)
  dimensions := [⟨"host", none, none⟩, ⟨"level", some .isIn, some (.array [.nat 3])⟩]
  measures := [⟨"load", none, none⟩]
  granularity := .all
  limit := some 9223372036854775807
  timestampField := none
  debug := false

theorem eqvGen_terseBody : Relation.EqvGen Respelt terseBody wordyBody := by
  have hdimension (before after : List Json) {v w : Json} (h : Dimension.Respelt v w)
      (measures : List Json) (limit : Json) :
      Respelt (leapBody (before ++ v :: after) measures limit)
        (leapBody (before ++ w :: after) measures limit) :=
    .entries (.rewritten [_] [_, _] (.dimension before after h))
  have hmeasure {v w : Json} (h : Measure.Respelt v w) (dimensions : List Json) (limit : Json) :
      Respelt (leapBody dimensions [v] limit) (leapBody dimensions [w] limit) :=
    .entries (.rewritten [_, _] [_] (.measure [] [] h))
  have hlimit (dimensions measures : List Json) :
      Respelt (leapBody dimensions measures (.int Text.greatestInt64))
        (leapBody dimensions measures (.string " 9223372036854775807\n")) :=
    .entries (.rewritten [_, _, _] []
      (@SameEntry.limit _ (by decide) [' '] ['\n'] (List.all_eq_true.1 rfl)
        (List.all_eq_true.1 rfl)))
  have hname : SameName "in" " $in" :=
    ⟨['i', 'n'], bareName_of_mem_names "in" (by decide),
      ⟨[], [], [], by decide, List.all_eq_true.1 rfl, List.all_eq_true.1 rfl, rfl⟩,
      [' '], ['$'], [], by decide, List.all_eq_true.1 rfl, List.all_eq_true.1 rfl, rfl⟩
  have hdollar : Dimension.Respelt (levelIn "op" "in") (levelIn "op" " $in") :=
    .record (.rewritten [_] [_] (.name (.inl rfl) hname))
  have hkey : Dimension.Respelt (levelIn "op" " $in") (levelIn "operator" " $in") :=
    .record (.rewritten [_] [_] (.key _))
  have hunsorted : Measure.Respelt (.object [("field", .string "load")])
      (.object [("sort", .string "none"), ("field", .string "load")]) :=
    .record (.added [] [_] (.unsorted (by decide)))
  have hnote (entries : List (String × Json)) : Respelt entries (("note", .bool true) :: entries) :=
    .entries (.added [] entries (.unknown (by decide)))
  refine .trans _ _ _ (.rel _ _ (hdimension [] [_] (.bare "host") _ _)) ?_
  refine .trans _ _ _ (.rel _ _ (hdimension [_] [] hdollar _ _)) ?_
  refine .trans _ _ _ (.rel _ _ (hdimension [_] [] hkey _ _)) ?_
  refine .trans _ _ _ (.rel _ _ (hmeasure hunsorted _ _)) ?_
  refine .trans _ _ _ (.rel _ _ (hlimit _ _)) ?_
  refine .trans _ _ _ (.rel _ _ (.range [] _ "yesterday" rfl)) ?_
  refine .trans _ _ _ (.rel _ _ (hnote _)) ?_
  exact .rel _ _ (.entries (.reordered (List.reverse_perm wordyBody)))

theorem respelt_same_query_terse : Relation.EqvGen Respelt terseBody wordyBody ∧
    SpelledOnce terseBody ∧ SpelledOnce wordyBody ∧
    (ofJson (.object terseBody) >>= fun b => b.toSpec "audit" leapNoon).toOption = some terseSpec ∧
    (ofJson (.object wordyBody) >>= fun b => b.toSpec "audit" leapNoon).toOption =
      some terseSpec := by
  have hterse : SpelledOnce terseBody := by decide +kernel
  have hwordy : SpelledOnce wordyBody := by decide +kernel
  have hspec : (ofJson (.object terseBody) >>= fun b => b.toSpec "audit" leapNoon).toOption =
      some terseSpec := by decide +kernel
  refine ⟨eqvGen_terseBody, hterse, hwordy, hspec, ?_⟩
  rw [← respelt_same_query eqvGen_terseBody hterse hwordy "audit" leapNoon, hspec]

end QueryBody

end EventRollup
