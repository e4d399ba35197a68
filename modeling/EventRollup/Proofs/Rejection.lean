import EventRollup.Service

namespace EventRollup

def RejectsOnly {α : Type} (x : Except Error α) : Prop := ∀ e, x = .error e → e.isRejection = true

namespace RejectsOnly

variable {α β : Type}

theorem ok (a : α) : RejectsOnly (.ok a) := by
  intro e h
  cases h

theorem error {e : Error} (h : e.isRejection = true) : RejectsOnly (.error e : Except Error α) := by
  intro e' h'
  cases h'
  exact h

theorem bind {x : Except Error α} {f : α → Except Error β} (hx : RejectsOnly x)
    (hf : ∀ a, RejectsOnly (f a)) : RejectsOnly (x >>= f) := by
  cases x with
  | error e => exact error (hx e rfl)
  | ok a => exact hf a

theorem map {x : Except Error α} (hx : RejectsOnly x) (f : α → β) : RejectsOnly (x.map f) := by
  cases x with
  | error e => exact error (hx e rfl)
  | ok a => exact ok (f a)

theorem elim {x : Except Error β} {f : α → Except Error β} (hx : RejectsOnly x)
    (hf : ∀ a, RejectsOnly (f a)) (o : Option α) : RejectsOnly (o.elim x f) := by
  cases o with
  | none => exact hx
  | some a => exact hf a

theorem mapM {f : α → Except Error β} (hf : ∀ a, RejectsOnly (f a)) (l : List α) :
    RejectsOnly (l.mapM f) := by
  induction l with
  | nil => exact ok []
  | cons a r ih =>
      rw [List.mapM_cons]
      exact (hf a).bind fun b => ih.bind fun bs => ok (b :: bs)

end RejectsOnly

theorem FieldName.rejectsOnly_parse (raw : String) : RejectsOnly (parse raw) := by
  unfold parse
  split
  · exact .ok _
  · exact .error rfl

theorem Settings.rejectsOnly_checkNamespace (settings : Settings) (ns : String) :
    RejectsOnly (settings.checkNamespace ns) := by
  unfold checkNamespace
  split
  · exact .ok ()
  · exact .error rfl

theorem Preset.rejectsOnly_resolve (presets : List Preset) (name : String) (now : Instant) :
    RejectsOnly (resolve presets name now) := by
  unfold resolve
  split
  · split
    · exact .ok _
    · exact .error rfl
  · exact .error rfl

theorem TimeRange.rejectsOnly_resolve (presets : List Preset) (now : Instant) (range : TimeRange) :
    RejectsOnly (range.resolve presets now) := by
  cases range with
  | between start stop => exact .ok _
  | preset name => exact Preset.rejectsOnly_resolve presets name now

namespace Plan

theorem rejectsOnly_operand (d : Dimension) (op : FilterOperator) : RejectsOnly (operand d op) := by
  unfold operand
  split <;> first
    | exact .ok _
    | exact .error rfl
    | (split <;> first | exact .ok _ | exact .error rfl)

theorem rejectsOnly_distinctDimensions (g : Granularity) (timestamp : FieldName)
    (seen fields : List FieldName) : RejectsOnly (distinctDimensions g timestamp seen fields) := by
  induction fields generalizing seen with
  | nil => exact .ok seen
  | cons f r ih =>
      unfold distinctDimensions
      split
      · exact .error rfl
      · exact ih _

theorem rejectsOnly_outputs (settings : Settings) (g : Granularity) (timestamp : FieldName)
    (dimensions : List FieldName) (seen : List Output) (measures : List Measure) :
    RejectsOnly (outputs settings g timestamp dimensions seen measures) := by
  induction measures generalizing seen with
  | nil => exact .ok seen
  | cons m r ih =>
      refine (FieldName.rejectsOnly_parse m.field).bind fun field => ?_
      split
      · exact .error rfl
      · exact ih _

theorem rejectsOnly_addConditions (l : List (Dimension × FieldName)) (f : Filter) :
    RejectsOnly (addConditions l f) := by
  induction l generalizing f with
  | nil => exact .ok f
  | cons e r ih =>
      obtain ⟨d, field⟩ := e
      unfold addConditions
      split
      · exact ih f
      · exact (rejectsOnly_operand d _).bind fun v => ih _

theorem rejectsOnly_compile (settings : Settings) (presets : List Preset) (spec : QuerySpec)
    (now : Instant) : RejectsOnly (compile settings presets spec now) := by
  unfold compile
  refine (FieldName.rejectsOnly_parse _).bind fun timestamp => ?_
  have hname (d : Dimension) := FieldName.rejectsOnly_parse d.field
  refine (RejectsOnly.mapM hname spec.dimensions).bind fun names => ?_
  refine (rejectsOnly_distinctDimensions _ _ _ _).bind fun dimensions => ?_
  refine (rejectsOnly_outputs _ _ _ _ _ _).bind fun outs => ?_
  have hrange (r : TimeRange) := (r.rejectsOnly_resolve presets now).map some
  refine ((RejectsOnly.ok none).elim hrange spec.range).bind fun window => ?_
  refine (rejectsOnly_addConditions _ _).bind fun filter => ?_
  exact .ok _

end Plan

namespace Instant

theorem rejectsOnly_parse (text : String) : RejectsOnly (parse text) := by
  unfold parse
  split
  · exact .ok _
  · exact .error rfl

theorem rejectsOnly_coerce (v : Json) : RejectsOnly (coerce v) := by
  unfold coerce
  split
  · exact rejectsOnly_parse _
  · split
    · exact .ok _
    · exact .error rfl
  · split
    · exact .ok _
    · exact .error rfl
  · exact .error rfl

end Instant

namespace Event

theorem rejectsOnly_time (field : FieldName) (now : Instant) (d : Document) :
    RejectsOnly (time field now d) := by
  unfold time
  split
  · exact .ok now
  · exact .ok now
  · split
    · exact .ok _
    · exact .error rfl
  · exact Instant.rejectsOnly_coerce _
  · exact Instant.rejectsOnly_coerce _
  · exact .error rfl

theorem rejectsOnly_normalize (field : FieldName) (e : DateEncoding) (now : Instant)
    (d : Document) : RejectsOnly (normalize field e now d) :=
  (rejectsOnly_time field now d).bind fun _ => .ok _

end Event

namespace QueryBody

theorem rejectsOnly_ofJson (v : Json) : RejectsOnly (ofJson v) := by
  unfold ofJson
  split
  · exact .ok _
  · exact .error rfl

theorem rejectsOnly_timeRange (b : QueryBody) (now : Instant) : RejectsOnly (b.timeRange now) := by
  unfold timeRange
  split
  · exact ((RejectsOnly.ok Instant.epoch).elim Instant.rejectsOnly_coerce b.startTime).bind fun _ =>
      ((RejectsOnly.ok now).elim Instant.rejectsOnly_coerce b.endTime).bind fun _ => .ok _
  · exact .ok _

theorem rejectsOnly_resolve (l : LimitInput) : RejectsOnly l.resolve := by
  cases l with
  | number n => exact .ok _
  | text s =>
      unfold LimitInput.resolve
      dsimp only
      split
      · exact .ok _
      · exact .error rfl

theorem rejectsOnly_toSpec (b : QueryBody) (ns : String) (now : Instant) :
    RejectsOnly (b.toSpec ns now) :=
  (rejectsOnly_timeRange b now).bind fun _ =>
    ((RejectsOnly.ok none).elim rejectsOnly_resolve b.limit).bind fun _ => .ok _

end QueryBody

namespace Service

theorem rejectsOnly_compile (s : Service) (now : Instant) (spec : QuerySpec) :
    RejectsOnly (s.compile now spec) :=
  (s.settings.rejectsOnly_checkNamespace spec.ns).bind fun _ =>
    Plan.rejectsOnly_compile s.settings s.presets spec now

theorem rejectsOnly_specOf (s : Service) (now : Instant) (ns : String) (body : QueryBody) :
    RejectsOnly (s.specOf now ns body) :=
  (s.settings.rejectsOnly_checkNamespace ns).bind fun _ => body.rejectsOnly_toSpec ns now

theorem rejectsOnly_prepare (s : Service) (now : Instant) (ns : String) (d : Document) :
    RejectsOnly (s.prepare now ns d) :=
  (s.settings.rejectsOnly_checkNamespace ns).bind fun _ =>
    Event.rejectsOnly_normalize s.timestampField s.settings.encoding now d

theorem rejectsOnly_planScan (s : Service) (now : Instant) (r : ScanRequest) :
    RejectsOnly (s.planScan now r) :=
  (s.settings.rejectsOnly_checkNamespace r.ns).bind fun _ =>
    ((RejectsOnly.ok s.timestampField).elim FieldName.rejectsOnly_parse r.timestampField).bind
      fun _ => ((RejectsOnly.ok Filter.empty).elim
        (fun range => (range.rejectsOnly_resolve s.presets now).bind fun _ => .ok _)
        r.range).bind fun _ => .ok _

end Service

namespace Backend

variable {b : Backend} {ns : String} {e : Error}

theorem not_rejection_insertOne {d : Document} (h : (b.insertOne ns d).1 = .error e) :
    e.isRejection = false := by
  unfold insertOne at h
  split at h
  · cases h
    rfl
  · cases h

theorem not_rejection_mapError {α : Type} {x : Except StoreFault α}
    (h : x.mapError Error.store = .error e) : e.isRejection = false := by
  cases x with
  | error fault =>
      cases h
      rfl
  | ok a => cases h

theorem not_rejection_aggregate {p : Pipeline} (h : b.aggregate ns p = .error e) :
    e.isRejection = false := by
  unfold aggregate at h
  split at h
  · cases h
    rfl
  · exact not_rejection_mapError h

theorem not_rejection_find {f : Filter} {options : FindOptions} (h : b.find ns f options = .error e) :
    e.isRejection = false := by
  unfold find at h
  split at h
  · cases h
    rfl
  · exact not_rejection_mapError h

end Backend

end EventRollup
