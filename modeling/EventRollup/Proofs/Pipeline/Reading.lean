import EventRollup.Proofs.Query.Answer
import Mathlib.Data.List.Perm.Subperm

namespace EventRollup

def ValueType.ofName? (name : String) : Option ValueType :=
  [.date, .string].find? fun t => t.name = name

theorem FieldName.text_ne_and (f : FieldName) : f.text ≠ "$and" := f.text_ne_of_fault (by decide)

namespace Condition

def ofEntry? (key : String) (operand : Json) : Option Condition :=
  if key = "$type" then (operand.asString?.bind ValueType.ofName?).map .typeIs
  else (FilterOperator.all.find? fun op => op.storeKey = key).map fun op => .compare op operand

theorem ofEntry?_entry (c : Condition) : ofEntry? c.key c.operand = some c := by
  cases c with
  | compare op v => cases op <;> rfl
  | typeIs t => cases t <;> rfl

/-- A pattern has to compile; every other condition can always be asked. -/
def WellPosed (c : Condition) : Prop :=
  match c with
  | .compare .regex (.string pattern) => Pattern.isValid pattern = true
  | .compare .regex _ => False
  | _ => True

instance (c : Condition) : Decidable c.WellPosed := by
  unfold WellPosed
  split <;> infer_instance

theorem WellPosed.total {c : Condition} (h : c.WellPosed) : c.Total := by
  cases c with
  | typeIs t => exact total_typeIs t
  | compare op v =>
      by_cases hop : op = .regex
      · subst hop
        cases v with
        | string pattern => exact total_regex h
        | _ => exact h.elim
      · exact total_of_ne_regex hop v

end Condition

abbrev Statement := String × Condition

namespace Statement

def Holds (s : Statement) (d : Document) : Prop := s.2.holds (d.get? s.1) = .ok true

instance (s : Statement) (d : Document) : Decidable (s.Holds d) := by
  unfold Holds
  infer_instance

def clause (s : Statement) : Json := .object [(s.1, .object [(s.2.key, s.2.operand)])]

def ofField? (name : String) : List (String × Json) → Option (List Statement)
  | [] => some []
  | (key, operand) :: r => do
    let c ← Condition.ofEntry? key operand
    let rest ← ofField? name r
    some ((name, c) :: rest)

mutual

/-- The statements of a filter document, all of which a document has to meet. An object is the
conjunction of its entries. -/
def ofFilter? : Json → Option (List Statement)
  | .object entries => ofEntries? entries
  | _ => none

def ofEntries? : List (String × Json) → Option (List Statement)
  | [] => some []
  | (name, v) :: r => do
    let here ← ofEntry? name v
    let rest ← ofEntries? r
    some (here ++ rest)

def ofEntry? (name : String) : Json → Option (List Statement)
  | .array clauses => if name = "$and" then ofClauses? clauses else none
  | .object conditions => if name = "$and" then none else ofField? name conditions
  | _ => none

def ofClauses? : List Json → Option (List Statement)
  | [] => some []
  | v :: r => do
    let here ← ofFilter? v
    let rest ← ofClauses? r
    some (here ++ rest)

end

theorem ofField?_entries (name : String) (cs : List Condition) :
    ofField? name (cs.map fun c => (c.key, c.operand)) = some (cs.map fun c => (name, c)) := by
  induction cs with
  | nil => rfl
  | cons c r ih => simp [ofField?, Condition.ofEntry?_entry, ih]

theorem ofEntries?_append {a b : List (String × Json)} {ss ts : List Statement}
    (ha : ofEntries? a = some ss) (hb : ofEntries? b = some ts) :
    ofEntries? (a ++ b) = some (ss ++ ts) := by
  induction a generalizing ss with
  | nil =>
      rw [ofEntries?] at ha
      cases ha
      exact hb
  | cons e r ih =>
      obtain ⟨name, v⟩ := e
      simp only [ofEntries?, Option.bind_eq_bind, Option.bind_eq_some_iff] at ha
      obtain ⟨here, hhere, rest, hrest, hss⟩ := ha
      cases hss
      simp [ofEntries?, hhere, ih hrest]

theorem ofClauses?_clauses {ss : List Statement} (h : ∀ s ∈ ss, s.1 ≠ "$and") :
    ofClauses? (ss.map clause) = some ss := by
  induction ss with
  | nil => simp [ofClauses?]
  | cons s r ih =>
      obtain ⟨hs, hr⟩ := List.forall_mem_cons.1 h
      simp [clause, ofClauses?, ofFilter?, ofEntries?, ofEntry?, hs, ofField?,
        Condition.ofEntry?_entry, ih hr]

end Statement

namespace Document

theorem keys_ofEntries_subset (entries : List (String × Json)) :
    (ofEntries entries).keys ⊆ entries.map Prod.fst := by
  have step (d : Document) : ∀ name ∈ (entries.foldl (fun d e => Document.insert d e.1 e.2) d).keys,
      name ∈ d.keys ∨ name ∈ entries.map Prod.fst := by
    induction entries generalizing d with
    | nil => exact fun name hname => .inl hname
    | cons e r ih =>
        intro name hname
        rw [List.map_cons, List.mem_cons]
        rcases ih (Document.insert d e.1 e.2) name hname with hinsert | hrest
        · rw [keys_insert] at hinsert
          split at hinsert
          · exact .inl hinsert
          · rw [List.mem_append, List.mem_singleton] at hinsert
            exact hinsert.imp_right .inl
        · exact .inr (.inr hrest)
  intro name hname
  rcases step [] name hname with hnil | hentry
  · cases hnil
  · exact hentry

theorem nodup_of_length_ofEntries {entries : List (String × Json)}
    (h : (ofEntries entries).length = entries.length) : (entries.map Prod.fst).Nodup := by
  have hsub : (ofEntries entries).keys.Subperm (entries.map Prod.fst) :=
    List.subperm_of_subset (nodup_ofEntries entries) (keys_ofEntries_subset entries)
  have hlength : (entries.map Prod.fst).length ≤ (ofEntries entries).keys.length := by
    simp [keys, h]
  exact (hsub.perm_of_length_le hlength).nodup_iff.1 (nodup_ofEntries entries)

end Document

theorem Predicate.merged_eq {p : Predicate} (h : p.mergeable = true) :
    p.merged = p.conditions.map fun c => (c.key, c.operand) := by
  have hlength : p.merged.length = (p.conditions.map fun c => (c.key, c.operand)).length := by
    rw [List.length_map]
    exact of_decide_eq_true h
  exact Document.ofEntries_of_nodup (Document.nodup_of_length_ofEntries hlength)

namespace Filter

/-- What gathering conditions by field comes to: a field has one predicate, and no predicate is
without conditions. -/
structure Gathered (f : Filter) : Prop where
  nodup : (f.predicates.map (·.field)).Nodup
  filled : ∀ p ∈ f.predicates, p.conditions ≠ []

def stated (f : Filter) : List Statement := f.conditions.map fun c => (c.1.text, c.2)

def regrouped (f : Filter) : Filter :=
  ⟨f.predicates.filter (·.mergeable) ++ f.predicates.filter (!·.mergeable)⟩

theorem fields_pushTo (field : FieldName) (c : Condition) (ps : List Predicate) :
    (pushTo field c ps).map (·.field) =
      if field ∈ ps.map (·.field) then ps.map (·.field) else ps.map (·.field) ++ [field] := by
  induction ps with
  | nil => rfl
  | cons p r ih =>
      by_cases hp : p.field = field
      · simp [pushTo, hp]
      · have hne : ¬ field = p.field := fun he => hp he.symm
        simp only [pushTo, hp, if_false, List.map_cons, ih, List.mem_cons, hne, false_or]
        exact apply_ite (p.field :: ·) _ _ _

theorem filled_pushTo (field : FieldName) (c : Condition) {ps : List Predicate}
    (h : ∀ p ∈ ps, p.conditions ≠ []) : ∀ p ∈ pushTo field c ps, p.conditions ≠ [] := by
  induction ps with
  | nil => simp [pushTo]
  | cons p r ih =>
      obtain ⟨hp, hr⟩ := List.forall_mem_cons.1 h
      by_cases hfield : p.field = field
      · simpa [pushTo, hfield] using hr
      · simpa [pushTo, hfield, hp] using ih hr

theorem Gathered.push {f : Filter} (h : f.Gathered) (field : FieldName) (c : Condition) :
    (f.push field c).Gathered := by
  refine ⟨?_, filled_pushTo field c h.filled⟩
  rw [Filter.push, fields_pushTo]
  split
  · exact h.nodup
  · rename_i hnew
    exact nodup_concat h.nodup hnew

theorem gathered_empty : empty.Gathered := ⟨List.nodup_nil, nofun⟩

theorem Gathered.pushAll {f : Filter} (h : f.Gathered) (cs : List (FieldName × Condition)) :
    (Plan.pushAll cs f).Gathered := by
  induction cs generalizing f with
  | nil => exact h
  | cons c r ih => exact ih (h.push c.1 c.2)

theorem gathered_timeWindow (field : FieldName) (w : Option TimeWindow) (e : DateEncoding) :
    (timeWindow field w e).Gathered := by
  cases w with
  | none => exact (gathered_empty.push _ _).push _ _
  | some w => exact ((gathered_empty.push _ _).push _ _).push _ _

theorem regrouped_perm (f : Filter) : f.regrouped.predicates.Perm f.predicates :=
  List.filter_append_perm _ f.predicates

theorem stated_regrouped (f : Filter) : f.regrouped.stated.Perm f.stated :=
  (f.regrouped_perm.flatMap_right _).map _

theorem ofEntries?_merged {ps : List Predicate} (h : ∀ p ∈ ps, p.mergeable = true) :
    Statement.ofEntries? (ps.map fun p => (p.field.text, .object p.merged)) =
      some (stated ⟨ps⟩) := by
  induction ps with
  | nil => rfl
  | cons p r ih =>
      obtain ⟨hp, hr⟩ := List.forall_mem_cons.1 h
      simp [Statement.ofEntries?, Statement.ofEntry?, p.field.text_ne_and, Predicate.merged_eq hp,
        Statement.ofField?_entries, ih hr, stated, conditions]

theorem clauses_eq (ps : List Predicate) :
    ps.flatMap (·.clauses) = (stated ⟨ps⟩).map Statement.clause := by
  simp [stated, conditions, Predicate.clauses, List.map_flatMap, Statement.clause, Function.comp_def]

theorem stated_append (ps qs : List Predicate) :
    stated ⟨ps ++ qs⟩ = stated ⟨ps⟩ ++ stated ⟨qs⟩ := by
  simp [stated, conditions]

theorem ne_and_of_stated {f : Filter} : ∀ s ∈ f.stated, s.1 ≠ "$and" := by
  intro s hs
  obtain ⟨c, -, rfl⟩ := List.mem_map.1 hs
  exact c.1.text_ne_and

theorem nodup_entries {f : Filter} (h : f.Gathered) (clauses : Json) :
    ((((f.predicates.filter (·.mergeable)).map fun p => (p.field.text, Json.object p.merged)) ++
      [("$and", clauses)]).map Prod.fst).Nodup := by
  have hsub : ((f.predicates.filter (·.mergeable)).map (·.field)).Nodup :=
    h.nodup.sublist (List.filter_sublist.map _)
  rw [List.map_append, List.map_singleton, List.map_map]
  apply nodup_concat (FieldName.nodup_texts hsub)
  intro hmem
  obtain ⟨p, -, hp⟩ := List.mem_map.1 hmem
  exact p.field.text_ne_and hp

theorem toJson_eq {f : Filter} (h : f.Gathered) :
    f.toJson = .object (((f.predicates.filter (·.mergeable)).map fun p =>
        (p.field.text, Json.object p.merged)) ++
      if (f.predicates.filter (!·.mergeable)).flatMap (·.clauses) = [] then []
      else [("$and", .array ((f.predicates.filter (!·.mergeable)).flatMap (·.clauses)))]) := by
  have hnodup := nodup_entries h (.array ((f.predicates.filter (!·.mergeable)).flatMap (·.clauses)))
  rw [toJson]
  -- the reserved entry is only there if there are clauses
  generalize (f.predicates.filter (!·.mergeable)).flatMap (·.clauses) = clauses at *
  cases clauses with
  | nil =>
      rw [List.isEmpty_nil, if_pos rfl, if_pos rfl, List.append_nil,
        Document.ofEntries_of_nodup (hnodup.sublist ((List.sublist_append_left ..).map _))]
  | cons v r =>
      rw [List.isEmpty_cons, if_neg Bool.false_ne_true, if_neg (List.cons_ne_nil v r),
        Document.ofEntries_of_nodup hnodup]

theorem read_toJson {f : Filter} (h : f.Gathered) :
    Statement.ofFilter? f.toJson = some f.regrouped.stated := by
  have hmergeable : ∀ p ∈ f.predicates.filter (·.mergeable), p.mergeable = true := by simp
  have hclauses : Statement.ofClauses? ((f.predicates.filter (!·.mergeable)).flatMap (·.clauses)) =
      some (stated ⟨f.predicates.filter (!·.mergeable)⟩) := by
    rw [clauses_eq]
    exact Statement.ofClauses?_clauses ne_and_of_stated
  rw [toJson_eq h, Statement.ofFilter?, regrouped, stated_append]
  refine Statement.ofEntries?_append (ofEntries?_merged hmergeable) ?_
  generalize (f.predicates.filter (!·.mergeable)).flatMap (·.clauses) = clauses at *
  split
  · rename_i hempty
    rw [hempty, Statement.ofClauses?] at hclauses
    rw [← Option.some.inj hclauses, Statement.ofEntries?]
  · rw [Statement.ofEntries?, Statement.ofEntry?, if_pos rfl, hclauses, Statement.ofEntries?]
    simp

theorem passes_iff_stated {f : Filter} {d : Document} :
    f.Passes d ↔ ∀ s ∈ f.stated, s.Holds d := by
  rw [stated, List.forall_mem_map]
  rfl

theorem accepts_of_stated {f : Filter} (h : f.Total) {ss : List Statement}
    (hperm : ss.Perm f.stated) (d : Document) :
    f.accepts d = .ok (decide (∀ s ∈ ss, s.Holds d)) := by
  rw [accepts_total h]
  congr 1
  simp only [passes_iff_stated, hperm.mem_iff]

end Filter

/-- What a query asks of its timestamp: to be inside the window, or merely there, and of the type
that the encoding stores. -/
def DateEncoding.windowConditions (e : DateEncoding) : Option TimeWindow → List Condition
  | some w =>
    [.compare .gte (e.encode w.start), .compare .lte (e.encode w.stop), .typeIs (.ofEncoding e)]
  | none => [.compare .exists (.bool true), .typeIs (.ofEncoding e)]

theorem Filter.timeWindow_eq (field : FieldName) (w : Option TimeWindow) (e : DateEncoding) :
    timeWindow field w e = ⟨[⟨field, e.windowConditions w⟩]⟩ := by
  cases w with
  | none => exact timeWindow_none field e
  | some w => exact timeWindow_some field w e

/-- The condition of a dimension that has an operator. Where a value may be left out, presence is
asked for and everything else compares with null. -/
def Dimension.statement? (x : Dimension) : Option Statement :=
  x.op.map fun op =>
    (x.field, .compare op (x.value.getD (if op = .exists then .bool true else .null)))

def QuerySpec.statements (settings : Settings) (spec : QuerySpec) (window : Option TimeWindow) :
    List Statement :=
  (settings.encoding.windowConditions window).map (fun c => (spec.timestampName settings, c)) ++
    spec.dimensions.filterMap (·.statement?)

namespace Plan

theorem operand_eq {x : Dimension} {op : FilterOperator} {v : Json} (h : operand x op = .ok v) :
    v = x.value.getD (if op = .exists then .bool true else .null) := by
  by_cases hop : op = .regex
  · subst hop
    obtain ⟨pattern, hvalue, rfl, -⟩ := pattern_of_operand h
    rw [hvalue, Option.getD_some]
  · cases op <;> unfold operand at h <;> split at h <;> simp_all

theorem statements_of_conditionsOf {dims : List Dimension} {names : List FieldName}
    {cs : List (FieldName × Condition)} (htext : names.map (·.text) = dims.map (·.field))
    (h : conditionsOf (dims.zip names) = .ok cs) :
    cs.map (fun c => (c.1.text, c.2)) = dims.filterMap (·.statement?) := by
  induction dims generalizing names cs with
  | nil =>
      cases h
      rfl
  | cons x r ih =>
      cases names with
      | nil => cases htext
      | cons field names =>
          obtain ⟨hfield, hrest⟩ := List.cons.inj htext
          rw [List.zip_cons_cons, conditionsOf] at h
          cases hop : x.op with
          | none =>
              have hstated : x.statement? = none := by
                rw [Dimension.statement?, hop, Option.map_none]
              rw [hop] at h
              rw [ih hrest h, List.filterMap_cons_none hstated]
          | some op =>
              rw [hop] at h
              obtain ⟨v, hv, h⟩ := bind_eq_ok h
              obtain ⟨rest, hcs, h⟩ := bind_eq_ok h
              have hstated : x.statement? = some (field.text, .compare op v) := by
                rw [Dimension.statement?, hop, Option.map_some, ← operand_eq hv]
                exact congrArg (fun name => some (name, Condition.compare op v)) hfield.symm
              rw [← Except.ok.inj h, List.map_cons, ih hrest hcs,
                List.filterMap_cons_some hstated]

namespace Parts

variable {settings : Settings} {presets : List Preset} {spec : QuerySpec} {now : Instant}
  {p : Parts}

theorem gathered_filter (p : Parts) (e : DateEncoding) : (p.filter e).Gathered :=
  (Filter.gathered_timeWindow p.timestamp p.window e).pushAll p.conditions

/-- The filter of a query states its window and the conditions of its dimensions, and nothing else. -/
theorem stated_filter (h : parts settings presets spec now = .ok p) :
    (p.filter settings.encoding).stated.Perm (spec.statements settings p.window) := by
  obtain ⟨-, ⟨names, hnames, -, hconditions⟩, -⟩ := steps_of_parts h
  have hwindow : (Filter.timeWindow p.timestamp p.window settings.encoding).stated =
      (settings.encoding.windowConditions p.window).map fun c =>
        (spec.timestampName settings, c) := by
    rw [QuerySpec.timestampName, ← (parts_sound h).timestamp_text, Filter.timeWindow_eq]
    simp [Filter.stated, Filter.conditions]
  have hpush := (conditions_pushAll p.conditions
    (Filter.timeWindow p.timestamp p.window settings.encoding)).map fun c => (c.1.text, c.2)
  rw [List.map_append, statements_of_conditionsOf (mapM_parse_text hnames) hconditions] at hpush
  rw [QuerySpec.statements, ← hwindow]
  exact hpush.trans List.perm_append_comm

theorem kept_sublist {wider : QuerySpec} {q : Parts}
    (hp : parts settings presets spec now = .ok p) (hq : parts settings presets wider now = .ok q)
    (hrange : wider.range = spec.range) (htimestamp : wider.timestampField = spec.timestampField)
    (hdims : spec.dimensions ⊆ wider.dimensions) (docs : List Document) :
    ((q.filter settings.encoding).kept docs).Sublist ((p.filter settings.encoding).kept docs) := by
  have hwindow : p.window = q.window := by
    obtain ⟨-, -, -, hp⟩ := steps_of_parts hp
    obtain ⟨-, -, -, hq⟩ := steps_of_parts hq
    rw [hrange, hp] at hq
    exact Except.ok.inj hq
  have hsub : spec.statements settings p.window ⊆ wider.statements settings q.window := by
    have hname : wider.timestampName settings = spec.timestampName settings :=
      congrArg (fun field => field.getD settings.timestampField) htimestamp
    rw [QuerySpec.statements, QuerySpec.statements, hname, hwindow]
    refine List.append_subset.2 ⟨List.subset_append_left _ _, ?_⟩
    exact fun s hs => List.mem_append_right _ (List.filterMap_subset _ hdims hs)
  apply List.monotone_filter_right
  intro d hd
  rw [decide_eq_true_eq, Filter.passes_iff_stated] at hd ⊢
  intro s hs
  exact hd s ((stated_filter hq).mem_iff.2 (hsub ((stated_filter hp).mem_iff.1 hs)))

end Parts

/-- A rendered filter means what the filter means, and it states every condition that was pushed as
often as it was pushed. In a compiled query these are the conditions of the window and of the
dimensions, so a further dimension only takes documents away. -/
theorem filter_reads_back :
    (∀ pushed : List (FieldName × Condition), ∃ stated,
      Statement.ofFilter? (pushAll pushed .empty).toJson = some stated ∧
        stated.Perm (pushed.map fun c => (c.1.text, c.2)) ∧
        ((∀ c ∈ pushed, c.2.WellPosed) → ∀ d,
          (pushAll pushed .empty).accepts d = .ok (decide (∀ s ∈ stated, s.Holds d)))) ∧
    ∀ settings presets spec now plan, compile settings presets spec now = .ok plan →
      ∃ filter rest window stated, plan.pipeline.stages = .filter filter :: rest ∧
        (spec.range.elim (.ok none) fun r => (r.resolve presets now).map some) = .ok window ∧
        Statement.ofFilter? filter.toJson = some stated ∧
        stated.Perm (spec.statements settings window) ∧
        (∀ d, filter.accepts d = .ok (decide (∀ s ∈ stated, s.Holds d))) ∧
        ∀ wider plan', compile settings presets wider now = .ok plan' →
          wider.range = spec.range → wider.timestampField = spec.timestampField →
          spec.dimensions ⊆ wider.dimensions →
          ∃ filter' rest', plan'.pipeline.stages = .filter filter' :: rest' ∧
            ∀ docs, ∃ kept kept', filter.run docs = .ok kept ∧ filter'.run docs = .ok kept' ∧
              kept'.Sublist kept := by
  constructor
  · intro pushed
    have hread := Filter.read_toJson (Filter.gathered_empty.pushAll pushed)
    have hconditions : (pushAll pushed .empty).conditions.Perm pushed := by
      simpa [Filter.empty, Filter.conditions] using conditions_pushAll pushed .empty
    have hstated := Filter.stated_regrouped (pushAll pushed .empty)
    refine ⟨_, hread, hstated.trans (hconditions.map _), ?_⟩
    intro hposed d
    refine Filter.accepts_of_stated ?_ hstated d
    intro c hc
    exact (hposed c (hconditions.mem_iff.1 hc)).total
  · intro settings presets spec now plan hplan
    obtain ⟨p, hp, rfl⟩ := parts_of_compile hplan
    have hstated := Filter.stated_regrouped (p.filter settings.encoding)
    have htotal := Parts.filter_total (parts_sound hp) settings.encoding
    refine ⟨_, _, p.window, _, rfl, (steps_of_parts hp).2.2.2, Filter.read_toJson (p.gathered_filter _),
      hstated.trans (Parts.stated_filter hp), Filter.accepts_of_stated htotal hstated, ?_⟩
    intro wider plan' hwider hrange htimestamp hdims
    obtain ⟨q, hq, rfl⟩ := parts_of_compile hwider
    refine ⟨_, _, rfl, ?_⟩
    intro docs
    have htotal' := Parts.filter_total (parts_sound hq) settings.encoding
    exact ⟨_, _, Filter.run_total htotal docs, Filter.run_total htotal' docs,
      Parts.kept_sublist hp hq hrange htimestamp hdims docs⟩

def bounds : List (FieldName × Condition) :=
  [(⟨"level", by decide⟩, .compare .gt (.int 1)),
    (⟨"region", by decide⟩, .compare .regex (.string "^e")),
    (⟨"level", by decide⟩, .compare .gt (.int 2))]

def renderedBounds : Json :=
  .object [("region", .object [("$regex", .string "^e")]),
    ("$and", .array [.object [("level", .object [("$gt", .int 1)])],
      .object [("level", .object [("$gt", .int 2)])]])]

def counted (dimensions : List Dimension) : QuerySpec where
  ns := "events"
  range := none
  dimensions
  measures := [⟨"count", none, none⟩]
  granularity := .all
  limit := none
  timestampField := none
  debug := false

def untimed : Dimension := ⟨"ts", some .exists, some (.bool false)⟩

def renderedUntimed : Json :=
  .object [("$and", .array [.object [("ts", .object [("$exists", .bool true)])],
    .object [("ts", .object [("$type", .string "date")])],
    .object [("ts", .object [("$exists", .bool false)])]])]

theorem filter_reads_back_repeated :
    (∀ c ∈ bounds, c.2.WellPosed) ∧ (pushAll bounds .empty).toJson = renderedBounds ∧
      (∃ stated, Statement.ofFilter? renderedBounds = some stated ∧
        stated.Perm (bounds.map fun c => (c.1.text, c.2)) ∧
        ∀ d, (pushAll bounds .empty).accepts d = .ok (decide (∀ s ∈ stated, s.Holds d))) ∧
      ∃ plan plan' filter filter', compile .standard [] (counted []) .epoch = .ok plan ∧
        compile .standard [] (counted [untimed]) .epoch = .ok plan' ∧
        plan.pipeline.filter? = some filter ∧ plan'.pipeline.filter? = some filter' ∧
        filter'.toJson = renderedUntimed ∧
        ∀ docs, ∃ kept kept', filter.run docs = .ok kept ∧ filter'.run docs = .ok kept' ∧
          kept'.Sublist kept := by
  have hposed : ∀ c ∈ bounds, c.2.WellPosed := by decide +kernel
  have hbounds : (pushAll bounds .empty).toJson = renderedBounds := by decide +kernel
  obtain ⟨stated, hread, hperm, haccepts⟩ := filter_reads_back.1 bounds
  have hcompiled : (compile .standard [] (counted []) .epoch).toOption.map (fun _ => true) =
      some true := by decide +kernel
  have hwider : (compile .standard [] (counted [untimed]) .epoch).toOption.map (fun plan =>
      plan.pipeline.filter?.map (·.toJson)) = some (some renderedUntimed) := by decide +kernel
  obtain ⟨plan, hplan, -⟩ := eq_ok_of_toOption hcompiled
  obtain ⟨plan', hplan', hrendered⟩ := eq_ok_of_toOption hwider
  obtain ⟨filter, rest, window, _, hstages, _, _, _, _, hnarrow⟩ :=
    filter_reads_back.2 _ _ _ _ _ hplan
  obtain ⟨filter', rest', hstages', hdocs⟩ := hnarrow _ _ hplan' rfl rfl (by simp [counted])
  have hfilter' : plan'.pipeline.filter? = some filter' := by simp [Pipeline.filter?, hstages']
  rw [hfilter'] at hrendered
  exact ⟨hposed, hbounds, ⟨stated, hbounds ▸ hread, hperm, haccepts hposed⟩, plan, plan', filter,
    filter', hplan, hplan', by simp [Pipeline.filter?, hstages], hfilter',
    Option.some.inj hrendered, hdocs⟩

end Plan

end EventRollup
