import EventRollup.Proofs.Pipeline.Checks
import EventRollup.Proofs.Pipeline.Rendering

namespace EventRollup

/-- Where in a rendered pipeline a value stands. -/
inductive Place where
  | stage
  | filter
  | conditions
  | operand
  | projection
  | grouping
  | groupKey
  | component
  | dateInput
  | dateText
  | output
  | sorting
  | leaf
deriving DecidableEq

namespace Place

/-- The operators of a place, with the places of their arguments. -/
def operators : Place → List (String × Place)
  | .stage => [("$match", .filter), ("$project", .projection), ("$group", .grouping),
    ("$sort", .sorting), ("$limit", .leaf)]
  | .filter => [("$and", .filter)]
  | .conditions => ("$type", .leaf) :: FilterOperator.all.map fun op => (op.storeKey, .operand)
  | .component => Granularity.second.dateParts.map fun part => (part.storeOperator, .dateInput)
  | .dateInput => [("$dateFromString", .dateText)]
  | .output => AggregateOperator.all.map fun op => (op.storeKey, .leaf)
  | _ => []

/-- The other keys of a place that are not names of a query. -/
def words : Place → List (String × Place)
  | .projection => [(EventRollup.groupKey, .leaf)]
  | .grouping => [(EventRollup.groupKey, .groupKey)]
  | .groupKey => Granularity.second.dateParts.map fun part => (part.key, .component)
  | .dateText => [("dateString", .leaf)]
  | .sorting => [(EventRollup.groupKey, .leaf)]
  | _ => []

def named? : Place → Option Place
  | .filter => some .conditions
  | .projection => some .leaf
  | .grouping => some .output
  | .groupKey => some .component
  | .sorting => some .leaf
  | _ => none

def under (p : Place) (key : String) : Place :=
  match (p.operators ++ p.words).find? (fun o => o.1 = key) with
  | some o => o.2
  | none => p.named?.getD .leaf

theorem head?_operator : ∀ p : Place, ∀ o ∈ p.operators, o.1.toList.head? = some '$' := by
  intro p
  cases p <;> decide

theorem head?_word : ∀ p : Place, ∀ w ∈ p.words, w.1.toList.head? ≠ some '$' := by
  intro p
  cases p <;> decide

theorem under_operator : ∀ p : Place, ∀ o ∈ p.operators, p.under o.1 = o.2 := by
  intro p
  cases p <;> decide

theorem under_word : ∀ p : Place, ∀ w ∈ p.words, p.under w.1 = w.2 := by
  intro p
  cases p <;> decide

end Place

inductive Site where
  | key (place : Place) (name : String)
  | text (s : String)
deriving DecidableEq

/-- A key that reads as an operator is one of its place, and any other is a word of its place or a
name of the query. A string that reads as a reference refers to such a name. -/
def Site.Known (names : List String) : Site → Prop
  | .key place name =>
    if name.toList.head? = some '$' then name ∈ place.operators.map Prod.fst
    else name ∈ place.words.map Prod.fst ∨ place.named? ≠ none ∧ name ∈ names
  | .text s => s.toList.head? = some '$' → ∃ name ∈ names, s = "$" ++ name

namespace Json

mutual

/-- All texts of a value but those in operands of conditions. -/
def sites : Place → Json → List Site
  | .operand, _ => []
  | _, .string s => [.text s]
  | place, .array items => sitesOfItems place items
  | place, .object entries => sitesOfEntries place entries
  | _, _ => []

def sitesOfItems (place : Place) : List Json → List Site
  | [] => []
  | v :: r => sites place v ++ sitesOfItems place r

def sitesOfEntries (place : Place) : List (String × Json) → List Site
  | [] => []
  | (k, v) :: r => .key place k :: (sites (place.under k) v ++ sitesOfEntries place r)

end

/-- A value all of whose texts are known at its place. -/
def Clean (names : List String) (place : Place) (v : Json) : Prop :=
  ∀ site ∈ v.sites place, site.Known names

inductive StandsAt (v : Json) : List String → Json → Prop
  | here : StandsAt v [] v
  | item {path : List String} {items : List Json} {w : Json} :
      w ∈ items → StandsAt v path w → StandsAt v path (.array items)
  | entry {path : List String} {entries : List (String × Json)} {key : String} {w : Json} :
      Document.get? entries key = some w → StandsAt v path w →
        StandsAt v (key :: path) (.object entries)

variable {names : List String} {place : Place}

def CleanEntry (names : List String) (place : Place) (e : String × Json) : Prop :=
  (Site.key place e.1).Known names ∧ e.2.Clean names (place.under e.1)

theorem clean_operand (v : Json) : v.Clean names .operand := by
  cases v <;> exact nofun

theorem clean_bool (b : Bool) : (Json.bool b).Clean names place := by
  cases place <;> exact nofun

theorem clean_number (n : Number) : (Json.number n).Clean names place := by
  cases place <;> exact nofun

theorem clean_string {s : String} (h : (Site.text s).Known names) :
    (Json.string s).Clean names place := by
  cases place with
  | operand => exact clean_operand _
  | _ => exact List.forall_mem_singleton.2 h

theorem clean_array {items : List Json} (h : ∀ v ∈ items, v.Clean names place) :
    (Json.array items).Clean names place := by
  have hitems : ∀ site ∈ sitesOfItems place items, site.Known names := by
    induction items with
    | nil => exact nofun
    | cons v r ih =>
        obtain ⟨hv, hr⟩ := List.forall_mem_cons.1 h
        exact List.forall_mem_append.2 ⟨hv, ih hr⟩
  cases place with
  | operand => exact clean_operand _
  | _ => exact hitems

theorem clean_object {entries : List (String × Json)}
    (h : ∀ e ∈ entries, CleanEntry names place e) : (Json.object entries).Clean names place := by
  have hentries : ∀ site ∈ sitesOfEntries place entries, site.Known names := by
    induction entries with
    | nil => exact nofun
    | cons e r ih =>
        obtain ⟨⟨hkey, hv⟩, hr⟩ := List.forall_mem_cons.1 h
        exact List.forall_mem_cons.2 ⟨hkey, List.forall_mem_append.2 ⟨hv, ih hr⟩⟩
  cases place with
  | operand => exact clean_operand _
  | _ => exact hentries

theorem clean_ofEntries {entries : List (String × Json)}
    (h : ∀ e ∈ entries, CleanEntry names place e) :
    (Json.object (Document.ofEntries entries)).Clean names place :=
  clean_object fun e he => h e (Document.mem_of_mem_ofEntries he)

theorem cleanEntry_operator {o : String × Place} (ho : o ∈ place.operators) {v : Json}
    (hv : v.Clean names o.2) : CleanEntry names place (o.1, v) := by
  refine ⟨?_, ?_⟩
  · rw [Site.Known, if_pos (place.head?_operator o ho)]
    exact List.mem_map_of_mem ho
  · rwa [place.under_operator o ho]

theorem cleanEntry_word {w : String × Place} (hw : w ∈ place.words) {v : Json}
    (hv : v.Clean names w.2) : CleanEntry names place (w.1, v) := by
  refine ⟨?_, ?_⟩
  · rw [Site.Known, if_neg (place.head?_word w hw)]
    exact .inl (List.mem_map_of_mem hw)
  · rwa [place.under_word w hw]

theorem clean_operation {o : String × Place} (ho : o ∈ place.operators) {v : Json}
    (hv : v.Clean names o.2) : (Json.object [(o.1, v)]).Clean names place :=
  clean_object (List.forall_mem_singleton.2 (cleanEntry_operator ho hv))

end Json

namespace FieldName

theorem head?_text (f : FieldName) : f.text.toList.head? ≠ some '$' :=
  (fault?_eq_none_iff.1 f.faultless).plain

/-- A name stands for no operator and for no word of another meaning. -/
theorem under_text (f : FieldName) {place inner : Place} (h : place.named? = some inner) :
    place.under f.text = inner := by
  have hword : ∀ w ∈ place.words, w.1 = f.text → w.2 = inner := by
    intro w hw he
    cases place with
    | projection | grouping | sorting =>
        rw [List.mem_singleton.1 hw] at he
        exact absurd he.symm f.text_ne_groupKey
    | groupKey =>
        obtain ⟨part, -, rfl⟩ := List.mem_map.1 hw
        exact Option.some.inj h
    | dateText => cases h
    | _ => cases hw
  unfold Place.under
  split
  · rename_i o hfound
    have he : o.1 = f.text := of_decide_eq_true (List.find?_some hfound :)
    rcases List.mem_append.1 (List.mem_of_find?_eq_some hfound) with ho | hw
    · exact absurd (he ▸ place.head?_operator o ho) f.head?_text
    · exact hword o hw he
  · rw [h, Option.getD_some]

theorem cleanEntry (f : FieldName) {names : List String} {place inner : Place} {v : Json}
    (hname : f.text ∈ names) (h : place.named? = some inner) (hv : v.Clean names inner) :
    Json.CleanEntry names place (f.text, v) := by
  refine ⟨?_, ?_⟩
  · rw [Site.Known, if_neg f.head?_text]
    exact .inr ⟨h ▸ Option.some_ne_none inner, hname⟩
  · rwa [f.under_text h]

theorem clean_reference (f : FieldName) {names : List String} {place : Place}
    (hname : f.text ∈ names) : (Json.string f.reference).Clean names place :=
  Json.clean_string fun _ => ⟨f.text, hname, rfl⟩

end FieldName

section

variable {names : List String}

theorem KeyExpr.clean_toJson {e : KeyExpr} (h : e.source.text ∈ names) :
    e.toJson.Clean names .component := by
  cases e with
  | field source => exact source.clean_reference h
  | datePart part source fromString =>
      have hpart : (part.storeOperator, .dateInput) ∈ Place.component.operators := by
        cases part <;> decide
      cases fromString with
      | false => exact Json.clean_operation hpart (source.clean_reference h)
      | true =>
          have hread : ("$dateFromString", .dateText) ∈ Place.dateInput.operators := by decide
          have htext : ("dateString", .leaf) ∈ Place.dateText.words := by decide
          refine Json.clean_operation hpart (Json.clean_operation hread ?_)
          apply Json.clean_object
          exact List.forall_mem_singleton.2
            (Json.cleanEntry_word htext (source.clean_reference h))

theorem Condition.cleanEntry (c : Condition) :
    Json.CleanEntry names .conditions (c.key, c.operand) := by
  cases c with
  | compare op v =>
      have hop : (op.storeKey, .operand) ∈ Place.conditions.operators := by cases op <;> decide
      exact Json.cleanEntry_operator hop (Json.clean_operand v)
  | typeIs t =>
      have htype : ("$type", .leaf) ∈ Place.conditions.operators := by decide
      refine Json.cleanEntry_operator htype (Json.clean_string fun hname => ?_)
      cases t <;> cases hname

theorem Filter.clean_toJson {f : Filter} (h : ∀ p ∈ f.predicates, p.field.text ∈ names) :
    f.toJson.Clean names .filter := by
  have hand : ("$and", .filter) ∈ Place.filter.operators := by decide
  have hfield (p : Predicate) (hp : p ∈ f.predicates) {entries : List (String × Json)}
      (he : ∀ e ∈ entries, Json.CleanEntry names .conditions e) :
      Json.CleanEntry names .filter (p.field.text, .object entries) :=
    p.field.cleanEntry (h p hp) rfl (Json.clean_object he)
  have hfields : ∀ e ∈ (f.predicates.filter (·.mergeable)).map fun p =>
      (p.field.text, Json.object p.merged), Json.CleanEntry names .filter e := by
    intro e he
    obtain ⟨p, hp, rfl⟩ := List.mem_map.1 he
    refine hfield p (List.mem_filter.1 hp).1 fun e he => ?_
    obtain ⟨c, -, rfl⟩ := List.mem_map.1 (Document.mem_of_mem_ofEntries he)
    exact c.cleanEntry
  have hclauses : (Json.array ((f.predicates.filter (!·.mergeable)).flatMap (·.clauses))).Clean
      names .filter := by
    apply Json.clean_array
    intro v hv
    obtain ⟨p, hp, hv⟩ := List.mem_flatMap.1 hv
    obtain ⟨c, -, rfl⟩ := List.mem_map.1 hv
    apply Json.clean_object
    refine List.forall_mem_singleton.2 (hfield p (List.mem_filter.1 hp).1 ?_)
    exact List.forall_mem_singleton.2 c.cleanEntry
  apply Json.clean_ofEntries
  split
  · exact hfields
  · exact List.forall_mem_append.2
      ⟨hfields, List.forall_mem_singleton.2 (Json.cleanEntry_operator hand hclauses)⟩

theorem Projection.clean_toJson {p : Projection} (h : ∀ f ∈ p.fields, f.text ∈ names) :
    p.toJson.Clean names .projection := by
  have hkey : (groupKey, .leaf) ∈ Place.projection.words := List.mem_singleton_self _
  apply Json.clean_ofEntries
  refine List.forall_mem_cons.2 ⟨Json.cleanEntry_word hkey (Json.clean_bool _), fun e he => ?_⟩
  obtain ⟨f, hf, rfl⟩ := List.mem_map.1 he
  exact f.cleanEntry (h f hf) rfl (Json.clean_bool _)

structure Grouping.Within (names : List String) (g : Grouping) : Prop where
  source : ∀ k ∈ g.key, k.2.source.text ∈ names
  component : ∀ k ∈ g.key, (∃ part : DatePart, k.1 = part.key) ∨
    ∃ f : FieldName, k.1 = f.text ∧ f.text ∈ names
  output : ∀ a ∈ g.accumulators, a.output.text ∈ names
  input : ∀ a ∈ g.accumulators, ∀ f, a.input = .field f → f.text ∈ names

theorem Grouping.clean_toJson {g : Grouping} (h : g.Within names) :
    g.toJson.Clean names .grouping := by
  have hword : (groupKey, .groupKey) ∈ Place.grouping.words := List.mem_singleton_self _
  have hkey : (Json.object (Document.ofEntries (g.key.map fun k => (k.1, k.2.toJson)))).Clean
      names .groupKey := by
    apply Json.clean_ofEntries
    intro e he
    obtain ⟨k, hk, rfl⟩ := List.mem_map.1 he
    have hexpr := KeyExpr.clean_toJson (h.source k hk)
    rcases h.component k hk with ⟨part, hpart⟩ | ⟨f, hf, hname⟩
    · have hmem : (part.key, .component) ∈ Place.groupKey.words := by cases part <;> decide
      exact hpart ▸ Json.cleanEntry_word hmem hexpr
    · exact hf ▸ f.cleanEntry hname rfl hexpr
  apply Json.clean_ofEntries
  refine List.forall_mem_cons.2 ⟨Json.cleanEntry_word hword hkey, fun e he => ?_⟩
  obtain ⟨a, ha, rfl⟩ := List.mem_map.1 he
  have hop : (a.op.storeKey, .leaf) ∈ Place.output.operators := by cases a.op <;> decide
  refine a.output.cleanEntry (h.output a ha) rfl (Json.clean_operation hop ?_)
  cases hinput : a.input with
  | constant n => exact Json.clean_number _
  | field f => exact f.clean_reference (h.input a ha f hinput)

theorem SortOrder.clean_toJson {s : SortOrder}
    (h : ∀ k ∈ s.keys, ∀ f, k.1 = .field f → f.text ∈ names) : s.toJson.Clean names .sorting := by
  have hkey : (groupKey, .leaf) ∈ Place.sorting.words := List.mem_singleton_self _
  apply Json.clean_ofEntries
  intro e he
  simp only [named, List.map_map, List.mem_map] at he
  obtain ⟨⟨key, direction⟩, hk, rfl⟩ := he
  cases key with
  | groupKey => exact Json.cleanEntry_word hkey (Json.clean_number _)
  | field f => exact f.cleanEntry (h _ hk f rfl) rfl (Json.clean_number _)

namespace Stage

def Within (names : List String) : Stage → Prop
  | .filter f => ∀ p ∈ f.predicates, p.field.text ∈ names
  | .project p => ∀ f ∈ p.fields, f.text ∈ names
  | .group g => g.Within names
  | .sort s => ∀ k ∈ s.keys, ∀ f, k.1 = .field f → f.text ∈ names
  | .limit _ => True

def place : Stage → Place
  | .filter _ => .filter
  | .project _ => .projection
  | .group _ => .grouping
  | .sort _ => .sorting
  | .limit _ => .leaf

theorem clean_toJson {s : Stage} (h : s.Within names) : s.toJson.Clean names .stage := by
  have hname : (s.name, s.place) ∈ Place.stage.operators := by
    cases s <;> simp [name, place, Place.operators]
  refine Json.clean_operation hname ?_
  cases s with
  | filter f => exact Filter.clean_toJson h
  | project p => exact Projection.clean_toJson h
  | group g => exact Grouping.clean_toJson h
  | sort s => exact SortOrder.clean_toJson h
  | limit n => exact Json.clean_number _

end Stage

theorem Pipeline.clean_toJson {p : Pipeline} (h : ∀ s ∈ p.stages, s.Within names) :
    p.toJson.Clean names .stage := by
  apply Json.clean_array
  intro v hv
  obtain ⟨s, hs, rfl⟩ := List.mem_map.1 hv
  exact Stage.clean_toJson (h s hs)

end

namespace Plan.Parts

variable {settings : Settings} {spec : QuerySpec} {p : Parts}

theorem timestamp_mem (hp : p.Sound settings spec) :
    p.timestamp.text ∈ spec.fieldNames settings := by
  rw [hp.timestamp_text]
  exact List.mem_cons_self

theorem dimension_mem (hp : p.Sound settings spec) {f : FieldName} (hf : f ∈ p.dimensions) :
    f.text ∈ spec.fieldNames settings := by
  have hmem : f.text ∈ p.dimensions.map (·.text) := List.mem_map_of_mem hf
  rw [hp.dimensions_text, List.mem_eraseDups] at hmem
  exact List.mem_cons_of_mem _ (List.mem_append_left _ hmem)

theorem output_mem (hp : p.Sound settings spec) {o : Output} (ho : o ∈ p.outputs) :
    o.field.text ∈ spec.fieldNames settings := by
  have hmem : o.field.text ∈ p.outputs.map (·.field.text) := List.mem_map_of_mem ho
  rw [QuerySpec.outputs_text hp] at hmem
  exact List.mem_cons_of_mem _ (List.mem_append_right _ hmem)

theorem within_filter (hp : p.Sound settings spec) (e : DateEncoding) :
    ∀ q ∈ (p.filter e).predicates, q.field.text ∈ spec.fieldNames settings := by
  intro q hq
  obtain ⟨c, cs, hconditions⟩ := List.exists_cons_of_ne_nil ((p.gathered_filter e).filled q hq)
  have hmem : (q.field, c) ∈ (p.filter e).conditions := by
    refine List.mem_flatMap.2 ⟨q, hq, List.mem_map_of_mem ?_⟩
    rw [hconditions]
    exact List.mem_cons_self
  rw [filter, (conditions_pushAll _ _).mem_iff, List.mem_append] at hmem
  rcases hmem with hmem | hmem
  · obtain ⟨x, hx, hfield⟩ := hp.conditions_field _ hmem
    rw [show q.field.text = x.field from hfield]
    exact List.mem_cons_of_mem _ (List.mem_append_left _ (List.mem_map_of_mem hx))
  · rw [Filter.timeWindow_eq] at hmem
    obtain ⟨_, hq, hc⟩ := List.mem_flatMap.1 hmem
    obtain ⟨_, -, he⟩ := List.mem_map.1 hc
    rw [← (Prod.mk.inj he).1, List.mem_singleton.1 hq]
    exact timestamp_mem hp

theorem within_projection (hp : p.Sound settings spec) :
    ∀ f ∈ (projection spec.granularity p.timestamp p.dimensions p.outputs).fields,
      f.text ∈ spec.fieldNames settings := by
  intro f hf
  rcases mem_projection.1 hf with ⟨-, rfl⟩ | hdim | ⟨o, ho, -, rfl⟩
  · exact timestamp_mem hp
  · exact dimension_mem hp hdim
  · exact output_mem hp ho

theorem within_grouping (hp : p.Sound settings spec) (e : DateEncoding) :
    (grouping spec.granularity p.timestamp e p.dimensions p.outputs).Within
      (spec.fieldNames settings) := by
  have hkey : ∀ k ∈ (grouping spec.granularity p.timestamp e p.dimensions p.outputs).key,
      (∃ part : DatePart, k = (part.key, .datePart part p.timestamp (e == .string))) ∨
        ∃ f ∈ p.dimensions, k = (f.text, .field f) := by
    intro k hk
    rcases List.mem_append.1 hk with hk | hk
    · obtain ⟨part, -, rfl⟩ := List.mem_map.1 hk
      exact .inl ⟨part, rfl⟩
    · obtain ⟨f, hf, rfl⟩ := List.mem_map.1 hk
      exact .inr ⟨f, hf, rfl⟩
  refine ⟨fun k hk => ?_, fun k hk => ?_, fun a ha => ?_, fun a ha f hinput => ?_⟩
  · rcases hkey k hk with ⟨part, rfl⟩ | ⟨f, hf, rfl⟩
    · exact timestamp_mem hp
    · exact dimension_mem hp hf
  · rcases hkey k hk with ⟨part, rfl⟩ | ⟨f, hf, rfl⟩
    · exact .inl ⟨part, rfl⟩
    · exact .inr ⟨f, rfl, dimension_mem hp hf⟩
  · obtain ⟨o, ho, rfl⟩ := List.mem_map.1 ha
    rw [o.output_accumulator]
    exact output_mem hp ho
  · obtain ⟨o, ho, rfl⟩ := List.mem_map.1 ha
    rw [Output.accumulator] at hinput
    split at hinput
    · cases hinput
    · cases hinput
      exact output_mem hp ho

theorem within_sorting (hp : p.Sound settings spec) :
    ∀ k ∈ (p.sorting spec).keys, ∀ f, k.1 = .field f → f.text ∈ spec.fieldNames settings := by
  intro k hk f hf
  rw [sorting, sortOrder] at hk
  split at hk
  · rw [List.mem_singleton.1 hk] at hf
    cases hf
  · obtain ⟨⟨m, o⟩, hmo, hsort⟩ := List.mem_filterMap.1 hk
    obtain ⟨direction, -, rfl⟩ := Option.map_eq_some_iff.1 hsort
    cases hf
    exact output_mem hp (List.of_mem_zip hmo).2

theorem within_stages (hp : p.Sound settings spec) (e : DateEncoding) :
    ∀ s ∈ (p.plan spec e).pipeline.stages, s.Within (spec.fieldNames settings) := by
  have hsorting : ∀ s ∈ (if (p.sorting spec).keys.isEmpty then [] else [.sort (p.sorting spec)] :
      List Stage), s.Within (spec.fieldNames settings) := by
    split
    · exact nofun
    · exact List.forall_mem_singleton.2 (within_sorting hp)
  have hlimit : ∀ s ∈ limitStage spec.limit, s.Within (spec.fieldNames settings) := by
    unfold limitStage
    split
    · split <;> simp [Stage.Within]
    · exact nofun
  intro s hs
  simp only [plan, List.mem_append, List.mem_cons, List.not_mem_nil, or_false] at hs
  rcases hs with ((rfl | rfl | rfl) | hs) | hs
  · exact within_filter hp e
  · exact within_projection hp
  · exact within_grouping hp e
  · exact hsorting s hs
  · exact hlimit s hs

end Plan.Parts

namespace Json.StandsAt

variable {v w : Json} {key : String} {path : List String}

theorem of_mem {entries : List (String × Json)} (hnodup : (Document.keys entries).Nodup)
    (hmem : (key, w) ∈ entries) (h : StandsAt v path w) :
    StandsAt v (key :: path) (.object entries) :=
  .entry (Document.get?_of_mem hnodup hmem) h

theorem only (h : StandsAt v path w) : StandsAt v (key :: path) (.object [(key, w)]) :=
  .entry (if_pos rfl) h

end Json.StandsAt

/-- What a filter states stands in its rendering, under the name and the operator it is stated for. A
field whose operators repeat has its conditions in the conjunction. -/
theorem Filter.standsAt_of_stated {f : Filter} (h : f.Gathered) {s : Statement} (hs : s ∈ f.stated) :
    ∃ path ∈ [[s.1, s.2.key], ["$and", s.1, s.2.key]], s.2.operand.StandsAt path f.toJson := by
  simp only [stated, conditions, List.mem_map, List.mem_flatMap] at hs
  obtain ⟨_, ⟨p, hp, c, hc, rfl⟩, rfl⟩ := hs
  have hrendered := toJson_eq h
  cases hmergeable : p.mergeable with
  | true =>
      have hmerged := p.merged_eq hmergeable
      have hcondition : c.operand.StandsAt [c.key] (.object p.merged) := by
        refine .of_mem (Document.nodup_ofEntries _) ?_ .here
        rw [hmerged]
        exact List.mem_map.2 ⟨c, hc, rfl⟩
      refine ⟨_, List.mem_cons_self, ?_⟩
      rw [hrendered]
      refine .of_mem (Json.object.inj hrendered ▸ Document.nodup_ofEntries _) ?_ hcondition
      exact List.mem_append_left _ (List.mem_map.2 ⟨p, List.mem_filter.2 ⟨hp, hmergeable⟩, rfl⟩)
  | false =>
      have hclause : Json.object [(p.field.text, .object [(c.key, c.operand)])] ∈
          (f.predicates.filter (!·.mergeable)).flatMap (·.clauses) := by
        refine List.mem_flatMap.2 ⟨p, List.mem_filter.2 ⟨hp, ?_⟩, List.mem_map.2 ⟨c, hc, rfl⟩⟩
        rw [hmergeable, Bool.not_false]
      refine ⟨_, List.mem_cons_of_mem _ List.mem_cons_self, ?_⟩
      rw [hrendered]
      refine .of_mem (Json.object.inj hrendered ▸ Document.nodup_ofEntries _) ?_
        (.item hclause (.only (.only .here)))
      rw [if_neg (List.ne_nil_of_mem hclause)]
      exact List.mem_append_right _ List.mem_cons_self

namespace Plan

theorem standsAt_operand {settings : Settings} {presets : List Preset} {spec : QuerySpec}
    {now : Instant} {p : Parts} (h : parts settings presets spec now = .ok p) {d : Dimension}
    (hd : d ∈ spec.dimensions) {op : FilterOperator} (hop : d.op = some op) {v : Json}
    (hv : d.value = some v) :
    ∃ path ∈ [["$match", d.field, op.storeKey], ["$match", "$and", d.field, op.storeKey]],
      v.StandsAt path (p.plan spec settings.encoding).pipeline.toJson := by
  have hstated : (d.field, Condition.compare op v) ∈ (p.filter settings.encoding).stated := by
    rw [(Parts.stated_filter h).mem_iff]
    refine List.mem_append_right _ (List.mem_filterMap.2 ⟨d, hd, ?_⟩)
    rw [Dimension.statement?, hop, hv]
    rfl
  obtain ⟨path, hpath, hholds⟩ := Filter.standsAt_of_stated (p.gathered_filter _) hstated
  have hfilter : v.StandsAt ("$match" :: path) (p.plan spec settings.encoding).pipeline.toJson :=
    .item List.mem_cons_self (.only hholds)
  exact ⟨_, by simpa [Condition.key] using hpath, hfilter⟩

/-- No name of a query is taken for an operator or a path, wherever it is used, and an operand never
leaves its place. -/
theorem compile_vocabulary {settings : Settings} {presets : List Preset} {spec : QuerySpec}
    {now : Instant} {plan : Plan} (h : compile settings presets spec now = .ok plan) :
    (∀ site ∈ plan.pipeline.toJson.sites .stage, site.Known (spec.fieldNames settings)) ∧
      (∀ name ∈ spec.fieldNames settings, FieldName.Valid name) ∧
      ∀ d ∈ spec.dimensions, ∀ op v, d.op = some op → d.value = some v →
        ∃ path ∈ [["$match", d.field, op.storeKey], ["$match", "$and", d.field, op.storeKey]],
          v.StandsAt path plan.pipeline.toJson := by
  have hnames := ((compile_decided settings presets spec now).1.1 ⟨plan, h⟩).1
  obtain ⟨p, hp, rfl⟩ := parts_of_compile h
  refine ⟨Pipeline.clean_toJson (Parts.within_stages (parts_sound hp) _), hnames.valid, ?_⟩
  exact fun d hd op v hop hv => standsAt_operand hp hd hop hv

/-- Operands that read as operators and as references, one of them under an operator that repeats, and
names that read like words of the pipeline. -/
def hostile : QuerySpec where
  ns := "events"
  range := none
  dimensions := [⟨"year of $match", some .eq, some (.object [("$where", .string "$ts")])⟩,
    ⟨"dateString", some .ne, some (.string "$region")⟩, ⟨"dateString", some .ne, some .null⟩]
  measures := [⟨"count", none, none⟩, ⟨"sum", some .max, none⟩]
  granularity := .day
  limit := some 5
  timestampField := some "seen at"
  debug := false

theorem compile_vocabulary_hostile :
    ∃ plan, compile { Settings.standard with datesAsStrings := true } [] hostile .epoch = .ok plan ∧
      Site.key .conditions "$ne" ∈ plan.pipeline.toJson.sites .stage ∧
      Site.text "$seen at" ∈ plan.pipeline.toJson.sites .stage ∧
      Site.text "$region" ∉ plan.pipeline.toJson.sites .stage ∧
      (∀ site ∈ plan.pipeline.toJson.sites .stage,
        site.Known ["seen at", "year of $match", "dateString", "dateString", "count", "sum"]) ∧
      ∃ path ∈ [["$match", "dateString", "$ne"], ["$match", "$and", "dateString", "$ne"]],
        (Json.string "$region").StandsAt path plan.pipeline.toJson := by
  have hcompiled : (compile { Settings.standard with datesAsStrings := true } [] hostile
      .epoch).toOption.map (fun plan =>
        let sites := plan.pipeline.toJson.sites .stage
        (decide (Site.key .conditions "$ne" ∈ sites), decide (Site.text "$seen at" ∈ sites),
          decide (Site.text "$region" ∈ sites))) = some (true, true, false) := by
    decide +kernel
  obtain ⟨plan, hplan, htold⟩ := eq_ok_of_toOption hcompiled
  simp only [Prod.mk.injEq, decide_eq_true_eq, decide_eq_false_iff_not] at htold
  obtain ⟨hkey, htext, hoperand⟩ := htold
  obtain ⟨hknown, -, hoperands⟩ := compile_vocabulary hplan
  exact ⟨plan, hplan, hkey, htext, hoperand, hknown,
    hoperands ⟨"dateString", some .ne, some (.string "$region")⟩ (by decide) .ne _ rfl rfl⟩

end Plan

end EventRollup
