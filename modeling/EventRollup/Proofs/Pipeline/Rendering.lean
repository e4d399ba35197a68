import EventRollup.Proofs.Pipeline.Reading

namespace EventRollup

theorem FieldName.reference_injective {f g : FieldName} (h : f.reference = g.reference) : f = g :=
  text_injective (String.append_right_inj "$" |>.1 h)

theorem DatePart.storeOperator_injective {a b : DatePart} (h : a.storeOperator = b.storeOperator) :
    a = b := by
  revert h
  cases a <;> cases b <;> decide

theorem AggregateOperator.storeKey_injective {a b : AggregateOperator}
    (h : a.storeKey = b.storeKey) : a = b := by
  revert h
  cases a <;> cases b <;> decide

theorem SortDirection.sign_injective {a b : SortDirection} (h : a.sign = b.sign) : a = b := by
  revert h
  cases a <;> cases b <;> decide

theorem KeyExpr.toJson_injective {e f : KeyExpr} (h : e.toJson = f.toJson) : e = f := by
  cases e with
  | field source =>
      cases f with
      | field source' =>
          simp only [toJson, Json.string.injEq] at h
          rw [FieldName.reference_injective h]
      | datePart part source' fromString => cases fromString <;> cases h
  | datePart part source fromString =>
      cases f with
      | field source' => cases fromString <;> cases h
      | datePart part' source' fromString' =>
          cases fromString <;> cases fromString' <;> simp [toJson] at h
          all_goals
            rw [DatePart.storeOperator_injective h.1, FieldName.reference_injective h.2]

theorem AccumulatorInput.toJson_injective {a b : AccumulatorInput} (h : a.toJson = b.toJson) :
    a = b := by
  cases a <;> cases b <;> simp [toJson, Json.int] at h
  · rw [h]
  · rw [FieldName.reference_injective h]

/-- The entry of the grouping key stands before those of fields, which it never meets. -/
theorem Document.ofEntries_groupKey {α : Type} (field : α → FieldName) {l : List α}
    (h : (l.map field).Nodup) (key : Json) (value : α → Json) :
    Document.ofEntries ((groupKey, key) :: l.map fun a => ((field a).text, value a)) =
      (groupKey, key) :: l.map fun a => ((field a).text, value a) := by
  apply ofEntries_of_nodup
  rw [List.map_cons, List.nodup_cons, List.map_map]
  refine ⟨?_, FieldName.nodup_texts h⟩
  intro hmem
  obtain ⟨a, -, ha⟩ := List.mem_map.1 hmem
  exact (field a).text_ne_groupKey ha

namespace Projection

theorem toJson_eq {p : Projection} (h : p.fields.Nodup) :
    p.toJson = .object ((groupKey, .bool false) :: p.fields.map fun f => (f.text, .bool true)) := by
  have hfields : (p.fields.map fun f => f).Nodup := by simpa using h
  rw [toJson, Document.ofEntries_groupKey (fun f => f) hfields]

theorem toJson_injective {p q : Projection} (hp : p.fields.Nodup) (hq : q.fields.Nodup)
    (h : p.toJson = q.toJson) : p = q := by
  rw [toJson_eq hp, toJson_eq hq, Json.object.injEq, List.cons.injEq] at h
  obtain ⟨fields⟩ := p
  obtain ⟨fields'⟩ := q
  congr 1
  refine (List.map_inj_right ?_).1 h.2
  intro f g he
  exact FieldName.text_injective (Prod.mk.inj he).1

theorem nodup_keep {p : Projection} (h : p.fields.Nodup) (field : FieldName) :
    (p.keep field).fields.Nodup := by
  unfold keep
  split
  · exact h
  · rename_i hnew
    exact nodup_concat h hnew

theorem nodup_foldl_keep {p : Projection} (h : p.fields.Nodup) (fields : List FieldName) :
    (fields.foldl keep p).fields.Nodup := by
  induction fields generalizing p with
  | nil => exact h
  | cons f r ih => exact ih (nodup_keep h f)

end Projection

namespace Grouping

/-- Neither the components of the key nor the outputs repeat a name. -/
structure Distinct (g : Grouping) : Prop where
  key : (g.key.map Prod.fst).Nodup
  outputs : (g.accumulators.map (·.output)).Nodup

theorem toJson_eq {g : Grouping} (h : g.Distinct) :
    g.toJson = .object ((groupKey, .object (g.key.map fun k => (k.1, k.2.toJson))) ::
      g.accumulators.map fun a =>
        (a.output.text, .object [(a.op.storeKey, a.input.toJson)])) := by
  have hkey : ((g.key.map fun k => (k.1, k.2.toJson)).map Prod.fst).Nodup := by
    rw [List.map_map]
    exact h.key
  rw [toJson, Document.ofEntries_of_nodup hkey, Document.ofEntries_groupKey Accumulator.output h.outputs]

theorem toJson_injective {g k : Grouping} (hg : g.Distinct) (hk : k.Distinct)
    (h : g.toJson = k.toJson) : g = k := by
  rw [toJson_eq hg, toJson_eq hk, Json.object.injEq, List.cons.injEq] at h
  obtain ⟨hkey, houtputs⟩ := h
  obtain ⟨key, accumulators⟩ := g
  obtain ⟨key', accumulators'⟩ := k
  congr 1
  · refine (List.map_inj_right ?_).1 (Json.object.inj (Prod.mk.inj hkey).2)
    intro e f he
    obtain ⟨hname, hexpr⟩ := Prod.mk.inj he
    exact Prod.ext hname (KeyExpr.toJson_injective hexpr)
  · refine (List.map_inj_right ?_).1 houtputs
    intro a b he
    obtain ⟨output, op, input⟩ := a
    obtain ⟨output', op', input'⟩ := b
    simp only [Prod.mk.injEq, Json.object.injEq, List.cons.injEq, and_true] at he
    obtain ⟨houtput, hop, hinput⟩ := he
    rw [FieldName.text_injective houtput, AggregateOperator.storeKey_injective hop,
      AccumulatorInput.toJson_injective hinput]

end Grouping

theorem SortKey.text_injective {a b : SortKey} (h : a.text = b.text) : a = b := by
  cases a with
  | groupKey =>
      cases b with
      | groupKey => rfl
      | field name => exact absurd h.symm name.text_ne_groupKey
  | field name =>
      cases b with
      | groupKey => exact absurd h name.text_ne_groupKey
      | field name' => rw [FieldName.text_injective h]

namespace SortOrder

theorem toJson_eq {s : SortOrder} (h : (s.named.map Prod.fst).Nodup) :
    s.toJson = .object (s.keys.map fun k => (k.1.text, .int k.2.sign)) := by
  have hnames : ((s.named.map fun k => (k.1, Json.int k.2.sign)).map Prod.fst).Nodup := by
    rw [List.map_map]
    exact h
  rw [toJson, document, Document.ofEntries_of_nodup hnames, named, List.map_map]
  rfl

theorem toJson_injective {s t : SortOrder} (hs : (s.named.map Prod.fst).Nodup)
    (ht : (t.named.map Prod.fst).Nodup) (h : s.toJson = t.toJson) : s = t := by
  rw [toJson_eq hs, toJson_eq ht, Json.object.injEq] at h
  obtain ⟨keys⟩ := s
  obtain ⟨keys'⟩ := t
  congr 1
  refine (List.map_inj_right ?_).1 h
  intro a b he
  obtain ⟨hkey, hsign⟩ := Prod.mk.inj he
  simp only [Json.int, Json.number.injEq, Number.int.injEq] at hsign
  exact Prod.ext (SortKey.text_injective hkey) (SortDirection.sign_injective hsign)

end SortOrder

namespace Filter

theorem stated_cons (p : Predicate) (r : List Predicate) :
    stated ⟨p :: r⟩ = p.conditions.map (fun c => (p.field.text, c)) ++ stated ⟨r⟩ := by
  simp [stated, conditions]

theorem Gathered.tail {p : Predicate} {r : List Predicate} (h : Gathered ⟨p :: r⟩) :
    Gathered ⟨r⟩ :=
  ⟨(List.nodup_cons.1 h.nodup).2, (List.forall_mem_cons.1 h.filled).2⟩

theorem Gathered.perm {f g : Filter} (h : f.Gathered) (hperm : f.predicates.Perm g.predicates) :
    g.Gathered :=
  ⟨(hperm.map _).nodup_iff.1 h.nodup, fun p hp => h.filled p (hperm.mem_iff.2 hp)⟩

theorem filter_stated_cons {p : Predicate} {r : List Predicate} (h : Gathered ⟨p :: r⟩) :
    (stated ⟨p :: r⟩).filter (fun s => s.1 = p.field.text) =
      p.conditions.map fun c => (p.field.text, c) := by
  have hrest : (stated ⟨r⟩).filter (fun s => s.1 = p.field.text) = [] := by
    rw [List.filter_eq_nil_iff]
    intro s hs he
    simp only [stated, conditions, List.mem_map, List.mem_flatMap] at hs
    obtain ⟨_, ⟨q, hq, c, -, rfl⟩, rfl⟩ := hs
    have hfield : q.field = p.field := FieldName.text_injective (of_decide_eq_true he)
    exact (List.nodup_cons.1 h.nodup).1 (List.mem_map.2 ⟨q, hq, hfield⟩)
  rw [stated_cons, List.filter_append, hrest, List.append_nil, List.filter_eq_self]
  intro s hs
  obtain ⟨c, -, rfl⟩ := List.mem_map.1 hs
  exact decide_eq_true rfl

theorem head?_stated {p : Predicate} {r : List Predicate} (h : Gathered ⟨p :: r⟩) :
    (stated ⟨p :: r⟩).head?.map Prod.fst = some p.field.text := by
  obtain ⟨c, cs, hconditions⟩ := List.exists_cons_of_ne_nil (h.filled p List.mem_cons_self)
  rw [stated_cons, hconditions]
  rfl

/-- A filter is told by what it states, in the order of its predicates. -/
theorem eq_of_stated {f g : Filter} (hf : f.Gathered) (hg : g.Gathered) (h : f.stated = g.stated) :
    f = g := by
  obtain ⟨ps⟩ := f
  obtain ⟨qs⟩ := g
  congr 1
  induction ps generalizing qs with
  | nil =>
      cases qs with
      | nil => rfl
      | cons q s =>
          have hhead := head?_stated hg
          rw [← h] at hhead
          cases hhead
  | cons p r ih =>
      have hhead := head?_stated hf
      rw [h] at hhead
      cases qs with
      | nil => cases hhead
      | cons q s =>
          have hfield : p.field = q.field := by
            rw [head?_stated hg] at hhead
            exact (FieldName.text_injective (Option.some.inj hhead)).symm
          -- no later predicate is on this field, so its conditions are all that is stated of it
          have hconditions : p.conditions = q.conditions := by
            have hon := congrArg (List.filter fun s => s.1 = p.field.text) h
            rw [filter_stated_cons hf, hfield, filter_stated_cons hg] at hon
            exact (List.map_inj_right fun _ _ he => (Prod.mk.inj he).2).1 hon
          rw [stated_cons, stated_cons, hfield, hconditions] at h
          obtain ⟨field, conditions⟩ := p
          cases hfield
          cases hconditions
          rw [ih hf.tail s hg.tail (List.append_cancel_left h)]

/-- What is rendered does not tell the order of predicates, but all that is in each. -/
theorem perm_of_toJson {f g : Filter} (hf : f.Gathered) (hg : g.Gathered)
    (h : f.toJson = g.toJson) : f.predicates.Perm g.predicates := by
  have hread := read_toJson hf
  rw [h, read_toJson hg] at hread
  have hsame : g.regrouped = f.regrouped := eq_of_stated (hg.perm g.regrouped_perm.symm)
    (hf.perm f.regrouped_perm.symm) (Option.some.inj hread)
  have hperm := g.regrouped_perm
  rw [hsame] at hperm
  exact f.regrouped_perm.symm.trans hperm

end Filter

namespace Stage

def Distinct : Stage → Prop
  | .filter f => f.Gathered
  | .project p => p.fields.Nodup
  | .group g => g.Distinct
  | .sort s => (s.named.map Prod.fst).Nodup
  | .limit _ => True

/-- Equal, but for the order of the predicates of a filter. -/
def Same : Stage → Stage → Prop
  | .filter f, .filter g => f.predicates.Perm g.predicates
  | s, t => s = t

theorem name_of_toJson {s t : Stage} (h : s.toJson = t.toJson) :
    s.name = t.name ∧ s.body = t.body := by
  simpa [toJson] using h

theorem same_of_toJson {s t : Stage} (hs : s.Distinct) (ht : t.Distinct)
    (h : s.toJson = t.toJson) : s.Same t := by
  obtain ⟨hname, hbody⟩ := name_of_toJson h
  cases s with
  | filter f =>
      cases t with
      | filter g => exact Filter.perm_of_toJson hs ht hbody
      | _ => simp [name] at hname
  | project p =>
      cases t with
      | project q => exact congrArg Stage.project (Projection.toJson_injective hs ht hbody)
      | _ => simp [name] at hname
  | group g =>
      cases t with
      | group k => exact congrArg Stage.group (Grouping.toJson_injective hs ht hbody)
      | _ => simp [name] at hname
  | sort s =>
      cases t with
      | sort t => exact congrArg Stage.sort (SortOrder.toJson_injective hs ht hbody)
      | _ => simp [name] at hname
  | limit n =>
      cases t with
      | limit m =>
          simp only [body, Json.nat, Json.number.injEq, Number.int.injEq] at hbody
          exact congrArg Stage.limit (Int.ofNat.inj hbody)
      | _ => simp [name] at hname

end Stage

/-- A pipeline in whose stages no name repeats is told by its rendering. -/
theorem Pipeline.same_of_toJson {p q : Pipeline} (hp : ∀ s ∈ p.stages, s.Distinct)
    (hq : ∀ s ∈ q.stages, s.Distinct) (h : p.toJson = q.toJson) :
    List.Forall₂ Stage.Same p.stages q.stages := by
  rw [toJson, toJson, Json.array.injEq] at h
  obtain ⟨ss⟩ := p
  obtain ⟨ts⟩ := q
  induction ss generalizing ts with
  | nil =>
      cases ts with
      | nil => exact .nil
      | cons t r => cases h
  | cons s r ih =>
      cases ts with
      | nil => cases h
      | cons t r' =>
          obtain ⟨hhead, hrest⟩ := List.cons.inj h
          obtain ⟨hs, hr⟩ := List.forall_mem_cons.1 hp
          obtain ⟨ht, hr'⟩ := List.forall_mem_cons.1 hq
          exact .cons (Stage.same_of_toJson hs ht hhead) (ih hr r' hr' hrest)

namespace Plan

namespace Parts

variable {settings : Settings} {spec : QuerySpec} {p : Parts}

theorem distinct_grouping (hp : p.Sound settings spec) (e : DateEncoding) :
    (grouping spec.granularity p.timestamp e p.dimensions p.outputs).Distinct := by
  constructor
  · rw [grouping, List.map_append, List.map_map, List.map_map]
    exact QuerySpec.nodup_names hp
  · have houtputs : (p.outputs.map (·.accumulator)).map (·.output) = p.outputs.map (·.field) := by
      rw [List.map_map]
      exact List.map_congr_left fun o _ => Output.output_accumulator o
    exact houtputs ▸ hp.outputs_nodup

theorem distinct_sorting (hp : p.Sound settings spec) :
    ((p.sorting spec).named.map Prod.fst).Nodup := by
  cases hg : spec.granularity.isBinned with
  | true => simp [sorting, sortOrder, hg, SortOrder.named]
  | false =>
      rw [QuerySpec.named_sorting hp hg]
      apply List.Nodup.sublist spec.names_sortedBy
      rw [← QuerySpec.outputs_text hp]
      exact FieldName.nodup_texts hp.outputs_nodup

theorem distinct_stages (hp : p.Sound settings spec) (e : DateEncoding) :
    ∀ s ∈ (p.plan spec e).pipeline.stages, s.Distinct := by
  have hsorting : ∀ s ∈ (if (p.sorting spec).keys.isEmpty then [] else [.sort (p.sorting spec)] :
      List Stage), s.Distinct := by
    split
    · exact nofun
    · simpa [Stage.Distinct] using distinct_sorting hp
  have hlimit : ∀ s ∈ limitStage spec.limit, s.Distinct := by
    unfold limitStage
    split
    · split <;> simp [Stage.Distinct]
    · exact nofun
  have hprojection : (projection spec.granularity p.timestamp p.dimensions p.outputs).fields.Nodup :=
    Projection.nodup_foldl_keep List.nodup_nil _
  intro s hs
  simp only [plan, List.mem_append, List.mem_cons, List.not_mem_nil, or_false] at hs
  rcases hs with ((rfl | rfl | rfl) | hs) | hs
  · exact p.gathered_filter e
  · exact hprojection
  · exact distinct_grouping hp e
  · exact hsorting s hs
  · exact hlimit s hs

end Parts

/-- Two compiled pipelines that are rendered alike have the same stages, but for the order of the
predicates in a filter. -/
theorem stages_of_toJson {settings settings' : Settings} {presets presets' : List Preset}
    {spec spec' : QuerySpec} {now now' : Instant} {plan plan' : Plan}
    (h : compile settings presets spec now = .ok plan)
    (h' : compile settings' presets' spec' now' = .ok plan')
    (hjson : plan.pipeline.toJson = plan'.pipeline.toJson) :
    List.Forall₂ Stage.Same plan.pipeline.stages plan'.pipeline.stages := by
  obtain ⟨p, hp, rfl⟩ := parts_of_compile h
  obtain ⟨q, hq, rfl⟩ := parts_of_compile h'
  exact Pipeline.same_of_toJson (Parts.distinct_stages (parts_sound hp) _)
    (Parts.distinct_stages (parts_sound hq) _) hjson

def boundedLevels (dimensions : List Dimension) : QuerySpec where
  ns := "events"
  range := none
  dimensions
  measures := [⟨"count", none, none⟩, ⟨"load", some .max, some .descending⟩]
  granularity := .all
  limit := some 5
  timestampField := none
  debug := false

def inRegion : Dimension := ⟨"region", some .eq, some (.string "eu")⟩

def above (n : Int) : Dimension := ⟨"level", some .gt, some (.int n)⟩

def regionFirst : QuerySpec := boundedLevels [⟨"level", none, none⟩, inRegion, above 1, above 3]

def regionBetween : QuerySpec := boundedLevels [above 1, inRegion, above 3]

theorem stages_of_toJson_bounds :
    ∃ plan plan', compile .standard [] regionFirst .epoch = .ok plan ∧
      compile .standard [] regionBetween .epoch = .ok plan' ∧
      plan.pipeline.toJson = plan'.pipeline.toJson ∧ plan.pipeline ≠ plan'.pipeline ∧
      List.Forall₂ Stage.Same plan.pipeline.stages plan'.pipeline.stages := by
  have hcompiled : (compile .standard [] regionFirst .epoch).toOption.map (fun plan =>
      (compile .standard [] regionBetween .epoch).toOption.map fun plan' =>
        (decide (plan.pipeline.toJson = plan'.pipeline.toJson),
          decide (plan.pipeline = plan'.pipeline))) = some (some (true, false)) := by
    decide +kernel
  obtain ⟨plan, hplan, hsecond⟩ := eq_ok_of_toOption hcompiled
  obtain ⟨plan', hplan', htold⟩ := eq_ok_of_toOption hsecond
  obtain ⟨hjson, hdiffer⟩ := Prod.mk.inj htold
  have hrendered := of_decide_eq_true hjson
  exact ⟨plan, plan', hplan, hplan', hrendered, of_decide_eq_false hdiffer,
    stages_of_toJson hplan hplan' hrendered⟩

end Plan

end EventRollup
