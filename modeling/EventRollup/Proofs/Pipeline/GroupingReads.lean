import EventRollup.Proofs.Pipeline.Parts
import EventRollup.Proofs.Store.Documents
import Mathlib.Logic.Basic

namespace EventRollup

theorem KeyExpr.ofDocument_agreeing {e : KeyExpr} {d d' : Document}
    (h : d'.get? e.source.text = d.get? e.source.text) : e.ofDocument d' = e.ofDocument d := by
  cases e with
  | datePart part source fromString =>
      rw [KeyExpr.source] at h
      rw [ofDocument, ofDocument, h]
  | field source => exact congrArg Except.ok h

namespace AccumulatorInput

def source? : AccumulatorInput → Option FieldName
  | .constant _ => none
  | .field source => some source

theorem ofDocument_agreeing {input : AccumulatorInput} {d d' : Document}
    (h : ∀ f, input.source? = some f → d'.get? f.text = d.get? f.text) :
    input.ofDocument d' = input.ofDocument d := by
  cases input with
  | constant n => rfl
  | field source => exact h source rfl

end AccumulatorInput

namespace Grouping

def reads (g : Grouping) : List FieldName :=
  g.key.map (fun k => k.2.source) ++ g.accumulators.filterMap fun a => a.input.source?

/-- Documents that a grouping does not tell apart. -/
structure Alike (g : Grouping) (d d' : Document) : Prop where
  components : ∀ k ∈ g.key, k.2.ofDocument d' = k.2.ofDocument d
  inputs : ∀ a ∈ g.accumulators, a.input.ofDocument d' = a.input.ofDocument d

variable {g : Grouping} {d d' : Document}

theorem alike_of_reads (h : ∀ f ∈ g.reads, d'.get? f.text = d.get? f.text) : g.Alike d d' where
  components := by
    intro k hk
    apply KeyExpr.ofDocument_agreeing
    exact h _ (List.mem_append_left _ (List.mem_map_of_mem hk))
  inputs := by
    intro a ha
    apply AccumulatorInput.ofDocument_agreeing
    intro f hf
    exact h f (List.mem_append_right _ (List.mem_filterMap.2 ⟨a, ha, hf⟩))

theorem keyFrom_agreeing {l : List (String × KeyExpr)}
    (h : ∀ k ∈ l, k.2.ofDocument d' = k.2.ofDocument d) (key : Document) :
    keyFrom d' l key = keyFrom d l key := by
  induction l generalizing key with
  | nil => rfl
  | cons k r ih =>
      obtain ⟨hk, hr⟩ := List.forall_mem_cons.1 h
      rw [keyFrom, keyFrom, hk]
      simp only [ih hr]

theorem Alike.keyOf_eq (h : g.Alike d d') : g.keyOf d' = g.keyOf d :=
  keyFrom_agreeing h.components []

theorem Alike.feed_eq (h : g.Alike d d') (b : Bucket) :
    b.feed g.accumulators d' = b.feed g.accumulators d := by
  have hinputs := h.inputs
  rw [Bucket.feed, Bucket.feed]
  congr 1
  generalize b.tallies = tallies
  generalize g.accumulators = accumulators at hinputs
  induction accumulators generalizing tallies with
  | nil => rfl
  | cons a r ih =>
      obtain ⟨ha, hr⟩ := List.forall_mem_cons.1 hinputs
      cases tallies with
      | nil => rfl
      | cons t ts => rw [List.zipWith_cons_cons, List.zipWith_cons_cons, ha, ih ts hr]

theorem Alike.addTo_eq (h : g.Alike d d') (fresh : Bucket) (buckets : List Bucket) :
    g.addTo fresh d' buckets = g.addTo fresh d buckets := by
  induction buckets with
  | nil => rw [addTo, addTo, h.feed_eq]
  | cons b r ih => rw [addTo, addTo, h.feed_eq, ih]

/-- Grouping looks at nothing but the components of the key and the inputs: documents may be replaced
one by one by others that have the same ones. -/
theorem run_alike {α : Type} {view view' : α → Document} {l : List α}
    (h : ∀ a ∈ l, g.Alike (view a) (view' a)) : g.run (l.map view') = g.run (l.map view) := by
  have hgather (buckets : List Bucket) : g.gather buckets (l.map view') =
      g.gather buckets (l.map view) := by
    induction l generalizing buckets with
    | nil => rfl
    | cons a r ih =>
        obtain ⟨ha, hr⟩ := List.forall_mem_cons.1 h
        rw [List.map_cons, List.map_cons, gather, gather, ha.keyOf_eq]
        simp only [ha.addTo_eq, ih hr]
  rw [run, run, hgather]

theorem run_projected {p : Projection} (h : ∀ f ∈ g.reads, f ∈ p.fields) {docs : List Document}
    (hdocs : ∀ d ∈ docs, d.keys.Nodup) : g.run (docs.map p.apply) = g.run docs := by
  have hrun : g.run (docs.map p.apply) = g.run (docs.map id) := by
    apply run_alike
    intro d hd
    apply alike_of_reads
    intro f hf
    rw [Projection.get?_apply (hdocs d hd), if_pos (FieldName.mem_texts.2 (h f hf))]
    rfl
  rw [hrun, List.map_id]

end Grouping

namespace Plan

theorem mem_projection {g : Granularity} {timestamp : FieldName} {dims : List FieldName}
    {outs : List Output} {f : FieldName} :
    f ∈ (projection g timestamp dims outs).fields ↔
      (g.isBinned = true ∧ f = timestamp) ∨ f ∈ dims ∨
        ∃ o ∈ outs, o.counts = false ∧ o.field = f := by
  rw [projection, Projection.mem_foldl_keep]
  cases g.isBinned <;> simp [Projection.empty, and_assoc]

theorem mem_reads_grouping {g : Granularity} {timestamp : FieldName} {e : DateEncoding}
    {dims : List FieldName} {outs : List Output} {f : FieldName} :
    f ∈ (grouping g timestamp e dims outs).reads ↔
      (g.isBinned = true ∧ f = timestamp) ∨ f ∈ dims ∨
        ∃ o ∈ outs, o.counts = false ∧ o.field = f := by
  have houtput (o : Output) : o.accumulator.input.source? = some f ↔
      o.counts = false ∧ o.field = f := by
    rw [Output.accumulator]
    cases o.counts <;> simp [AccumulatorInput.source?]
  have hparts : (∃ part ∈ g.dateParts, timestamp = f) ↔ g.isBinned = true ∧ f = timestamp := by
    have hbinned : (∃ part, part ∈ g.dateParts) ↔ g.isBinned = true := by
      cases g <;> simp [Granularity.dateParts, Granularity.isBinned]
    rw [exists_and_right, hbinned, @eq_comm _ f]
  simp only [Grouping.reads, grouping, List.map_append, List.map_map, List.mem_append,
    List.mem_map, List.mem_filterMap, exists_exists_and_eq_and, Function.comp_apply,
    KeyExpr.source, houtput, hparts, exists_eq_right, or_assoc]

theorem mem_projection_iff {g : Granularity} {timestamp : FieldName} {e : DateEncoding}
    {dims : List FieldName} {outs : List Output} {f : FieldName} :
    f ∈ (projection g timestamp dims outs).fields ↔ f ∈ (grouping g timestamp e dims outs).reads :=
  mem_projection.trans mem_reads_grouping.symm

theorem grouping_projected (g : Granularity) (timestamp : FieldName) (e : DateEncoding)
    (dims : List FieldName) (outs : List Output) {docs : List Document}
    (hdocs : ∀ d ∈ docs, d.keys.Nodup) :
    (grouping g timestamp e dims outs).run (docs.map (projection g timestamp dims outs).apply) =
      (grouping g timestamp e dims outs).run docs :=
  Grouping.run_projected (fun _ hf => mem_projection_iff.2 hf) hdocs

end Plan

end EventRollup
