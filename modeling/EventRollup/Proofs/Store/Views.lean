import EventRollup.Proofs.Pipeline.Parts
import EventRollup.Proofs.Query.Meaning
import EventRollup.Proofs.Store.Documents
import EventRollup.Store.Collections
import Mathlib.Data.List.Perm.Subperm

namespace EventRollup

theorem Filter.kept_map {α : Type} {f : Filter} {view : α → Document} {p : α → Prop}
    [DecidablePred p] (h : ∀ a, f.Passes (view a) ↔ p a) (l : List α) :
    f.kept (l.map view) = (l.filter fun a => decide (p a)).map view := by
  rw [kept, List.filter_map]
  congr 1
  apply List.filter_congr
  intro a _
  exact decide_eq_decide.2 (h a)

/-- What is found does not depend on how the documents are viewed, as long as the filter accepts the
same of them and the order does not change. -/
theorem Filter.find_views {ι α : Type} {view : ι → α → Document} {g : ι → Filter}
    (options : FindOptions) (i₀ : ι) (htotal : ∀ i, (g i).Total)
    (hpasses : ∀ i a, (g i).Passes (view i a) ↔ (g i₀).Passes (view i₀ a))
    (horder : ∀ i a b, Document.compareBy options.keys (view i a) (view i b) =
      Document.compareBy options.keys (view i₀ a) (view i₀ b)) (l : List α) :
    ∃ found : List α, found.Subperm l ∧
      ∀ i, (g i).find options (l.map (view i)) = .ok (found.map (view i)) := by
  let kept := l.filter fun a => decide ((g i₀).Passes (view i₀ a))
  let le (a b : α) : Bool := (Document.compareBy options.keys (view i₀ a) (view i₀ b)).isLE
  refine ⟨(kept.mergeSort le).take (options.limit.getD (kept.mergeSort le).length), ?_, fun i => ?_⟩
  · exact (List.take_sublist _ _).subperm.trans
      ((List.mergeSort_perm kept le).subperm.trans (List.filter_sublist).subperm)
  · have hkept : (g i).kept (l.map (view i)) = kept.map (view i) := kept_map (hpasses i) l
    have hsorted : Document.sortBy options.keys (kept.map (view i)) =
        (kept.mergeSort le).map (view i) := by
      rw [Document.sortBy, List.map_mergeSort]
      intro a _ b _
      exact congrArg Ordering.isLE (horder i a b).symm
    rw [find, run_total (htotal i), hkept]
    change Except.ok (limited options.limit (Document.sortBy options.keys _)) = _
    rw [hsorted, QuerySpec.limited_map]

namespace Document

def anonymous (d : Document) : Document :=
  d.map fun e => (e.1, if e.1 = groupKey then .null else e.2)

theorem get?_anonymous (d : Document) {name : String} (h : name ≠ groupKey) :
    d.anonymous.get? name = d.get? name := by
  induction d with
  | nil => rfl
  | cons e r ih =>
      change get? ((e.1, if e.1 = groupKey then .null else e.2) :: anonymous r) name = _
      by_cases he : e.1 = name
      · rw [get?, get?, if_pos he, if_pos he, if_neg fun hkey => h (he.symm.trans hkey)]
      · rw [get?, get?, if_neg he, if_neg he, ih]

theorem erase_anonymous (d : Document) (name : String) :
    d.anonymous.erase name = (d.erase name).anonymous := by
  induction d with
  | nil => rfl
  | cons e r ih =>
      change erase ((e.1, if e.1 = groupKey then .null else e.2) :: anonymous r) name = _
      by_cases he : e.1 = name
      · rw [erase, erase, if_pos he, if_pos he, anonymous, List.getLast?_map]
        cases r.getLast? with
        | none => rfl
        | some last =>
            rw [anonymous, List.map_cons, List.map_dropLast]
            rfl
      · rw [erase, erase, if_neg he, if_neg he, ih]
        rfl

end Document

theorem FindOptions.compareBy_anonymous (o : FindOptions) (a b : Document) :
    Document.compareBy o.keys a.anonymous b.anonymous = Document.compareBy o.keys a b := by
  rw [keys]
  induction o.sort with
  | nil => rfl
  | cons k r ih =>
      rw [List.map_cons, Document.compareBy, Document.compareBy,
        a.get?_anonymous k.1.text_ne_groupKey, b.get?_anonymous k.1.text_ne_groupKey, ih]

namespace Projection

theorem takeFrom_anonymous (fields : List FieldName) (left taken : Document) :
    takeFrom fields left.anonymous taken = takeFrom fields left taken := by
  induction fields generalizing left taken with
  | nil => rfl
  | cons f r ih =>
      rw [takeFrom, takeFrom, left.get?_anonymous f.text_ne_groupKey]
      cases left.get? f.text with
      | none => exact ih left taken
      | some v =>
          dsimp only
          rw [Document.erase_anonymous, ih]

theorem apply_anonymous (p : Projection) (d : Document) : p.apply d.anonymous = p.apply d :=
  takeFrom_anonymous p.fields d []

end Projection

namespace Filter

theorem predicatesHold_anonymous (d : Document) (ps : List Predicate) :
    predicatesHold d.anonymous ps = predicatesHold d ps := by
  induction ps with
  | nil => rfl
  | cons p r ih => rw [predicatesHold, predicatesHold, d.get?_anonymous p.field.text_ne_groupKey, ih]

theorem accepts_anonymous (f : Filter) (d : Document) : f.accepts d.anonymous = f.accepts d :=
  predicatesHold_anonymous d f.predicates

theorem run_anonymous (f : Filter) (docs : List Document) :
    f.run (docs.map Document.anonymous) = (f.run docs).map (List.map Document.anonymous) := by
  induction docs with
  | nil => rfl
  | cons d r ih =>
      rw [List.map_cons, run, run, accepts_anonymous, ih]
      cases f.accepts d with
      | error fault => rfl
      | ok passes =>
          cases f.run r with
          | error fault => rfl
          | ok rest => cases passes <;> rfl

end Filter

theorem Plan.run_anonymous {settings : Settings} {presets : List Preset} {spec : QuerySpec}
    {now : Instant} {plan : Plan} (h : compile settings presets spec now = .ok plan)
    (docs : List Document) :
    plan.pipeline.run (docs.map Document.anonymous) = plan.pipeline.run docs := by
  obtain ⟨p, -, rfl⟩ := parts_of_compile h
  have hstages (f : Filter) (q : Projection) (rest : List Stage) :
      runStages (.filter f :: .project q :: rest) (docs.map Document.anonymous) =
        runStages (.filter f :: .project q :: rest) docs := by
    rw [runStages, runStages, Stage.run, Stage.run, Filter.run_anonymous]
    cases f.run docs with
    | error fault => rfl
    | ok kept =>
        have hrows : (kept.map Document.anonymous).map q.apply = kept.map q.apply := by
          rw [List.map_map]
          exact List.map_congr_left fun d _ => q.apply_anonymous d
        change runStages rest ((kept.map Document.anonymous).map q.apply) = _
        rw [hrows]
        rfl
  exact hstages _ _ _

end EventRollup
