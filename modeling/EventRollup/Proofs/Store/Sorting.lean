import EventRollup.Proofs.Json.Order

namespace EventRollup

namespace Chained

variable {x y z : Ordering}

theorem exchanged (h : Chained x y z) : Chained y x z := by
  obtain ⟨hx, hy, hxy⟩ := h
  refine ⟨hy, hx, ?_⟩
  intro he
  rw [hxy he.symm, he]

theorem isLE (h : Chained x y z) (hx : x.isLE = true) (hy : y.isLE = true) : z.isLE = true := by
  cases x with
  | lt =>
      have hz : z = .lt := h.lt_of_lt rfl fun he => by rw [he] at hy; cases hy
      rw [hz]
      rfl
  | eq => rwa [h.1 rfl]
  | gt => cases hx

end Chained

/-- The laws of a total preorder, said of what compares. Things that compare equal need not be the
same, but no comparison tells them apart. -/
structure TotalPreorder {α : Type} (cmp : α → α → Ordering) : Prop where
  refl : ∀ a, cmp a a = .eq
  swap : ∀ a b, (cmp a b).swap = cmp b a
  trans : ∀ a b c, (cmp a b).isLE = true → (cmp b c).isLE = true → (cmp a c).isLE = true
  equivalence : Equivalence fun a b => cmp a b = .eq
  congr : ∀ a a' b b', cmp a a' = .eq → cmp b b' = .eq → cmp a b = cmp a' b'

/-- A list in order that has the things of another one, those that compare equal as they stand
there. -/
structure StablySorted {α : Type} (cmp : α → α → Ordering) (l sorted : List α) : Prop where
  perm : sorted.Perm l
  ordered : sorted.Pairwise fun a b => (cmp a b).isLE = true
  ties : ∀ a, (sorted.filter fun b => cmp a b == .eq) = l.filter fun b => cmp a b == .eq

theorem StablySorted.filter {α : Type} {cmp : α → α → Ordering} {l sorted : List α}
    (h : StablySorted cmp l sorted) (p : α → Bool) :
    StablySorted cmp (l.filter p) (sorted.filter p) where
  perm := h.perm.filter p
  ordered := h.ordered.filter p
  ties := by
    intro a
    rw [List.filter_filter, List.filter_filter]
    simp only [Bool.and_comm _ (p _)]
    rw [← List.filter_filter, ← List.filter_filter, h.ties]

namespace TotalPreorder

variable {α : Type} {cmp : α → α → Ordering}

theorem of_chained (hchained : ∀ a b c, Chained (cmp a b) (cmp b c) (cmp a c))
    (hswap : ∀ a b, (cmp a b).swap = cmp b a) : TotalPreorder cmp := by
  have hrefl (a : α) : cmp a a = .eq := by
    have hself := hswap a a
    cases h : cmp a a with
    | eq => rfl
    | _ =>
        rw [h] at hself
        cases hself
  have hsymm {a b : α} (h : cmp a b = .eq) : cmp b a = .eq := by
    rw [← hswap, h]
    rfl
  refine ⟨hrefl, hswap, fun a b c => (hchained a b c).isLE, ⟨hrefl, hsymm, ?_⟩, ?_⟩
  · intro a b c hab hbc
    rw [(hchained a b c).1 hab, hbc]
  · intro a a' b b' ha hb
    -- first the left one is exchanged, then the right one
    rw [(hchained a a' b).1 ha, (hchained a' b b').2.1 hb]

variable (h : TotalPreorder cmp)
include h

theorem total (a b : α) : ((cmp a b).isLE || (cmp b a).isLE) = true := by
  rw [← h.swap a b]
  cases cmp a b <;> rfl

theorem eq_of_isLE {a b : α} (hab : (cmp a b).isLE = true) (hba : (cmp b a).isLE = true) :
    cmp a b = .eq := by
  rw [← h.swap a b] at hba
  cases hcmp : cmp a b with
  | eq => rfl
  | lt =>
      rw [hcmp] at hba
      cases hba
  | gt =>
      rw [hcmp] at hab
      cases hab

theorem isLE_of_mem {a b : α} {r : List α}
    (hr : (a :: r).Pairwise fun a b => (cmp a b).isLE = true) (hb : b ∈ a :: r) :
    (cmp a b).isLE = true := by
  rcases List.mem_cons.1 hb with rfl | hmem
  · rw [h.refl]
    rfl
  · exact (List.pairwise_cons.1 hr).1 b hmem

theorem stablySorted_mergeSort (l : List α) :
    StablySorted cmp l (l.mergeSort fun a b => (cmp a b).isLE) := by
  have hperm := l.mergeSort_perm fun a b => (cmp a b).isLE
  refine ⟨hperm, List.pairwise_mergeSort h.trans h.total l, fun a => ?_⟩
  -- things that compare equal are in order as they stand, and sorting keeps what is in order
  have hordered : (l.filter fun b => cmp a b == .eq).Pairwise
      fun b c => (cmp b c).isLE = true := by
    apply List.pairwise_of_forall_mem_list
    intro b hb c hc
    have hab := beq_iff_eq.1 (List.mem_filter.1 hb).2
    have hac := beq_iff_eq.1 (List.mem_filter.1 hc).2
    rw [h.equivalence.trans (h.equivalence.symm hab) hac]
    rfl
  have hsublist := (List.sublist_mergeSort h.trans h.total hordered List.filter_sublist).filter
    fun b => cmp a b == .eq
  rw [List.filter_filter] at hsublist
  simp only [Bool.and_self] at hsublist
  exact (hsublist.eq_of_length (hperm.filter _).length_eq.symm).symm

theorem eq_of_ties {s t : List α} (hperm : s.Perm t)
    (hs : s.Pairwise fun a b => (cmp a b).isLE = true)
    (ht : t.Pairwise fun a b => (cmp a b).isLE = true)
    (hties : ∀ a, (s.filter fun b => cmp a b == .eq) = t.filter fun b => cmp a b == .eq) :
    s = t := by
  induction s generalizing t with
  | nil => exact hperm.nil_eq
  | cons a r ih =>
      cases t with
      | nil => exact hperm.eq_nil
      | cons b u =>
          have hab := h.isLE_of_mem hs (hperm.mem_iff.2 List.mem_cons_self)
          have hba := h.isLE_of_mem ht (hperm.mem_iff.1 List.mem_cons_self)
          have hheads := hties a
          rw [List.filter_cons, if_pos (beq_iff_eq.2 (h.refl a)), List.filter_cons,
            if_pos (beq_iff_eq.2 (h.eq_of_isLE hab hba))] at hheads
          obtain rfl := (List.cons.inj hheads).1
          refine congrArg (a :: ·) (ih hperm.cons_inv hs.of_cons ht.of_cons fun c => ?_)
          have hrest := hties c
          rw [List.filter_cons, List.filter_cons] at hrest
          split at hrest
          · exact (List.cons.inj hrest).2
          · exact hrest

theorem mergeSort_unique {l sorted : List α} (hsorted : StablySorted cmp l sorted) :
    sorted = l.mergeSort fun a b => (cmp a b).isLE := by
  have hmerge := h.stablySorted_mergeSort l
  refine h.eq_of_ties (hsorted.perm.trans hmerge.perm.symm) hsorted.ordered hmerge.ordered ?_
  intro a
  rw [hsorted.ties, hmerge.ties]

theorem mergeSort_filter (l : List α) (p : α → Bool) :
    (l.mergeSort fun a b => (cmp a b).isLE).filter p =
      (l.filter p).mergeSort fun a b => (cmp a b).isLE :=
  h.mergeSort_unique ((h.stablySorted_mergeSort l).filter p)

end TotalPreorder

namespace SortDirection

theorem compare_chained (direction : SortDirection) (a b c : Json) :
    Chained (direction.compare a b) (direction.compare b c) (direction.compare a c) := by
  cases direction with
  | ascending => exact Json.compare_chained a b c
  | descending => exact (Json.compare_chained c b a).exchanged

theorem compare_swap (direction : SortDirection) (a b : Json) :
    (direction.compare a b).swap = direction.compare b a := by
  cases direction with
  | ascending => exact Json.compare_swap a b
  | descending => exact Json.compare_swap b a

end SortDirection

namespace Document

theorem compareBy_chained (keys : List (String × SortDirection)) (a b c : Document) :
    Chained (compareBy keys a b) (compareBy keys b c) (compareBy keys a c) := by
  induction keys with
  | nil => exact Chained.equal
  | cons k r ih =>
      apply (k.2.compare_chained _ _ _).then_of_eq
      intro _ _
      exact ih

theorem compareBy_swap (keys : List (String × SortDirection)) (a b : Document) :
    (compareBy keys a b).swap = compareBy keys b a := by
  induction keys with
  | nil => rfl
  | cons k r ih => simp only [compareBy, Ordering.swap_then, SortDirection.compare_swap, ih]

theorem compareBy_totalPreorder (keys : List (String × SortDirection)) :
    TotalPreorder (compareBy keys) :=
  .of_chained (compareBy_chained keys) (compareBy_swap keys)

theorem pairwise_sortBy (keys : List (String × SortDirection)) (docs : List Document) :
    (sortBy keys docs).Pairwise fun a b => (compareBy keys a b).isLE = true :=
  ((compareBy_totalPreorder keys).stablySorted_mergeSort docs).ordered

theorem sortBy_pair (keys : List (String × SortDirection)) (a b : Document) :
    sortBy keys [a, b] = if (compareBy keys a b).isLE then [a, b] else [b, a] := by
  simp [sortBy, List.mergeSort, List.merge]

/-- Values are totally preordered and so are documents by any fields. Of all lists there is one that
sorts given documents and keeps the order of those that are equal, which is what sorting gives. -/
theorem sortBy_unique : TotalPreorder Json.compare ∧ ∀ keys : List (String × SortDirection),
    TotalPreorder (compareBy keys) ∧ ∀ docs : List Document,
      StablySorted (compareBy keys) docs (sortBy keys docs) ∧
        ∀ sorted, StablySorted (compareBy keys) docs sorted → sorted = sortBy keys docs := by
  refine ⟨.of_chained Json.compare_chained Json.compare_swap, fun keys => ?_⟩
  have hkeys := compareBy_totalPreorder keys
  refine ⟨hkeys, fun docs => ⟨hkeys.stablySorted_mergeSort docs, fun sorted hsorted => ?_⟩⟩
  exact hkeys.mergeSort_unique hsorted

end Document

end EventRollup
