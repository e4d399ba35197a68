import EventRollup.Proofs.Json.CompactText
import EventRollup.Store.Group

namespace EventRollup

theorem eraseDups_concat {γ : Type} [DecidableEq γ] (l : List γ) (c : γ) :
    (l ++ [c]).eraseDups = if c ∈ l then l.eraseDups else l.eraseDups ++ [c] := by
  rw [List.eraseDups_append]
  by_cases h : c ∈ l <;> simp [List.removeAll, h, List.eraseDups_cons]

theorem nodup_concat {γ : Type} {l : List γ} {c : γ} (hl : l.Nodup) (hc : c ∉ l) :
    (l ++ [c]).Nodup := by
  rw [List.nodup_append]
  refine ⟨hl, by simp, ?_⟩
  intro a ha b hb he
  rw [List.mem_singleton.1 hb] at he
  exact hc (he ▸ ha)

theorem nodup_eraseDups {γ : Type} [DecidableEq γ] (l : List γ) : l.eraseDups.Nodup := by
  match l with
  | [] => exact List.nodup_nil
  | a :: r =>
      rw [List.eraseDups_cons, List.nodup_cons]
      exact ⟨by simp [List.mem_eraseDups], nodup_eraseDups _⟩
termination_by l.length
decreasing_by exact Nat.lt_succ_of_le (List.length_filter_le _ r)

namespace Grouping

def tally (a : Accumulator) (docs : List Document) : Tally :=
  docs.foldl (fun t d => t.feed (a.input.ofDocument d)) (.start a.op)

def bucketOf (g : Grouping) (key : Document) (docs : List Document) : Bucket :=
  ⟨fingerprint key, key, g.accumulators.map fun a => tally a docs⟩

theorem fingerprint_injective {k l : Document} (h : fingerprint k = fingerprint l) : k = l := by
  have hobject := Json.compact_injective h
  injection hobject

theorem newBucket_eq (g : Grouping) (key : Document) : g.newBucket key = g.bucketOf key [] := rfl

theorem feed_bucketOf (g : Grouping) (key : Document) (docs : List Document) (d : Document) :
    (g.bucketOf key docs).feed g.accumulators d = g.bucketOf key (docs ++ [d]) := by
  have htallies (as : List Accumulator) :
      List.zipWith (fun a t => Tally.feed t (a.input.ofDocument d)) as
        (as.map fun a => tally a docs) = as.map fun a => tally a (docs ++ [d]) := by
    induction as with
    | nil => rfl
    | cons a r ih =>
        rw [List.map_cons, List.zipWith_cons_cons, ih, List.map_cons, tally, tally,
          List.foldl_append]
        rfl
  rw [Bucket.feed, bucketOf, htallies, bucketOf]

variable {γ : Type} [DecidableEq γ]

theorem addTo_classes (g : Grouping) (toKey : γ → Document) (members : γ → List Document) (c : γ)
    (d : Document) {cs : List γ} (hcs : cs.Nodup) (hinj : ∀ k ∈ cs, toKey k = toKey c → k = c) :
    g.addTo (g.newBucket (toKey c)) d (cs.map fun k => g.bucketOf (toKey k) (members k)) =
      (cs.map fun k => g.bucketOf (toKey k) (if k = c then members k ++ [d] else members k)) ++
        if c ∈ cs then [] else [g.bucketOf (toKey c) [d]] := by
  induction cs with
  | nil =>
      rw [newBucket_eq, List.map_nil, addTo, feed_bucketOf, if_neg List.not_mem_nil]
      rfl
  | cons k r ih =>
      obtain ⟨hk, hr⟩ := List.nodup_cons.1 hcs
      obtain ⟨hinjk, hinjr⟩ := List.forall_mem_cons.1 hinj
      rw [List.map_cons, addTo]
      by_cases hkc : k = c
      · subst hkc
        have hothers : (r.map fun k' => g.bucketOf (toKey k')
            (if k' = k then members k' ++ [d] else members k')) =
            r.map fun k' => g.bucketOf (toKey k') (members k') :=
          List.map_congr_left fun k' hk' => by
            rw [if_neg fun he : k' = k => hk (he ▸ hk')]
        have hsame : (g.bucketOf (toKey k) (members k)).fingerprint =
            (g.newBucket (toKey k)).fingerprint := rfl
        rw [if_pos hsame, feed_bucketOf, List.map_cons, if_pos rfl, if_pos (List.mem_cons_self ..),
          List.append_nil, hothers]
      · have hne : ¬ (g.bucketOf (toKey k) (members k)).fingerprint =
            (g.newBucket (toKey c)).fingerprint :=
          fun he => hkc (hinjk (fingerprint_injective he))
        have hmem : c ∈ k :: r ↔ c ∈ r := by
          rw [List.mem_cons]
          exact ⟨fun h => h.resolve_left fun he => hkc he.symm, .inr⟩
        rw [if_neg hne, ih hr hinjr, List.map_cons, if_neg hkc, List.cons_append]
        simp only [hmem]

def classBuckets (g : Grouping) (classOf : Document → γ) (toKey : γ → Document)
    (docs : List Document) : List Bucket :=
  (docs.map classOf).eraseDups.map fun c =>
    g.bucketOf (toKey c) (docs.filter fun d => decide (classOf d = c))

theorem addTo_classBuckets (g : Grouping) (classOf : Document → γ) (toKey : γ → Document)
    (docs : List Document) (d : Document)
    (hinj : ∀ e ∈ docs, toKey (classOf e) = toKey (classOf d) → classOf e = classOf d) :
    g.addTo (g.newBucket (toKey (classOf d))) d (g.classBuckets classOf toKey docs) =
      g.classBuckets classOf toKey (docs ++ [d]) := by
  have hinj' : ∀ c ∈ (docs.map classOf).eraseDups, toKey c = toKey (classOf d) →
      c = classOf d := by
    intro c hc
    obtain ⟨e, he, rfl⟩ := List.mem_map.1 (List.mem_eraseDups.1 hc)
    exact hinj e he
  have hmembers (c : γ) : ((docs ++ [d]).filter fun e => decide (classOf e = c)) =
      if c = classOf d then (docs.filter fun e => decide (classOf e = c)) ++ [d]
      else docs.filter fun e => decide (classOf e = c) := by
    by_cases h : c = classOf d
    · simp [h]
    · have h' : ¬ classOf d = c := fun he => h he.symm
      simp [h, h']
  rw [classBuckets, addTo_classes g toKey _ _ d (nodup_eraseDups _) hinj', classBuckets,
    List.map_append, List.map_singleton, eraseDups_concat]
  simp only [List.mem_eraseDups, hmembers]
  by_cases h : classOf d ∈ docs.map classOf
  · rw [if_pos h, if_pos h, List.append_nil]
  · have hnone : (docs.filter fun e => decide (classOf e = classOf d)) = [] := by
      rw [List.filter_eq_nil_iff]
      intro e he hclass
      exact h (List.mem_map.2 ⟨e, he, of_decide_eq_true hclass⟩)
    rw [if_neg h, if_neg h, List.map_append, List.map_singleton, if_pos rfl, hnone, List.nil_append]

/-- Grouping partitions. Documents share a bucket when they are of one class, the buckets stand in
the order of first appearance, and each has been fed its documents alone, in their order. -/
theorem gather_eq_classes (g : Grouping) (classOf : Document → γ) (toKey : γ → Document)
    (docs : List Document) (hkey : ∀ d ∈ docs, g.keyOf d = .ok (toKey (classOf d)))
    (hinj : ∀ d ∈ docs, ∀ e ∈ docs, toKey (classOf d) = toKey (classOf e) →
      classOf d = classOf e) :
    g.gather [] docs = .ok (g.classBuckets classOf toKey docs) := by
  suffices h : ∀ before rest : List Document, before ++ rest = docs →
      g.gather (g.classBuckets classOf toKey before) rest =
        .ok (g.classBuckets classOf toKey docs) from h [] docs rfl
  intro before rest hsplit
  induction rest generalizing before with
  | nil =>
      rw [List.append_nil] at hsplit
      rw [hsplit, gather]
  | cons d r ih =>
      have hmem : d ∈ docs := hsplit ▸ List.mem_append_right before (List.mem_cons_self ..)
      have hadd := addTo_classBuckets g classOf toKey before d fun e he =>
        hinj e (hsplit ▸ List.mem_append_left (d :: r) he) d hmem
      rw [gather, hkey d hmem]
      simp only [bind, Except.bind]
      rw [hadd]
      exact ih (before ++ [d]) (by rw [List.append_assoc, List.singleton_append, hsplit])

end Grouping

end EventRollup
