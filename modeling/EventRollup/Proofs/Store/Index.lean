import EventRollup.Proofs.Store.Classes
import Mathlib.Logic.Basic
import Mathlib.Logic.ExistsUnique

namespace EventRollup

section

variable {α β : Type} {f : α → α}

theorem map_modify_of_eq {g : α → β} (h : ∀ a, g (f a) = g a) (l : List α) (i : Nat) :
    (l.modify i f).map g = l.map g := by
  apply List.ext_getElem?
  intro j
  rw [List.getElem?_map, List.getElem?_map, List.getElem?_modify]
  by_cases hij : i = j
  · cases l[j]? <;> simp [hij, h]
  · cases l[j]? <;> simp [hij]

theorem modify_concat (l : List α) (a : α) : (l ++ [a]).modify l.length f = l ++ [f a] := by
  induction l with
  | nil => rfl
  | cons b r ih => simp [ih]

theorem getElem?_concat_eq_some_iff {l : List α} {a b : α} {i : Nat} :
    (l ++ [a])[i]? = some b ↔ l[i]? = some b ∨ i = l.length ∧ a = b := by
  rcases Nat.lt_trichotomy i l.length with h | h | h
  · rw [List.getElem?_append_left h]
    simp [Nat.ne_of_lt h]
  · subst h
    simp
  · have hnone : (l ++ [a])[i]? = none := by
      rw [List.getElem?_eq_none_iff, List.length_append, List.length_singleton]
      omega
    rw [hnone, List.getElem?_eq_none_iff.2 (Nat.le_of_lt h)]
    simp [Nat.ne_of_gt h]

end

namespace Bucket

theorem key_feed (accumulators : List Accumulator) (d : Document) (b : Bucket) :
    (b.feed accumulators d).key = b.key := rfl

theorem fingerprint_feed (accumulators : List Accumulator) (d : Document) (b : Bucket) :
    (b.feed accumulators d).fingerprint = b.fingerprint := rfl

end Bucket

/-- Buckets in the order in which they were founded, and the place of each by a fingerprint. -/
structure IndexedBuckets where
  index : List (String × Nat)
  buckets : List Bucket

namespace IndexedBuckets

def empty : IndexedBuckets := ⟨[], []⟩

def keys (s : IndexedBuckets) : List Document := s.buckets.map (·.key)

def placeFor (g : Grouping) (key : Document) (s : IndexedBuckets) : Nat × IndexedBuckets :=
  match s.index.lookup (Grouping.fingerprint key) with
  | some place => (place, s)
  | none =>
    (s.buckets.length,
      ⟨(Grouping.fingerprint key, s.buckets.length) :: s.index, s.buckets ++ [g.newBucket key]⟩)

def feedAt (g : Grouping) (place : Nat) (d : Document) (s : IndexedBuckets) : IndexedBuckets :=
  { s with buckets := s.buckets.modify place fun b => b.feed g.accumulators d }

def take (g : Grouping) (key d : Document) (s : IndexedBuckets) : IndexedBuckets :=
  (s.placeFor g key).2.feedAt g (s.placeFor g key).1 d

/-- The index leads from a fingerprint to the bucket whose key has it, and to no other. -/
structure Exact (s : IndexedBuckets) : Prop where
  lookup_iff : ∀ fp place, s.index.lookup fp = some place ↔
    ∃ key, s.keys[place]? = some key ∧ Grouping.fingerprint key = fp
  fingerprints : s.buckets.map (·.fingerprint) = s.keys.map Grouping.fingerprint

theorem exact_empty : empty.Exact := by
  refine ⟨fun fp place => ?_, rfl⟩
  simp [empty, keys]

variable {s : IndexedBuckets}

theorem keys_feedAt (g : Grouping) (place : Nat) (d : Document) (s : IndexedBuckets) :
    (s.feedAt g place d).keys = s.keys :=
  map_modify_of_eq (Bucket.key_feed g.accumulators d) s.buckets place

theorem Exact.feedAt (h : s.Exact) (g : Grouping) (place : Nat) (d : Document) :
    (s.feedAt g place d).Exact := by
  have hkept : (s.feedAt g place d).buckets.map (·.fingerprint) =
      s.buckets.map (·.fingerprint) :=
    map_modify_of_eq (Bucket.fingerprint_feed g.accumulators d) s.buckets place
  refine ⟨fun fp other => ?_, ?_⟩
  · rw [keys_feedAt]
    exact h.lookup_iff fp other
  · rw [hkept, keys_feedAt, h.fingerprints]

theorem Exact.placeFor (h : s.Exact) (g : Grouping) (key : Document) :
    (s.placeFor g key).2.Exact := by
  rw [IndexedBuckets.placeFor]
  cases hplace : s.index.lookup (Grouping.fingerprint key) with
  | some place => exact h
  | none =>
      have hkeys (i : List (String × Nat)) :
          IndexedBuckets.keys ⟨i, s.buckets ++ [g.newBucket key]⟩ = s.keys ++ [key] :=
        List.map_append
      have hlength : s.keys.length = s.buckets.length := List.length_map _
      -- no key so far has the new fingerprint
      have hnew (place : Nat) : ¬ ∃ k, s.keys[place]? = some k ∧
          Grouping.fingerprint k = Grouping.fingerprint key := by
        rw [← h.lookup_iff, hplace]
        exact nofun
      refine ⟨fun fp place => ?_, ?_⟩
      · simp only [hkeys, getElem?_concat_eq_some_iff, List.lookup_cons, hlength]
        by_cases hfp : fp = Grouping.fingerprint key
        · subst hfp
          rw [beq_self_eq_true]
          constructor
          · rintro ⟨⟩
            exact ⟨key, .inr ⟨rfl, rfl⟩, rfl⟩
          · rintro ⟨k, hk | ⟨rfl, rfl⟩, hkfp⟩
            · exact absurd ⟨k, hk, hkfp⟩ (hnew place)
            · rfl
        · rw [beq_false_of_ne hfp]
          dsimp only
          rw [h.lookup_iff]
          constructor
          · rintro ⟨k, hk, hkfp⟩
            exact ⟨k, .inl hk, hkfp⟩
          · rintro ⟨k, hk | ⟨-, rfl⟩, hkfp⟩
            · exact ⟨k, hk, hkfp⟩
            · exact absurd hkfp.symm hfp
      · rw [hkeys, List.map_append, List.map_append, h.fingerprints]
        rfl

theorem Exact.take (h : s.Exact) (g : Grouping) (key d : Document) : (s.take g key d).Exact :=
  (h.placeFor g key).feedAt g _ d

theorem Exact.place_unique (h : s.Exact) {i j : Nat} {key : Document} (hi : s.keys[i]? = some key)
    (hj : s.keys[j]? = some key) : i = j := by
  have hi' := (h.lookup_iff _ i).2 ⟨key, hi, rfl⟩
  have hj' := (h.lookup_iff _ j).2 ⟨key, hj, rfl⟩
  exact Option.some.inj (hi'.symm.trans hj')

end IndexedBuckets

namespace Grouping

variable {g : Grouping} {fresh : Bucket} {d : Document}

theorem addTo_eq_concat {buckets : List Bucket}
    (h : ∀ b ∈ buckets, b.fingerprint ≠ fresh.fingerprint) :
    g.addTo fresh d buckets = buckets ++ [fresh.feed g.accumulators d] := by
  induction buckets with
  | nil => rfl
  | cons b r ih =>
      obtain ⟨hb, hr⟩ := List.forall_mem_cons.1 h
      rw [addTo, if_neg hb, ih hr, List.cons_append]

theorem addTo_eq_modify {buckets : List Bucket} {place : Nat}
    (h : ∀ i, (∃ b, buckets[i]? = some b ∧ b.fingerprint = fresh.fingerprint) ↔ i = place) :
    g.addTo fresh d buckets = buckets.modify place fun b => b.feed g.accumulators d := by
  induction buckets generalizing place with
  | nil =>
      obtain ⟨b, hb, -⟩ := (h place).2 rfl
      cases hb
  | cons b r ih =>
      by_cases hb : b.fingerprint = fresh.fingerprint
      · obtain rfl := (h 0).1 ⟨b, rfl, hb⟩
        rw [addTo, if_pos hb]
        rfl
      · cases place with
        | zero =>
            obtain ⟨c, hc, hfp⟩ := (h 0).2 rfl
            cases hc
            exact absurd hfp hb
        | succ n =>
            have hr : ∀ i, (∃ c, r[i]? = some c ∧ c.fingerprint = fresh.fingerprint) ↔ i = n := by
              intro i
              rw [← Nat.succ_inj, ← h (i + 1)]
              rfl
            rw [addTo, if_neg hb, ih hr]
            rfl

theorem take_eq_addTo {s : IndexedBuckets} (h : s.Exact) (key d : Document) :
    (s.take g key d).buckets = g.addTo (g.newBucket key) d s.buckets := by
  have hfound (i : Nat) : (∃ b, s.buckets[i]? = some b ∧
      b.fingerprint = (g.newBucket key).fingerprint) ↔
      s.index.lookup (fingerprint key) = some i := by
    have hplace := congrArg (fun l : List String => l[i]? = some (fingerprint key)) h.fingerprints
    simp only [List.getElem?_map, Option.map_eq_some_iff, eq_iff_iff] at hplace
    exact hplace.trans (h.lookup_iff _ i).symm
  rw [IndexedBuckets.take, IndexedBuckets.placeFor]
  cases hplace : s.index.lookup (fingerprint key) with
  | some place =>
      refine (addTo_eq_modify fun i => ?_).symm
      rw [hfound, hplace, Option.some.injEq, eq_comm]
  | none =>
      refine (modify_concat s.buckets _).trans (addTo_eq_concat fun b hb he => ?_).symm
      obtain ⟨i, hi⟩ := List.mem_iff_getElem?.1 hb
      have hsome := (hfound i).1 ⟨b, hi, he⟩
      rw [hplace] at hsome
      cases hsome

/-- Gathers documents as `gather` does, with an index of the buckets. -/
def gatherIndexed (g : Grouping) : IndexedBuckets → List Document →
    Except StoreFault IndexedBuckets
  | s, [] => .ok s
  | s, d :: r => do
    let key ← g.keyOf d
    g.gatherIndexed (s.take g key d) r

theorem gatherIndexed_eq {s : IndexedBuckets} (h : s.Exact) (docs : List Document) :
    (g.gatherIndexed s docs).map (·.buckets) = g.gather s.buckets docs := by
  induction docs generalizing s with
  | nil => rfl
  | cons d r ih =>
      rw [gatherIndexed, gather]
      cases g.keyOf d with
      | error fault => rfl
      | ok key =>
          simp only [bind, Except.bind]
          rw [ih (h.take g key d), take_eq_addTo h]

theorem exact_gatherIndexed {s t : IndexedBuckets} (h : s.Exact) {docs : List Document}
    (ht : g.gatherIndexed s docs = .ok t) : t.Exact := by
  induction docs generalizing s with
  | nil => exact Except.ok.inj ht ▸ h
  | cons d r ih =>
      rw [gatherIndexed] at ht
      cases hkey : g.keyOf d with
      | error fault =>
          rw [hkey] at ht
          cases ht
      | ok key =>
          rw [hkey] at ht
          exact ih (h.take g key d) ht

def members (g : Grouping) (key : Document) (docs : List Document) : List Document :=
  docs.filter fun d => decide ((g.keyOf d).toOption = some key)

theorem keyOf_of_gather {buckets gathered : List Bucket} {docs : List Document}
    (h : g.gather buckets docs = .ok gathered) : ∀ d ∈ docs, ∃ key, g.keyOf d = .ok key := by
  induction docs generalizing buckets with
  | nil => exact fun d hd => by cases hd
  | cons d r ih =>
      rw [gather] at h
      cases hkey : g.keyOf d with
      | error fault =>
          rw [hkey] at h
          cases h
      | ok key =>
          rw [hkey] at h
          exact List.forall_mem_cons.2 ⟨⟨key, hkey⟩, ih h⟩

theorem mem_classBuckets {γ : Type} [DecidableEq γ] {classOf : Document → γ}
    {toKey : γ → Document} {docs : List Document} {b : Bucket} :
    b ∈ g.classBuckets classOf toKey docs ↔ ∃ d ∈ docs, g.bucketOf (toKey (classOf d))
      (docs.filter fun e => decide (classOf e = classOf d)) = b := by
  rw [classBuckets, List.mem_map]
  simp only [List.mem_eraseDups, List.mem_map, exists_exists_and_eq_and]

variable {docs : List Document} {buckets : List Bucket}

theorem gather_eq_classBuckets (h : g.gather [] docs = .ok buckets) :
    buckets = g.classBuckets (fun d => (g.keyOf d).toOption.getD []) id docs := by
  have hkeys : ∀ d ∈ docs, g.keyOf d = .ok ((g.keyOf d).toOption.getD []) := by
    intro d hd
    obtain ⟨key, hkey⟩ := keyOf_of_gather h d hd
    rw [hkey]
    rfl
  have hclasses := gather_eq_classes g (fun d => (g.keyOf d).toOption.getD []) id docs hkeys
    fun _ _ _ _ he => he
  exact Except.ok.inj (h.symm.trans hclasses)

theorem mem_keys_of_gather (h : g.gather [] docs = .ok buckets) {key : Document} :
    key ∈ buckets.map (·.key) ↔ ∃ d ∈ docs, g.keyOf d = .ok key := by
  rw [List.mem_map, gather_eq_classBuckets h]
  constructor
  · rintro ⟨b, hb, rfl⟩
    obtain ⟨d, hd, rfl⟩ := mem_classBuckets.1 hb
    obtain ⟨key, hkey⟩ := keyOf_of_gather h d hd
    exact ⟨d, hd, by rw [hkey]; rfl⟩
  · rintro ⟨d, hd, hkey⟩
    exact ⟨_, mem_classBuckets.2 ⟨d, hd, rfl⟩, by rw [hkey]; rfl⟩

theorem tallies_of_gather (h : g.gather [] docs = .ok buckets) : ∀ b ∈ buckets,
    b.tallies = g.accumulators.map fun a => tally a (g.members b.key docs) := by
  intro b hb
  rw [gather_eq_classBuckets h] at hb
  obtain ⟨d, -, rfl⟩ := mem_classBuckets.1 hb
  generalize (g.keyOf d).toOption.getD [] = key
  have hmembers : (docs.filter fun e => decide ((g.keyOf e).toOption.getD [] = key)) =
      g.members key docs := by
    refine List.filter_congr fun e he => ?_
    obtain ⟨k, hk⟩ := keyOf_of_gather h e he
    rw [hk]
    exact decide_eq_decide.2 Option.some_inj.symm
  rw [hmembers]
  rfl

end Grouping

namespace IndexedBuckets

/-- Documents are divided among the buckets. No key has two of them, every document belongs to one, and
each has taken in the documents that belong to it. -/
structure Divides (g : Grouping) (docs : List Document) (s : IndexedBuckets) : Prop where
  distinct : s.keys.Nodup
  founded : ∀ key ∈ s.keys, ∃ d ∈ docs, g.keyOf d = .ok key
  placed : ∀ d ∈ docs, ∃! place : Nat, ∃ key, s.keys[place]? = some key ∧ g.keyOf d = .ok key
  fed : ∀ b ∈ s.buckets,
    b.tallies = g.accumulators.map fun a => Grouping.tally a (g.members b.key docs)

theorem Exact.nodup_keys {s : IndexedBuckets} (h : s.Exact) : s.keys.Nodup := by
  rw [List.Nodup, List.pairwise_iff_getElem]
  intro i j hi hj hlt he
  have hplaces := h.place_unique (List.getElem?_eq_getElem hi)
    ((List.getElem?_eq_getElem hj).trans (congrArg some he.symm))
  exact Nat.ne_of_lt hlt hplaces

theorem Exact.divides {g : Grouping} {docs : List Document} {s : IndexedBuckets} (h : s.Exact)
    (hs : g.gather [] docs = .ok s.buckets) : s.Divides g docs := by
  refine ⟨h.nodup_keys, fun key hkey => (Grouping.mem_keys_of_gather hs).1 hkey, fun d hd => ?_,
    Grouping.tallies_of_gather hs⟩
  obtain ⟨key, hkey⟩ := Grouping.keyOf_of_gather hs d hd
  obtain ⟨place, hplace⟩ := List.mem_iff_getElem?.1
    ((Grouping.mem_keys_of_gather hs).2 ⟨d, hd, hkey⟩)
  refine ⟨place, ⟨key, hplace, hkey⟩, ?_⟩
  rintro other ⟨key', hother, hkey'⟩
  obtain rfl := Except.ok.inj (hkey.symm.trans hkey')
  exact h.place_unique hother hplace

end IndexedBuckets

namespace Grouping

/-- Keys have one fingerprint only if they are the same, down to the order of names and how numbers
are written. So grouping with an index of fingerprints gives the rows of grouping without one. The
index leads to the bucket of a key and nowhere else, and a document is fed to the bucket of its key
alone. -/
theorem index_divides (g : Grouping) :
    (∀ key key' : Document, fingerprint key = fingerprint key' ↔ key = key') ∧
    ∀ docs, g.run docs = (g.gatherIndexed .empty docs).map
        (fun s => s.buckets.map fun b => b.row g.accumulators) ∧
      ∀ s, g.gatherIndexed .empty docs = .ok s → s.Exact ∧ s.Divides g docs := by
  refine ⟨fun _ _ => ⟨fingerprint_injective, congrArg fingerprint⟩, fun docs => ?_⟩
  have hgather : (g.gatherIndexed .empty docs).map (·.buckets) = g.gather [] docs :=
    gatherIndexed_eq IndexedBuckets.exact_empty docs
  refine ⟨?_, fun s hs => ?_⟩
  · rw [run, ← hgather]
    cases g.gatherIndexed .empty docs <;> rfl
  · have hexact := exact_gatherIndexed IndexedBuckets.exact_empty hs
    rw [hs] at hgather
    exact ⟨hexact, hexact.divides hgather.symm⟩

def countByCustomer : Grouping where
  key := [("customer", .field ⟨"customer", by decide⟩)]
  accumulators := [⟨⟨"count", by decide⟩, .sum, .constant 1⟩]

/-- Documents whose customers are easily mistaken for one another: an integer, a double and the texts of
both, texts that go on differently behind a quote, an object in two orders, null, and none at all. -/
def lookalikes : List Document :=
  let one : Json := .number (.double ((Double.ofInt? 1).getD .zero))
  let entries : Document := [("a", .null), ("b", .null)]
  let customers : List (Option Json) := [some (.int 1), some one, some (.string "1"),
    some (.string "1.0"), some (.string "\"\x01"), some (.string "\"\\u0001"),
    some (.object entries), some (.object entries.reverse), some .null, none]
  customers.map fun customer => (customer.map fun v => ("customer", v)).toList

theorem index_divides_lookalikes :
    ∃ s, countByCustomer.gatherIndexed .empty (lookalikes ++ lookalikes) = .ok s ∧
      s.keys = lookalikes ∧ s.buckets.map (·.tallies) = List.replicate 10 [.integer 2] ∧
      s.Exact ∧ s.Divides countByCustomer (lookalikes ++ lookalikes) := by
  have hrun : (countByCustomer.gatherIndexed .empty (lookalikes ++ lookalikes)).toOption.map
      (fun s => (s.keys, s.buckets.map (·.tallies))) =
      some (lookalikes, List.replicate 10 [.integer 2]) := by decide +kernel
  cases hs : countByCustomer.gatherIndexed .empty (lookalikes ++ lookalikes) with
  | error fault =>
      rw [hs] at hrun
      cases hrun
  | ok s =>
      rw [hs] at hrun
      obtain ⟨hkeys, htallies⟩ := Prod.mk.inj (Option.some.inj hrun)
      exact ⟨s, rfl, hkeys, htallies, ((index_divides countByCustomer).2 _).2 s hs⟩

end Grouping

end EventRollup
