import EventRollup.Store.Run

namespace EventRollup

theorem FieldName.text_ne_of_fault (f : FieldName) {raw : String} (h : fault? raw ≠ none) :
    f.text ≠ raw := by
  intro he
  exact h (he ▸ f.faultless)

theorem FieldName.text_ne_groupKey (f : FieldName) : f.text ≠ groupKey :=
  f.text_ne_of_fault (by decide)

namespace Document

theorem mem_keys_of_get? {d : Document} {name : String} {v : Json} (h : d.get? name = some v) :
    name ∈ d.keys := by
  refine Classical.byContradiction fun hnot => ?_
  rw [get?_eq_none_iff.2 hnot] at h
  cases h

theorem insert_of_get? {d : Document} {name : String} {v : Json} (h : d.get? name = some v) :
    Document.insert d name v = d := by
  induction d with
  | nil => cases h
  | cons e r ih =>
      by_cases he : e.1 = name
      · rw [get?, if_pos he] at h
        cases h
        rw [insert, if_pos he]
      · rw [get?, if_neg he] at h
        rw [insert, if_neg he, ih h]

theorem insert_of_not_mem {d : Document} {name : String} (h : name ∉ d.keys) (v : Json) :
    Document.insert d name v = d ++ [(name, v)] := by
  induction d with
  | nil => rfl
  | cons e r ih =>
      rw [keys, List.map_cons, List.mem_cons, not_or] at h
      rw [insert, if_neg fun he => h.1 he.symm, ih h.2, List.cons_append]

theorem insert_insert (d : Document) (name : String) (v w : Json) :
    Document.insert (Document.insert d name v) name w = Document.insert d name w := by
  induction d with
  | nil => exact if_pos rfl
  | cons e r ih =>
      by_cases he : e.1 = name
      · rw [insert, if_pos he, insert, if_pos he, insert, if_pos he]
      · rw [insert, if_neg he, insert, if_neg he, insert, if_neg he, ih]

theorem insert_comm {d : Document} {name other : String} (h : name ∈ d.keys) (hne : other ≠ name)
    (v w : Json) : Document.insert (Document.insert d other w) name v =
      Document.insert (Document.insert d name v) other w := by
  induction d with
  | nil => cases h
  | cons e r ih =>
      by_cases he : e.1 = name
      · have ho : ¬ e.1 = other := fun ho => hne (ho.symm.trans he)
        simp only [insert, if_pos he, if_neg ho]
      · have hr : name ∈ Document.keys r := by
          rcases List.mem_cons.1 h with hk | hr
          · exact absurd hk.symm he
          · exact hr
        by_cases ho : e.1 = other
        · simp only [insert, if_neg he, if_pos ho]
        · simp only [insert, if_neg he, if_neg ho, ih hr]

theorem insert_append {d : Document} {name : String} (h : name ∉ d.keys) (w v : Json)
    (e : Document) : Document.insert (d ++ (name, w) :: e) name v = d ++ (name, v) :: e := by
  induction d with
  | nil => exact if_pos rfl
  | cons x r ih =>
      rw [keys, List.map_cons, List.mem_cons, not_or] at h
      rw [List.cons_append, insert, if_neg fun he => h.1 he.symm, ih h.2, List.cons_append]

theorem foldl_insert {d : Document} {entries : List (String × Json)}
    (h : (d.keys ++ entries.map Prod.fst).Nodup) :
    entries.foldl (fun d e => Document.insert d e.1 e.2) d = d ++ entries := by
  induction entries generalizing d with
  | nil => rw [List.foldl_nil, List.append_nil]
  | cons e r ih =>
      have hnew : e.1 ∉ d.keys := fun hmem =>
        (List.nodup_append.1 h).2.2 e.1 hmem e.1 (List.mem_cons_self ..) rfl
      have hkeys : (d ++ [e]).keys ++ r.map Prod.fst = d.keys ++ (e :: r).map Prod.fst := by
        rw [keys, List.map_append, List.map_singleton, List.append_assoc]
        rfl
      rw [List.foldl_cons, insert_of_not_mem hnew, ih (hkeys ▸ h), List.append_assoc]
      rfl

theorem ofEntries_of_nodup {entries : List (String × Json)} (h : (entries.map Prod.fst).Nodup) :
    ofEntries entries = entries := by
  rw [ofEntries, foldl_insert (by simpa [keys] using h), List.nil_append]

theorem mem_of_mem_insert {d : Document} {name : String} {v : Json} {e : String × Json}
    (h : e ∈ Document.insert d name v) : e ∈ d ∨ e = (name, v) := by
  induction d with
  | nil => exact .inr (List.mem_singleton.1 h)
  | cons x r ih =>
      by_cases hx : x.1 = name
      · rw [insert, if_pos hx, List.mem_cons] at h
        exact h.symm.imp (List.mem_cons_of_mem x) fun he => hx ▸ he
      · rw [insert, if_neg hx, List.mem_cons] at h
        rcases h with rfl | hr
        · exact .inl List.mem_cons_self
        · exact (ih hr).imp_left (List.mem_cons_of_mem x)

theorem mem_of_mem_ofEntries {entries : List (String × Json)} {e : String × Json}
    (h : e ∈ ofEntries entries) : e ∈ entries := by
  have step (d : Document) (hd : e ∈ entries.foldl (fun d x => Document.insert d x.1 x.2) d) :
      e ∈ d ∨ e ∈ entries := by
    clear h
    induction entries generalizing d with
    | nil => exact .inl hd
    | cons x r ih =>
        rcases ih (Document.insert d x.1 x.2) hd with hinsert | hr
        · rcases mem_of_mem_insert hinsert with hmem | rfl
          · exact .inl hmem
          · exact .inr List.mem_cons_self
        · exact .inr (List.mem_cons_of_mem x hr)
  exact (step [] h).resolve_left nofun

theorem get?_append (d e : Document) (name : String) :
    Document.get? (d ++ e) name = (d.get? name).or (e.get? name) := by
  induction d with
  | nil => rfl
  | cons x r ih =>
      by_cases hx : x.1 = name
      · rw [List.cons_append, get?, get?, if_pos hx, if_pos hx, Option.some_or]
      · rw [List.cons_append, get?, get?, if_neg hx, if_neg hx, ih]

theorem get?_of_mem {d : Document} (h : d.keys.Nodup) {name : String} {v : Json}
    (hmem : (name, v) ∈ d) : d.get? name = some v := by
  induction d with
  | nil => cases hmem
  | cons e r ih =>
      obtain ⟨hnew, hr⟩ := List.nodup_cons.1 h
      rcases List.mem_cons.1 hmem with rfl | hmem
      · exact if_pos rfl
      · have hne : ¬ e.1 = name := fun he => hnew (he ▸ List.mem_map.2 ⟨(name, v), hmem, rfl⟩)
        rw [get?, if_neg hne]
        exact ih hr hmem

end Document

namespace Projection

theorem get?_takeFrom {fields : List FieldName} {left : Document} (h : left.keys.Nodup)
    (taken : Document) (name : String) :
    (takeFrom fields left taken).get? name =
      if name ∈ fields.map (·.text) then (left.get? name).or (taken.get? name)
      else taken.get? name := by
  induction fields generalizing left taken with
  | nil => rfl
  | cons f r ih =>
      cases hf : left.get? f.text with
      | none =>
          rw [takeFrom, hf, ih h]
          by_cases hname : f.text = name
          · subst hname
            simp [hf]
          · have hne : ¬ name = f.text := fun he => hname he.symm
            simp [hne]
      | some v =>
          rw [takeFrom, hf]
          dsimp only
          rw [ih (Document.nodup_erase h f.text), Document.get?_erase h, Document.get?_insert]
          by_cases hname : f.text = name
          · subst hname
            simp [hf]
          · have hne : ¬ name = f.text := fun he => hname he.symm
            simp [hname, hne]

/-- A projection keeps the values of its fields and of no others. -/
theorem get?_apply {d : Document} (h : d.keys.Nodup) (p : Projection) (name : String) :
    (p.apply d).get? name = if name ∈ p.fields.map (·.text) then d.get? name else none := by
  rw [apply, get?_takeFrom h]
  simp only [Document.get?, Option.or_none]

theorem mem_keep (p : Projection) (f g : FieldName) :
    g ∈ (p.keep f).fields ↔ g ∈ p.fields ∨ g = f := by
  unfold keep
  by_cases h : f ∈ p.fields
  · rw [if_pos h]
    refine ⟨.inl, ?_⟩
    rintro (hg | rfl)
    · exact hg
    · exact h
  · rw [if_neg h, List.mem_append, List.mem_singleton]

theorem mem_foldl_keep (fields : List FieldName) (p : Projection) (g : FieldName) :
    g ∈ (fields.foldl keep p).fields ↔ g ∈ p.fields ∨ g ∈ fields := by
  induction fields generalizing p with
  | nil => simp
  | cons f r ih => rw [List.foldl_cons, ih, mem_keep, List.mem_cons, or_assoc]

end Projection

end EventRollup
