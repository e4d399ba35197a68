import EventRollup.Json.Value

namespace EventRollup

abbrev Document := List (String × Json)

namespace Document

def get? : Document → String → Option Json
  | [], _ => none
  | (k, v) :: r, name => if k = name then some v else get? r name

def keys (d : Document) : List String := d.map Prod.fst

/-- Sets a field: a present one keeps its place, a new one goes last. -/
def insert : Document → String → Json → Document
  | [], name, v => [(name, v)]
  | (k, w) :: r, name, v => if k = name then (k, v) :: r else (k, w) :: insert r name v

/-- Removes a field; the last entry moves into its place. -/
def erase : Document → String → Document
  | [], _ => []
  | (k, v) :: r, name =>
    if k = name then
      match r.getLast? with
      | none => []
      | some last => last :: r.dropLast
    else (k, v) :: erase r name

/-- Adds the entries one after another, so of two with one name the later value stays in the place
of the earlier. -/
def ofEntries (entries : List (String × Json)) : Document :=
  entries.foldl (fun d e => Document.insert d e.1 e.2) []

theorem get?_eq_none_iff {d : Document} {name : String} : d.get? name = none ↔ name ∉ d.keys := by
  induction d with
  | nil => simp [get?, keys]
  | cons e r ih =>
    by_cases h : e.1 = name
    · simp [get?, keys, h]
    · have h' : ¬ name = e.1 := fun he => h he.symm
      simpa [get?, keys, h, h'] using ih

theorem get?_insert (d : Document) (k : String) (v : Json) (name : String) :
    (Document.insert d k v).get? name = if k = name then some v else d.get? name := by
  induction d with
  | nil => rfl
  | cons e r ih =>
    by_cases h : e.1 = k
    · by_cases hk : k = name <;> simp [insert, get?, h, hk]
    · by_cases hn : e.1 = name
      · have hk : ¬ k = name := fun hk => h (hn.trans hk.symm)
        simp only [insert, if_neg h, get?, if_pos hn, if_neg hk]
      · simp only [insert, get?, h, hn, if_false]
        exact ih

theorem keys_insert (d : Document) (k : String) (v : Json) :
    (Document.insert d k v).keys = if k ∈ d.keys then d.keys else d.keys ++ [k] := by
  induction d with
  | nil => rfl
  | cons e r ih =>
    by_cases h : e.1 = k
    · simp [insert, keys, h]
    · have h' : ¬ k = e.1 := fun he => h he.symm
      simp only [keys] at ih
      simp only [insert, h, if_false, keys, List.map_cons, List.mem_cons, h', false_or, ih]
      exact apply_ite (e.1 :: ·) _ _ _

theorem nodup_insert {d : Document} (h : d.keys.Nodup) (k : String) (v : Json) :
    (Document.insert d k v).keys.Nodup := by
  rw [keys_insert]
  split
  · exact h
  · rename_i hk
    exact List.nodup_append.2 ⟨h, by simp, fun a ha b hb => by
      rw [List.mem_singleton.1 hb]
      exact fun he => hk (he ▸ ha)⟩

theorem nodup_ofEntries (entries : List (String × Json)) : (ofEntries entries).keys.Nodup := by
  have step (d : Document) (hd : d.keys.Nodup) :
      (entries.foldl (fun d e => Document.insert d e.1 e.2) d).keys.Nodup := by
    induction entries generalizing d with
    | nil => exact hd
    | cons e r ih => exact ih (Document.insert d e.1 e.2) (nodup_insert hd e.1 e.2)
  exact step [] List.nodup_nil

theorem erase_perm (d : Document) (name : String) :
    (d.erase name).Perm (List.eraseP (fun e => e.1 = name) d) := by
  induction d with
  | nil => exact List.Perm.refl _
  | cons e r ih =>
    by_cases h : e.1 = name
    · rw [List.eraseP_cons_of_pos (by simpa using h)]
      cases hl : r.getLast? with
      | none =>
        rw [List.getLast?_eq_none_iff] at hl
        simp [erase, h, hl]
      | some last =>
        simp only [erase, h, if_true, hl]
        obtain ⟨front, rfl⟩ := List.getLast?_eq_some_iff.1 hl
        rw [List.dropLast_concat]
        exact List.perm_append_singleton last front |>.symm
    · rw [List.eraseP_cons_of_neg (by simpa using h)]
      simp only [erase, h, if_false]
      exact ih.cons e

theorem get?_perm {d e : Document} (h : d.Perm e) (hd : d.keys.Nodup) (name : String) :
    d.get? name = e.get? name := by
  induction h with
  | nil => rfl
  | cons x _ ih =>
    simp only [get?]
    rw [ih (List.nodup_cons.1 hd).2]
  | swap x y l =>
    have hne : y.1 ≠ x.1 := fun he => by simp [keys, he] at hd
    by_cases hx : x.1 = name
    · have hy : ¬ y.1 = name := fun hy => hne (hy.trans hx.symm)
      simp [get?, hx, hy]
    · simp [get?, hx]
  | trans h₁ _ ih₁ ih₂ =>
    rw [ih₁ hd, ih₂ ((h₁.map Prod.fst).nodup_iff.1 hd)]

theorem nodup_erase {d : Document} (h : d.keys.Nodup) (name : String) :
    (d.erase name).keys.Nodup :=
  ((erase_perm d name).map Prod.fst).nodup_iff.2 (h.sublist (List.eraseP_sublist.map Prod.fst))

theorem get?_eraseP {d : Document} (h : d.keys.Nodup) (name other : String) :
    get? (List.eraseP (fun e => e.1 = name) d) other =
      if name = other then none else d.get? other := by
  induction d with
  | nil => simp [get?]
  | cons e r ih =>
    obtain ⟨hmem, hr⟩ := List.nodup_cons.1 h
    by_cases he : e.1 = name
    · rw [List.eraseP_cons_of_pos (by simpa using he)]
      by_cases ho : name = other
      · rw [if_pos ho, get?_eq_none_iff, ← ho, ← he]
        exact hmem
      · simp [get?, he, ho]
    · rw [List.eraseP_cons_of_neg (by simpa using he)]
      by_cases hx : e.1 = other
      · have ho : ¬ name = other := fun ho => he (hx.trans ho.symm)
        simp [get?, hx, ho]
      · simp only [get?, hx, if_false]
        exact ih hr

theorem get?_erase {d : Document} (h : d.keys.Nodup) (name other : String) :
    (d.erase name).get? other = if name = other then none else d.get? other := by
  rw [get?_perm (erase_perm d name) (nodup_erase h name), get?_eraseP h]

end Document

end EventRollup
