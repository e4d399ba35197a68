import EventRollup.Json.Record
import Mathlib.Data.List.Nodup
import Mathlib.Logic.Equiv.Defs

namespace EventRollup.RecordReader

variable {Field Fault Record : Type}

section Given

variable (R : RecordReader Field Fault Record)

/-- The fields that the entries of an object spell, in their order. -/
def spelled (entries : List (String × Json)) : List Field :=
  entries.filterMap fun e => R.field? e.1

def SpelledOnce (entries : List (String × Json)) : Prop := (R.spelled entries).Nodup

instance [DecidableEq Field] (entries : List (String × Json)) :
    Decidable (R.SpelledOnce entries) :=
  inferInstanceAs (Decidable (R.spelled entries).Nodup)

def given (entries : List (String × Json)) : List (Field × Json) :=
  entries.filterMap fun e => (R.field? e.1).map fun f => (f, e.2)

end Given

variable {R : RecordReader Field Fault Record} {entries : List (String × Json)}
variable {f : Field} {k : String} {v : Json}

theorem spelled_cons_none (h : R.field? k = none) :
    R.spelled ((k, v) :: entries) = R.spelled entries :=
  List.filterMap_cons_none h

theorem spelled_cons_some (h : R.field? k = some f) :
    R.spelled ((k, v) :: entries) = f :: R.spelled entries :=
  List.filterMap_cons_some h

theorem given_cons_none (h : R.field? k = none) : R.given ((k, v) :: entries) = R.given entries :=
  List.filterMap_cons_none (by rw [h]; rfl)

theorem given_cons_some (h : R.field? k = some f) :
    R.given ((k, v) :: entries) = (f, v) :: R.given entries :=
  List.filterMap_cons_some (by rw [h]; rfl)

theorem mem_given : (f, v) ∈ R.given entries ↔ ∃ e ∈ entries, R.field? e.1 = some f ∧ e.2 = v := by
  simp [given]

theorem map_fst_given : (R.given entries).map Prod.fst = R.spelled entries := by
  rw [given, spelled, List.map_filterMap]
  congr 1
  funext e
  cases R.field? e.1 <;> rfl

theorem mem_spelled : f ∈ R.spelled entries ↔ ∃ v, (f, v) ∈ R.given entries := by
  rw [← map_fst_given, List.mem_map]
  constructor
  · rintro ⟨⟨g, v⟩, hmem, rfl⟩
    exact ⟨v, hmem⟩
  · rintro ⟨v, hmem⟩
    exact ⟨(f, v), hmem, rfl⟩

theorem SpelledOnce.unique (h : R.SpelledOnce entries) {w : Json} (hv : (f, v) ∈ R.given entries)
    (hw : (f, w) ∈ R.given entries) : v = w := by
  rw [SpelledOnce, ← map_fst_given] at h
  exact congrArg Prod.snd (List.inj_on_of_nodup_map h hv hw rfl)

variable [DecidableEq Field]

/-- A record is the values of its fields, and what is read for a field goes into that field and
depends on nothing else. -/
structure FieldWise (R : RecordReader Field Fault Record) (Value : Field → Type) where
  fields : Record ≃ ((f : Field) → Value f)
  parse : (f : Field) → Json → Option (Value f)
  read_eq : ∀ (f : Field) (v : Json) (r : Record), (R.read f v r).toOption =
    (parse f v).map fun x => fields.symm (Function.update (fields r) f x)

namespace FieldWise

variable {Value : Field → Type} (W : FieldWise R Value)

/-- The value a field comes to: what is read from its entry, or its default where it has none. -/
def Tells (defaults : Record) (entries : List (String × Json)) (f : Field) (x : Value f) : Prop :=
  (∀ v, (f, v) ∈ R.given entries → W.parse f v = some x) ∧
    (f ∉ R.spelled entries → x = W.fields defaults f)

variable {W}

theorem read_eq_ok_iff {r s : Record} : R.read f v r = .ok s ↔
    W.parse f v = some (W.fields s f) ∧ ∀ g, g ≠ f → W.fields s g = W.fields r g := by
  have hread := W.read_eq f v r
  constructor
  · intro h
    rw [h] at hread
    obtain ⟨x, hx, hs⟩ := Option.map_eq_some_iff.1 hread.symm
    rw [← hs, Equiv.apply_symm_apply]
    exact ⟨by rw [hx, Function.update_self], fun g hg => Function.update_of_ne hg _ _⟩
  · rintro ⟨hx, hother⟩
    have hs : Function.update (W.fields r) f (W.fields s f) = W.fields s := by
      funext g
      by_cases hg : g = f
      · subst hg
        rw [Function.update_self]
      · rw [Function.update_of_ne hg, hother g hg]
    rw [hx, Option.map_some, hs, Equiv.symm_apply_apply] at hread
    cases hr : R.read f v r with
    | error fault =>
        rw [hr] at hread
        cases hread
    | ok t =>
        rw [hr] at hread
        rw [Option.some.inj hread]

theorem tells_cons_iff (hk : R.field? k = some f) {r s t : Record}
    (hself : W.fields t f = W.fields s f) (hother : ∀ g, g ≠ f → W.fields t g = W.fields r g) :
    (∀ g, W.Tells r ((k, v) :: entries) g (W.fields s g)) ↔
      W.parse f v = some (W.fields s f) ∧ ∀ g, W.Tells t entries g (W.fields s g) := by
  simp only [Tells, spelled_cons_some hk, given_cons_some hk]
  constructor
  · intro h
    refine ⟨(h f).1 v List.mem_cons_self, fun g => ⟨fun w hw => ?_, fun hg => ?_⟩⟩
    · exact (h g).1 w (List.mem_cons_of_mem _ hw)
    · by_cases hgf : g = f
      · rw [hgf, hself]
      · rw [hother g hgf]
        exact (h g).2 fun hmem => (List.mem_cons.1 hmem).elim hgf hg
  · rintro ⟨hparse, h⟩ g
    refine ⟨fun w hw => ?_, fun hg => ?_⟩
    · rcases List.mem_cons.1 hw with he | hw
      · cases he
        exact hparse
      · exact (h g).1 w hw
    · rw [List.mem_cons, not_or] at hg
      rw [(h g).2 hg.2, hother g hg.1]

theorem readEntries_seen_eq_ok_iff {seen : List Field} {r s : Record} :
    R.readEntries seen entries r = .ok s ↔ R.SpelledOnce entries ∧
      (∀ f ∈ R.spelled entries, f ∉ seen) ∧ ∀ f, W.Tells r entries f (W.fields s f) := by
  induction entries generalizing seen r with
  | nil =>
      have hnil : (∀ f, W.Tells r [] f (W.fields s f)) ↔ r = s := by
        constructor
        · intro h
          refine W.fields.injective (funext fun f => ?_)
          exact ((h f).2 List.not_mem_nil).symm
        · rintro rfl f
          exact ⟨fun v hv => absurd hv List.not_mem_nil, fun _ => rfl⟩
      rw [readEntries, Except.ok.injEq, hnil]
      exact ⟨fun h => ⟨List.nodup_nil, fun f hf => absurd hf List.not_mem_nil, h⟩, fun h => h.2.2⟩
  | cons e entries ih =>
      obtain ⟨k, v⟩ := e
      cases hk : R.field? k with
      | none =>
          simp only [readEntries, hk, SpelledOnce, Tells, spelled_cons_none hk, given_cons_none hk]
          exact ih
      | some f =>
          simp only [readEntries, hk, SpelledOnce, spelled_cons_some hk, List.nodup_cons,
            List.forall_mem_cons]
          constructor
          · intro h
            split at h
            · cases h
            rename_i hfresh
            cases hread : R.read f v r with
            | error fault =>
                rw [hread] at h
                cases h
            | ok t =>
                rw [hread] at h
                obtain ⟨hnodup, hseen, htells⟩ := ih.1 h
                obtain ⟨hparse, hother⟩ := (read_eq_ok_iff (W := W)).1 hread
                have hf : f ∉ R.spelled entries := fun hmem => hseen f hmem List.mem_cons_self
                have hself : W.fields t f = W.fields s f := ((htells f).2 hf).symm
                refine ⟨⟨hf, hnodup⟩, ⟨hfresh, fun g hg hmem => hseen g hg (.tail f hmem)⟩, ?_⟩
                exact (tells_cons_iff hk hself hother).2 ⟨hself ▸ hparse, htells⟩
          · rintro ⟨⟨hf, hnodup⟩, ⟨hfresh, hseen⟩, htells⟩
            -- The record after the first entry, which has the value of the field in the end.
            let t := W.fields.symm (Function.update (W.fields r) f (W.fields s f))
            have hself : W.fields t f = W.fields s f := by
              rw [Equiv.apply_symm_apply, Function.update_self]
            have hother (g : Field) (hg : g ≠ f) : W.fields t g = W.fields r g := by
              rw [Equiv.apply_symm_apply, Function.update_of_ne hg]
            obtain ⟨hparse, htells⟩ := (tells_cons_iff hk hself hother).1 htells
            have hread : R.read f v r = .ok t :=
              (read_eq_ok_iff (W := W)).2 ⟨hself ▸ hparse, hother⟩
            rw [if_neg hfresh, hread]
            refine ih.2 ⟨hnodup, fun g hg hmem => ?_, htells⟩
            rcases List.mem_cons.1 hmem with rfl | hmem
            · exact hf hg
            · exact hseen g hg hmem

/-- An object is read as a record exactly if it spells no field twice and every field comes to the
value that the record has there. -/
theorem readEntries_eq_ok_iff {defaults r : Record} : R.readEntries [] entries defaults = .ok r ↔
    R.SpelledOnce entries ∧ ∀ f, W.Tells defaults entries f (W.fields r f) := by
  rw [readEntries_seen_eq_ok_iff (W := W)]
  exact ⟨fun h => ⟨h.1, h.2.2⟩, fun h => ⟨h.1, fun _ _ => List.not_mem_nil, h.2⟩⟩

end FieldWise

/-- What the values of fields come to beyond their spelling. `content` is what a value says, `absent`
what is said by no value at all, and `settle` leaves of a value what matters. `Proper` values that
say the same matter alike. -/
structure Sense {Value : Field → Type} (W : FieldWise R Value) (defaults : Record) where
  Content : Field → Type
  content : (f : Field) → Json → Content f
  absent : (f : Field) → Content f
  settle : (f : Field) → Value f → Value f
  Proper : Field → Json → Prop
  agrees : ∀ (f : Field) {v w : Json}, Proper f v → Proper f w → content f v = content f w →
    (W.parse f v).map (settle f) = (W.parse f w).map (settle f)
  idle : ∀ (f : Field) {v : Json}, content f v = absent f →
    (W.parse f v).map (settle f) = some (settle f (W.fields defaults f))

namespace Sense

variable {Value : Field → Type} {W : FieldWise R Value} {defaults : Record} (S : Sense W defaults)

def States (entries : List (String × Json)) (f : Field) (c : S.Content f) : Prop :=
  c ≠ S.absent f ∧ ∃ v, (f, v) ∈ R.given entries ∧ S.content f v = c

variable {S}

theorem settle_of_silent {x : Value f} (h : ∀ c, ¬ S.States entries f c)
    (hx : W.Tells defaults entries f x) : S.settle f x = S.settle f (W.fields defaults f) := by
  by_cases hf : f ∈ R.spelled entries
  · obtain ⟨v, hv⟩ := mem_spelled.1 hf
    have hcontent : S.content f v = S.absent f := by
      by_contra hne
      exact h _ ⟨hne, v, hv, rfl⟩
    have hidle := S.idle f hcontent
    rw [hx.1 v hv] at hidle
    exact Option.some.inj hidle
  · rw [hx.2 hf]

/-- Of two objects that say the same of a field, one gives it a value if the other does, and the
values matter alike. -/
theorem tells_congr {entries' : List (String × Json)} (h' : R.SpelledOnce entries')
    (hp : ∀ v, (f, v) ∈ R.given entries → S.Proper f v)
    (hp' : ∀ v, (f, v) ∈ R.given entries' → S.Proper f v)
    (hstates : S.States entries f = S.States entries' f) {x : Value f}
    (hx : W.Tells defaults entries f x) :
    ∃ y, W.Tells defaults entries' f y ∧ S.settle f y = S.settle f x := by
  by_cases hf : f ∈ R.spelled entries'
  · obtain ⟨w, hw⟩ := mem_spelled.1 hf
    have hread : (W.parse f w).map (S.settle f) = some (S.settle f x) := by
      by_cases hcontent : S.content f w = S.absent f
      · have hsilent : ∀ c, ¬ S.States entries f c := by
          rw [hstates]
          rintro c ⟨hne, u, hu, rfl⟩
          exact hne (h'.unique hw hu ▸ hcontent)
        rw [S.idle f hcontent, settle_of_silent hsilent hx]
      · have hsaid : S.States entries f (S.content f w) := hstates ▸ ⟨hcontent, w, hw, rfl⟩
        obtain ⟨-, v, hv, hvw⟩ := hsaid
        rw [← S.agrees f (hp v hv) (hp' w hw) hvw, hx.1 v hv, Option.map_some]
    obtain ⟨y, hy, hyx⟩ := Option.map_eq_some_iff.1 hread
    exact ⟨y, ⟨fun u hu => h'.unique hw hu ▸ hy, fun hnot => absurd hf hnot⟩, hyx⟩
  · have hsilent : ∀ c, ¬ S.States entries f c := by
      rw [hstates]
      rintro c ⟨-, u, hu, -⟩
      exact hf (mem_spelled.2 ⟨u, hu⟩)
    exact ⟨W.fields defaults f, ⟨fun u hu => absurd (mem_spelled.2 ⟨u, hu⟩) hf, fun _ => rfl⟩,
      (settle_of_silent hsilent hx).symm⟩

end Sense

inductive Respelt (Idle : String × Json → Prop) (Same : String × Json → String × Json → Prop) :
    List (String × Json) → List (String × Json) → Prop
  | reordered {entries entries' : List (String × Json)} (h : entries.Perm entries') :
      Respelt Idle Same entries entries'
  | added (before after : List (String × Json)) {e : String × Json} (h : Idle e) :
      Respelt Idle Same (before ++ after) (before ++ e :: after)
  | rewritten (before after : List (String × Json)) {e e' : String × Json} (h : Same e e') :
      Respelt Idle Same (before ++ e :: after) (before ++ e' :: after)

namespace Sense

variable {Value : Field → Type} {W : FieldWise R Value} {defaults : Record} (S : Sense W defaults)

theorem states_cons (e : String × Json) (f : Field) (c : S.Content f) :
    S.States (e :: entries) f c ↔
      (c ≠ S.absent f ∧ R.field? e.1 = some f ∧ S.content f e.2 = c) ∨ S.States entries f c := by
  simp only [States, mem_given, List.mem_cons]
  constructor
  · rintro ⟨hne, v, ⟨d, rfl | hd, hf, rfl⟩, hc⟩
    · exact .inl ⟨hne, hf, hc⟩
    · exact .inr ⟨hne, d.2, ⟨d, hd, hf, rfl⟩, hc⟩
  · rintro (⟨hne, hf, hc⟩ | ⟨hne, v, ⟨d, hd, hf, hv⟩, hc⟩)
    · exact ⟨hne, e.2, ⟨e, .inl rfl, hf, rfl⟩, hc⟩
    · exact ⟨hne, v, ⟨d, .inr hd, hf, hv⟩, hc⟩

theorem states_perm {entries' : List (String × Json)} (h : entries.Perm entries') :
    S.States entries = S.States entries' := by
  funext f c
  simp only [States, mem_given, h.mem_iff]

theorem states_respelt {Idle : String × Json → Prop} {Same : String × Json → String × Json → Prop}
    (hidle : ∀ e, Idle e → ∀ f, R.field? e.1 = some f → S.content f e.2 = S.absent f)
    (hsame : ∀ e e', Same e e' → R.field? e.1 = R.field? e'.1 ∧
      ∀ f, R.field? e.1 = some f → S.content f e.2 = S.content f e'.2)
    {entries entries' : List (String × Json)} (h : Respelt Idle Same entries entries') :
    S.States entries = S.States entries' := by
  cases h with
  | reordered hperm => exact S.states_perm hperm
  | @added before after e h =>
      rw [S.states_perm (List.perm_middle (a := e))]
      funext f c
      refine propext ⟨fun hc => (S.states_cons e f c).2 (.inr hc), fun hc => ?_⟩
      refine ((S.states_cons e f c).1 hc).resolve_left ?_
      rintro ⟨hne, hf, he⟩
      exact hne (he ▸ hidle e h f hf)
  | @rewritten before after e e' h =>
      obtain ⟨hfield, hcontent⟩ := hsame e e' h
      rw [S.states_perm (List.perm_middle (a := e)), S.states_perm (List.perm_middle (a := e'))]
      funext f c
      rw [states_cons, states_cons, ← hfield]
      refine propext (or_congr_left (and_congr_right fun _ => and_congr_right fun hf => ?_))
      rw [hcontent f hf]

end Sense

namespace FieldWise

variable {Value : Field → Type} (W : FieldWise R Value)

def plainSense (defaults : Record) : Sense W defaults where
  Content f := Option (Value f)
  content := W.parse
  absent f := some (W.fields defaults f)
  settle _ x := x
  Proper _ _ := True
  agrees f v w _ _ h := by rw [h]
  idle f v h := by rw [h, Option.map_some]

theorem plainSense_congr (defaults : Record) {f : Field} {v w : Json}
    (h : W.parse f v = W.parse f w) :
    (W.plainSense defaults).content f v = (W.plainSense defaults).content f w := h

theorem readEntries_congr {defaults : Record} {entries' : List (String × Json)}
    (h : R.SpelledOnce entries) (h' : R.SpelledOnce entries')
    (hstates : (W.plainSense defaults).States entries = (W.plainSense defaults).States entries') :
    (R.readEntries [] entries defaults).toOption = (R.readEntries [] entries' defaults).toOption := by
  have hone {a b : List (String × Json)} (hb : R.SpelledOnce b)
      (hab : (W.plainSense defaults).States a = (W.plainSense defaults).States b) {r : Record}
      (hr : R.readEntries [] a defaults = .ok r) : R.readEntries [] b defaults = .ok r := by
    obtain ⟨-, htells⟩ := (readEntries_eq_ok_iff (W := W)).1 hr
    refine (readEntries_eq_ok_iff (W := W)).2 ⟨hb, fun f => ?_⟩
    obtain ⟨y, hy, hyr⟩ := Sense.tells_congr (S := W.plainSense defaults) hb (fun _ _ => trivial)
      (fun _ _ => trivial) (congrFun hab f) (htells f)
    have hyr : y = W.fields r f := hyr
    exact hyr ▸ hy
  cases hr : R.readEntries [] entries defaults with
  | ok r => rw [hone h' hstates hr]
  | error fault =>
      cases hr' : R.readEntries [] entries' defaults with
      | error fault' => rfl
      | ok r =>
          rw [hone h hstates.symm hr'] at hr
          cases hr

end FieldWise

section Items

variable {spell : Field → String} {fields : List Field} {items : List Json}

omit [DecidableEq Field] in
theorem spelled_zip (hspell : ∀ f, R.field? (spell f) = some f) :
    R.spelled ((fields.map spell).zip items) = fields.take items.length := by
  induction fields generalizing items with
  | nil => simp [spelled]
  | cons f fields ih =>
      cases items with
      | nil => rfl
      | cons v items =>
          rw [List.map_cons, List.zip_cons_cons, spelled_cons_some (hspell f), ih, List.length_cons,
            List.take_succ_cons]

/-- An array that is not too long is read as the object that names its items. -/
theorem readItems_eq_readEntries (hspell : ∀ f, R.field? (spell f) = some f) (hnodup : fields.Nodup)
    {seen : List Field} (hseen : ∀ f ∈ fields, f ∉ seen) (hlength : items.length ≤ fields.length)
    (r : Record) :
    R.readItems fields items r = R.readEntries seen ((fields.map spell).zip items) r := by
  induction fields generalizing items seen r with
  | nil =>
      rw [List.length_nil, Nat.le_zero, List.length_eq_zero_iff] at hlength
      rw [hlength]
      rfl
  | cons f fields ih =>
      cases items with
      | nil => rfl
      | cons v items =>
          obtain ⟨hf, hnodup⟩ := List.nodup_cons.1 hnodup
          obtain ⟨hfresh, hrest⟩ := List.forall_mem_cons.1 hseen
          rw [List.map_cons, List.zip_cons_cons, readItems, readEntries, hspell]
          simp only [if_neg hfresh]
          cases R.read f v r with
          | error fault => rfl
          | ok s =>
              refine ih hnodup (fun g hg hmem => ?_) (Nat.le_of_succ_le_succ hlength) s
              rcases List.mem_cons.1 hmem with rfl | hmem
              · exact hf hg
              · exact hrest g hg hmem

omit [DecidableEq Field] in
theorem readItems_too_long (hlength : fields.length < items.length) (r : Record) :
    (R.readItems fields items r).toOption = none := by
  induction fields generalizing items r with
  | nil =>
      cases items with
      | nil => exact absurd hlength (Nat.lt_irrefl 0)
      | cons v items => rfl
  | cons f fields ih =>
      cases items with
      | nil => exact absurd hlength (Nat.not_lt_zero _)
      | cons v items =>
          rw [readItems]
          cases R.read f v r with
          | error fault => rfl
          | ok s => exact ih (Nat.lt_of_succ_lt_succ hlength) s

/-- The object that an object or an array is read as, with `spell` for the names of the items. -/
def entriesOf (R : RecordReader Field Fault Record) (spell : Field → String) :
    Json → Option (List (String × Json))
  | .object entries => some entries
  | .array items =>
    if items.length ≤ R.order.length then some ((R.order.map spell).zip items) else none
  | _ => none

theorem readFrom_eq_bind (hspell : ∀ f, R.field? (spell f) = some f) (horder : R.order.Nodup)
    (defaults : Record) (v : Json) : (R.readFrom defaults v).toOption =
      (R.entriesOf spell v).bind fun entries => (R.readEntries [] entries defaults).toOption := by
  cases v with
  | object entries => rfl
  | array items =>
      rw [readFrom, entriesOf]
      split
      · rename_i hlength
        rw [readItems_eq_readEntries hspell horder (fun _ _ => List.not_mem_nil) hlength,
          Option.bind_some]
      · rename_i hlength
        exact readItems_too_long (Nat.lt_of_not_le hlength) defaults
  | _ => rfl

def SpelledOnceIn (R : RecordReader Field Fault Record) : Json → Prop
  | .object entries => R.SpelledOnce entries
  | _ => True

instance (v : Json) : Decidable (R.SpelledOnceIn v) := by
  cases v with
  | object entries => exact inferInstanceAs (Decidable (R.SpelledOnce entries))
  | _ => exact isTrue trivial

omit [DecidableEq Field] in
theorem SpelledOnceIn.entriesOf (hspell : ∀ f, R.field? (spell f) = some f) (horder : R.order.Nodup)
    (h : R.SpelledOnceIn v) {entries : List (String × Json)} (he : R.entriesOf spell v = some entries) :
    R.SpelledOnce entries := by
  cases v with
  | object entries' => exact Option.some.inj he ▸ h
  | array items =>
      rw [RecordReader.entriesOf] at he
      split at he
      · rw [← Option.some.inj he, SpelledOnce, spelled_zip hspell]
        exact (List.take_sublist _ _).nodup horder
      · cases he
  | _ => cases he

namespace FieldWise

variable {Value : Field → Type} (W : FieldWise R Value)

def sense (spell : Field → String) (defaults : Record) (v : Json) :
    Option ((f : Field) → (W.plainSense defaults).Content f → Prop) :=
  (R.entriesOf spell v).map (W.plainSense defaults).States

theorem readFrom_congr {defaults : Record} (hspell : ∀ f, R.field? (spell f) = some f)
    (horder : R.order.Nodup) {v w : Json} (hv : R.SpelledOnceIn v) (hw : R.SpelledOnceIn w)
    (h : W.sense spell defaults v = W.sense spell defaults w) :
    (R.readFrom defaults v).toOption = (R.readFrom defaults w).toOption := by
  rw [readFrom_eq_bind hspell horder, readFrom_eq_bind hspell horder]
  rw [sense, sense] at h
  cases ha : R.entriesOf spell v with
  | none =>
      rw [ha, Option.map_none, eq_comm, Option.map_eq_none_iff] at h
      rw [h]
  | some a =>
      rw [ha, Option.map_some, eq_comm, Option.map_eq_some_iff] at h
      obtain ⟨b, hb, hab⟩ := h
      rw [hb, Option.bind_some, Option.bind_some]
      exact W.readEntries_congr (hv.entriesOf hspell horder ha) (hw.entriesOf hspell horder hb)
        hab.symm

end FieldWise

end Items

end EventRollup.RecordReader
