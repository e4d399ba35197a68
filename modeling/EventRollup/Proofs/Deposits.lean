import EventRollup.Proofs.StoreCalls

namespace EventRollup

/-- A document as it is stored, apart from an identifier that the store has given it. That is told by
its number. -/
structure Deposit where
  document : Document
  number : Option Nat
deriving DecidableEq

namespace Deposit

/-- What becomes of a document when so many identifiers are given out already. -/
def of (d : Document) (issued : Nat) : Deposit :=
  ⟨d, if groupKey ∈ d.keys then none else some (issued + 1)⟩

def stored (ids : Nat → Json) (x : Deposit) : Document :=
  x.number.elim x.document fun n => x.document ++ [(groupKey, ids n)]

def identifier (ids : Nat → Json) (x : Deposit) : Json :=
  x.number.elim ((x.document.get? groupKey).getD .null) ids

def numbers (xs : List Deposit) : List Nat := xs.filterMap (·.number)

theorem stored_of (ids : Nat → Json) (d : Document) (n : Nat) :
    (of d n).stored ids = d.identified (ids (n + 1)) := by
  unfold of stored Document.identified
  split <;> rfl

end Deposit

theorem Store.insertOne_fst (s : Store) (ns : String) (d : Document) :
    (s.insertOne ns d).1 = (Deposit.of d s.issued).identifier s.identifier := by
  unfold insertOne Deposit.of Deposit.identifier
  split
  · rename_i id hid
    rw [if_pos (Document.mem_keys_of_get? hid), hid]
    rfl
  · rename_i hnone
    rw [if_neg (Document.get?_eq_none_iff.1 hnone)]
    rfl

theorem Store.issued_insertOne (s : Store) (ns : String) (d : Document) :
    (s.insertOne ns d).2.issued = s.issued + (Deposit.numbers [.of d s.issued]).length := by
  unfold insertOne Deposit.of
  split
  · rename_i id hid
    rw [if_pos (Document.mem_keys_of_get? hid)]
    rfl
  · rename_i hnone
    rw [if_neg (Document.get?_eq_none_iff.1 hnone)]
    rfl

theorem Service.insert_eq (s : Service) (now : Instant) (b : Backend) (ns : String) (d : Document) :
    s.insert now b ns d =
      match s.prepare now ns d, b.outage with
      | .error e, _ => (.own (.error e), b)
      | .ok x, some text => (⟨[.insertOne ns x], .error (.store (.outage text))⟩, b)
      | .ok x, none =>
        (⟨[.insertOne ns x], .ok ((Deposit.of x b.store.issued).identifier b.store.identifier)⟩,
          { b with store := (b.store.insertOne ns x).2 }) := by
  unfold insert
  cases s.prepare now ns d with
  | error e => rfl
  | ok x =>
      cases houtage : b.outage with
      | some text => simp only [Backend.insertOne, houtage]
      | none => simp only [Backend.insertOne, houtage, Store.insertOne_fst]

theorem Service.identifier_insert (s : Service) (now : Instant) (b : Backend) (ns : String)
    (d : Document) : (s.insert now b ns d).2.store.identifier = b.store.identifier := by
  rw [insert_eq]
  split
  · rfl
  · rfl
  · exact b.store.identifier_insertOne ns _

def Step.concerns (ns : String) (step : Step) : Bool := step.namespace?.all (· == ns)

namespace Session

/-- What an insert puts into the store: the document as the service prepares it, if the service
accepts it and the store can be reached. -/
def accepted? (s : Session) (ns : String) (d : Document) : Option Deposit :=
  match s.service.prepare s.now ns d, s.backend.outage with
  | .ok x, none => some (.of x s.backend.store.issued)
  | _, _ => none

def entry (s : Session) (ns : String) (step : Step) : List Deposit :=
  match step.insertion? with
  | some (other, d) => if other = ns then (s.accepted? other d).toList else []
  | none => []

def entries (ns : String) : Session → List Step → List Deposit
  | _, [] => []
  | s, step :: r => s.entry ns step ++ entries ns (s.run step).2 r

/-- What becomes of the backend in an insert. -/
theorem insert_accepted (s : Session) (ns : String) (d : Document) :
    (s.service.insert s.now s.backend ns d).2.outage = s.backend.outage ∧
      (s.service.insert s.now s.backend ns d).2.store.issued = s.backend.store.issued +
        (Deposit.numbers (s.accepted? ns d).toList).length ∧
      ∀ other, (s.service.insert s.now s.backend ns d).2.store.documents other =
        s.backend.store.documents other ++
          if ns = other then (s.accepted? ns d).toList.map (·.stored s.backend.store.identifier)
          else [] := by
  rw [Service.insert_eq, accepted?]
  cases s.service.prepare s.now ns d with
  | error e => exact ⟨rfl, rfl, fun other => by simp⟩
  | ok x =>
      cases houtage : s.backend.outage with
      | some text => exact ⟨houtage, rfl, fun other => by simp⟩
      | none =>
          refine ⟨rfl, s.backend.store.issued_insertOne ns x, fun other => ?_⟩
          dsimp only
          rw [Store.documents_insertOne_identified, ← Deposit.stored_of]
          split
          · rfl
          · rw [List.append_nil]

theorem runAll_cons (s : Session) (step : Step) (r : List Step) : s.runAll (step :: r) =
    ((s.run step).1 :: ((s.run step).2.runAll r).1, ((s.run step).2.runAll r).2) := rfl

theorem run_insertion? (s : Session) {step : Step} {ns : String} {d : Document}
    (h : step.insertion? = some (ns, d)) :
    (s.run step).2 = { s with backend := (s.service.insert s.now s.backend ns d).2 } := by
  cases step with
  | insert other x =>
      cases h
      rfl
  | insertDetached other x =>
      cases h
      rfl
  | _ => cases h

theorem identifier_run (s : Session) (step : Step) :
    (s.run step).2.backend.store.identifier = s.backend.store.identifier := by
  cases step with
  | insert ns d => exact s.service.identifier_insert s.now s.backend ns d
  | insertDetached ns d => exact s.service.identifier_insert s.now s.backend ns d
  | query ns body =>
      simp only [run]
      split <;> rfl
  | put ns d =>
      simp only [run, Backend.insertOne]
      cases s.backend.outage with
      | some text => rfl
      | none => exact s.backend.store.identifier_insertOne ns d
  | _ => rfl

theorem entry_of_not_concerns {ns : String} {step : Step} (h : step.concerns ns = false)
    (s : Session) : s.entry ns step = [] := by
  have hne {other : String} (h : (some other).all (· == ns) = false) : ¬ other = ns := by
    simpa using h
  cases step with
  | insert other d => exact if_neg (hne h)
  | insertDetached other d => exact if_neg (hne h)
  | _ => rfl

theorem documents_run_entry (s : Session) {step : Step} (hstep : step.isServed = true)
    (ns : String) : (s.run step).2.backend.store.documents ns =
      s.backend.store.documents ns ++
        (s.entry ns step).map (·.stored s.backend.store.identifier) := by
  unfold entry
  cases hinsertion : step.insertion? with
  | none => rw [s.store_run hstep (.inl hinsertion), List.map_nil, List.append_nil]
  | some i =>
      rw [run_insertion? s hinsertion]
      dsimp only
      rw [(s.insert_accepted i.1 i.2).2.2 ns]
      split <;> rfl

/-- A step takes one number for every document without an identifier that it deposits. -/
theorem issued_run (s : Session) {step : Step} (hstep : step.isServed = true) {ns : String}
    (hns : step.concerns ns = true) : (s.run step).2.backend.store.issued =
      s.backend.store.issued + (Deposit.numbers (s.entry ns step)).length := by
  unfold entry
  cases hinsertion : step.insertion? with
  | none =>
      rw [s.store_run hstep (.inl hinsertion)]
      rfl
  | some i =>
      have hsame : i.1 = ns := by
        cases step with
        | insert other d =>
            cases hinsertion
            simpa [Step.concerns, Step.namespace?] using hns
        | insertDetached other d =>
            cases hinsertion
            simpa [Step.concerns, Step.namespace?] using hns
        | _ => cases hinsertion
      rw [run_insertion? s hinsertion]
      dsimp only
      rw [if_pos hsame, (s.insert_accepted i.1 i.2).2.1]

theorem issued_le_run (s : Session) {step : Step} (hstep : step.isServed = true) :
    s.backend.store.issued ≤ (s.run step).2.backend.store.issued := by
  have hns : step.concerns (step.namespace?.getD "") = true := by
    rw [Step.concerns]
    cases step.namespace? <;> simp
  rw [s.issued_run hstep hns]
  exact Nat.le_add_right _ _

theorem numbers_entry (s : Session) (ns : String) (step : Step) :
    Deposit.numbers (s.entry ns step) = [] ∨
      Deposit.numbers (s.entry ns step) = [s.backend.store.issued + 1] := by
  have haccepted (other : String) (d : Document) :
      Deposit.numbers (s.accepted? other d).toList = [] ∨
        Deposit.numbers (s.accepted? other d).toList = [s.backend.store.issued + 1] := by
    unfold accepted?
    split
    · unfold Deposit.of
      split
      · exact .inl rfl
      · exact .inr rfl
    · exact .inl rfl
  unfold entry
  split
  · split
    · exact haccepted _ _
    · exact .inl rfl
  · exact .inl rfl

theorem numbers_entries_cons (s : Session) (ns : String) (step : Step) (r : List Step) :
    Deposit.numbers (entries ns s (step :: r)) =
      Deposit.numbers (s.entry ns step) ++ Deposit.numbers (entries ns (s.run step).2 r) :=
  List.filterMap_append

theorem pairwise_numbers (s : Session) {steps : List Step}
    (hsteps : ∀ step ∈ steps, step.isServed = true) (ns : String) :
    (Deposit.numbers (entries ns s steps)).Pairwise (· < ·) ∧
      ∀ n ∈ Deposit.numbers (entries ns s steps), s.backend.store.issued < n := by
  induction steps generalizing s with
  | nil => exact ⟨.nil, nofun⟩
  | cons step r ih =>
      obtain ⟨hstep, hr⟩ := List.forall_mem_cons.1 hsteps
      obtain ⟨hgrow, hlater⟩ := ih (s.run step).2 hr
      rw [numbers_entries_cons]
      rcases s.numbers_entry ns step with hnone | hone
      · rw [hnone, List.nil_append]
        exact ⟨hgrow, fun n hn => Nat.lt_of_le_of_lt (s.issued_le_run hstep) (hlater n hn)⟩
      · have hns : step.concerns ns = true := by
          cases hconcerns : step.concerns ns with
          | true => rfl
          | false =>
              rw [entry_of_not_concerns hconcerns] at hone
              cases hone
        have hissued := s.issued_run hstep hns
        rw [hone, List.length_singleton] at hissued
        rw [hissued] at hlater
        rw [hone, List.singleton_append]
        refine ⟨List.pairwise_cons.2 ⟨hlater, hgrow⟩, List.forall_mem_cons.2 ⟨?_, fun n hn => ?_⟩⟩
        · exact Nat.lt_succ_self _
        · exact Nat.lt_of_succ_lt (hlater n hn)

end Session

end EventRollup
