import EventRollup.Proofs.Guarded
import EventRollup.Proofs.Store.Documents

namespace EventRollup

/-- A document that has no identifier takes the given one, behind its other fields. -/
def Document.identified (d : Document) (id : Json) : Document :=
  if groupKey ∈ d.keys then d else d ++ [(groupKey, id)]

theorem Store.documents_insertOne_identified (s : Store) (ns : String) (d : Document)
    (other : String) : (s.insertOne ns d).2.documents other =
      if ns = other then s.documents other ++ [d.identified (s.identifier (s.issued + 1))]
      else s.documents other := by
  unfold insertOne Document.identified
  split
  · rename_i id hid
    rw [if_pos (Document.mem_keys_of_get? hid)]
    exact documents_append ns other d s.collections s.ids s.issued
  · rename_i hnone
    have hnot : groupKey ∉ d.keys := Document.get?_eq_none_iff.1 hnone
    rw [if_neg hnot, ← Document.insert_of_not_mem hnot]
    exact documents_append ns other _ s.collections s.ids (s.issued + 1)

theorem Service.insert_cases (s : Service) (now : Instant) (b : Backend) (ns : String)
    (d : Document) :
    (∃ e, (s.insert now b ns d).1.result = .error e ∧ (s.insert now b ns d).2 = b) ∨
      ∃ normalized id, Event.normalize s.timestampField s.settings.encoding now d =
          .ok normalized ∧ (s.insert now b ns d).1.result = .ok id ∧
        (s.insert now b ns d).2 = { b with store := (b.store.insertOne ns normalized).2 } := by
  unfold insert
  split
  · rename_i e h
    exact .inl ⟨e, rfl, rfl⟩
  · rename_i normalized h
    obtain ⟨_, -, hnormalized⟩ := bind_eq_ok h
    cases houtage : b.outage with
    | some text =>
        simp only [Backend.insertOne, houtage]
        exact .inl ⟨_, rfl, trivial⟩
    | none =>
        simp only [Backend.insertOne, houtage]
        exact .inr ⟨normalized, _, hnormalized, rfl, rfl⟩

def Step.namespace? : Step → Option String
  | .insert ns _ => some ns
  | .insertDetached ns _ => some ns
  | .query ns _ => some ns
  | .querySpec spec => some spec.ns
  | .compile spec => some spec.ns
  | .scan r => some r.ns
  | _ => none

def Step.insertion? : Step → Option (String × Document)
  | .insert ns d => some (ns, d)
  | .insertDetached ns d => some (ns, d)
  | _ => none

def Step.isServed : Step → Bool
  | .setClock _ => true
  | .setOutage _ => true
  | step => step.namespace?.isSome

namespace Session

/-- What a request came to. That of a detached insert, which is not answered, is what the insert
would have answered. -/
def outcome (s : Session) : Step → Except Error Answer
  | .insertDetached ns d => (s.run (.insert ns d)).1.result
  | step => (s.run step).1.result

def asked? (s : Session) : Step → Option QuerySpec
  | .querySpec spec => some spec
  | .query ns body => ((QueryBody.ofJson body).bind (s.service.specOf s.now ns)).toOption
  | _ => none

/-- The document as an insert of it stores it now. -/
def stored (s : Session) (d : Document) : Except Error Document :=
  (Event.normalize s.service.timestampField s.service.settings.encoding s.now d).map
    (·.identified (s.backend.store.identifier (s.backend.store.issued + 1)))

/-- What a request adds to the documents of a namespace, which only an insert that succeeds does. -/
def added (s : Session) (ns : String) (step : Step) : List Document :=
  match step.insertion?, s.outcome step with
  | some (other, d), .ok _ => if other = ns then (s.stored d).toOption.toList else []
  | _, _ => []

def deposits (ns : String) : Session → List Step → List Document
  | _, [] => []
  | s, step :: r => s.added ns step ++ deposits ns (s.run step).2 r

/-- How a step of a session may deal with the store. -/
structure Disciplined (s : Session) (step : Step) : Prop where
  atMostOne : (s.run step).1.calls.length ≤ 1
  compiling : ∀ spec, step = .compile spec → (s.run step).1.calls = []
  refused : step.namespace?.isSome = true → (∀ spec, step ≠ .compile spec) →
    ((s.run step).1.calls = [] ↔ ∃ e, s.outcome step = .error e ∧ e.isRejection = true)
  addressed : ∀ call ∈ (s.run step).1.calls,
    step.namespace? = some call.ns ∧ s.service.settings.allows call.ns = true
  compiled : ∀ spec, s.asked? step = some spec → (s.run step).1.calls =
    match (s.run (.compile spec)).1.result with
    | .ok (.plan plan) => [.aggregate spec.ns plan.pipeline]
    | _ => []
  unchanged : (step.insertion? = none ∨ ∃ e, s.outcome step = .error e) →
    (s.run step).2.backend.store = s.backend.store

theorem start_eq_ok {settings : Settings} {opening : Instant} {ids : Nat → String} {s : Session}
    (h : start settings opening ids = .ok s) :
    s.service.settings = settings ∧ ∀ ns, s.backend.store.documents ns = [] := by
  obtain ⟨service, hservice, h⟩ := bind_eq_ok h
  obtain ⟨_, -, hservice⟩ := bind_eq_ok hservice
  obtain ⟨field, -, hservice⟩ := bind_eq_ok hservice
  rw [← Except.ok.inj h, ← Except.ok.inj hservice]
  exact ⟨rfl, fun _ => rfl⟩

theorem service_run (s : Session) (step : Step) : (s.run step).2.service = s.service := by
  cases step with
  | query ns body =>
      simp only [run]
      split <;> rfl
  | _ => rfl

theorem runAll_append (s : Session) (before after : List Step) :
    s.runAll (before ++ after) =
      ((s.runAll before).1 ++ ((s.runAll before).2.runAll after).1,
        ((s.runAll before).2.runAll after).2) := by
  induction before generalizing s with
  | nil => rfl
  | cons step r ih =>
      simp only [List.cons_append, runAll, ih]

theorem service_runAll (s : Session) (steps : List Step) :
    (s.runAll steps).2.service = s.service := by
  induction steps generalizing s with
  | nil => rfl
  | cons step r ih => exact (ih (s.run step).2).trans (s.service_run step)

theorem guarded_run (s : Session) {step : Step} {ns : String} (hns : step.namespace? = some ns)
    (hcompile : ∀ spec, step ≠ .compile spec) :
    ∃ r : Reply Answer, r.Guarded s.service.settings ns ∧ (s.run step).1.calls = r.calls ∧
      s.outcome step = r.result := by
  cases step with
  | insert other d =>
      cases hns
      exact ⟨_, (s.service.guarded_insert s.now s.backend ns d).map .identifier, rfl, rfl⟩
  | insertDetached other d =>
      cases hns
      exact ⟨_, (s.service.guarded_insert s.now s.backend ns d).map .identifier, rfl, rfl⟩
  | query other body =>
      cases hns
      refine ⟨(s.run (.query ns body)).1, ?_, rfl, rfl⟩
      cases hbody : QueryBody.ofJson body with
      | error e =>
          rw [run, hbody]
          exact .refused (QueryBody.rejectsOnly_ofJson body e hbody)
      | ok b =>
          rw [run, hbody]
          exact (s.service.guarded_queryBody s.now s.backend ns b).map Answer.rows
  | querySpec spec =>
      cases hns
      exact ⟨_, (s.service.guarded_query s.now s.backend spec).map .rows, rfl, rfl⟩
  | compile spec => exact absurd rfl (hcompile spec)
  | scan r =>
      cases hns
      exact ⟨_, (s.service.guarded_scan s.now s.backend r).map .documents, rfl, rfl⟩
  | _ => cases hns

theorem calls_cases (s : Session) {step : Step} (hstep : step.isServed = true) :
    (s.run step).1.calls = [] ∨ ∃ ns, step.namespace? = some ns ∧ ∃ r : Reply Answer,
      r.Guarded s.service.settings ns ∧ (s.run step).1.calls = r.calls := by
  by_cases hcompile : ∃ spec, step = .compile spec
  · obtain ⟨spec, rfl⟩ := hcompile
    exact .inl rfl
  · cases hns : step.namespace? with
    | none =>
        refine .inl ?_
        cases step with
        | setClock now => rfl
        | setOutage text => rfl
        | _ => simp [Step.isServed, hns] at hstep
    | some ns =>
        obtain ⟨r, hr, hcalls, -⟩ := s.guarded_run hns fun spec he => hcompile ⟨spec, he⟩
        exact .inr ⟨ns, rfl, r, hr, hcalls⟩

theorem calls_of_asked {s : Session} {step : Step} {spec : QuerySpec}
    (h : s.asked? step = some spec) : (s.run step).1.calls =
      match (s.run (.compile spec)).1.result with
      | .ok (.plan plan) => [.aggregate spec.ns plan.pipeline]
      | _ => [] := by
  have hquery : (s.service.query s.now s.backend spec).calls =
      match (s.run (.compile spec)).1.result with
      | .ok (.plan plan) => [.aggregate spec.ns plan.pipeline]
      | _ => [] := by
    simp only [run, Reply.own, Service.query]
    cases s.service.compile s.now spec <;> rfl
  cases step with
  | querySpec other =>
      cases h
      exact hquery
  | query ns body =>
      rw [← hquery]
      cases hbody : QueryBody.ofJson body with
      | error e =>
          rw [asked?, hbody] at h
          cases h
      | ok b =>
          rw [asked?, hbody] at h
          cases hspec : s.service.specOf s.now ns b with
          | error e =>
              simp only [Except.bind, hspec] at h
              cases h
          | ok read =>
              simp only [Except.bind, hspec] at h
              cases h
              simp only [run, hbody, Service.queryBody, hspec]
              rfl
  | _ => cases h

theorem insert_cases (s : Session) (ns : String) (d : Document) :
    (∃ e, (s.run (.insert ns d)).1.result = .error e ∧
        (s.run (.insert ns d)).2.backend.store = s.backend.store) ∨
      ∃ id, (s.run (.insert ns d)).1.result = .ok id ∧ ∃ stored, s.stored d = .ok stored ∧
        ∀ other, (s.run (.insert ns d)).2.backend.store.documents other =
          if ns = other then s.backend.store.documents other ++ [stored]
          else s.backend.store.documents other := by
  simp only [run]
  rcases s.service.insert_cases s.now s.backend ns d with
    ⟨e, hresult, hbackend⟩ | ⟨normalized, id, hnormalized, hresult, hbackend⟩
  · refine .inl ⟨e, ?_, congrArg Backend.store hbackend⟩
    rw [Reply.map, hresult]
    rfl
  · refine .inr ⟨.identifier id, ?_, _, congrArg (Except.map _) hnormalized, fun other => ?_⟩
    · rw [Reply.map, hresult]
      rfl
    · rw [hbackend]
      exact Store.documents_insertOne_identified s.backend.store ns normalized other

theorem store_run (s : Session) {step : Step} (hstep : step.isServed = true)
    (h : step.insertion? = none ∨ ∃ e, s.outcome step = .error e) :
    (s.run step).2.backend.store = s.backend.store := by
  have hinsert {ns : String} {d : Document} (h : ∃ e, (s.run (.insert ns d)).1.result = .error e) :
      (s.run (.insert ns d)).2.backend.store = s.backend.store := by
    rcases s.insert_cases ns d with ⟨_, -, hstore⟩ | ⟨id, hresult, -⟩
    · exact hstore
    · obtain ⟨e, he⟩ := h
      rw [hresult] at he
      cases he
  cases step with
  | insert ns d => exact hinsert (h.resolve_left (Option.some_ne_none _))
  | insertDetached ns d => exact hinsert (h.resolve_left (Option.some_ne_none _))
  | query ns body =>
      simp only [run]
      split <;> rfl
  | put ns d => cases hstep
  | clear ns => cases hstep
  | _ => rfl

theorem added_of_error {s : Session} {ns : String} {step : Step} {e : Error}
    (h : s.outcome step = .error e) : s.added ns step = [] := by
  unfold added
  rw [h]
  cases step.insertion? <;> rfl

theorem added_of_ok {s : Session} {ns other : String} {step : Step} {d stored : Document}
    {a : Answer} (hd : step.insertion? = some (other, d)) (h : s.outcome step = .ok a)
    (hstored : s.stored d = .ok stored) :
    s.added ns step = if other = ns then [stored] else [] := by
  unfold added
  rw [hd, h]
  dsimp only
  rw [hstored]
  rfl

theorem documents_run (s : Session) {step : Step} (hstep : step.isServed = true) (ns : String) :
    (s.run step).2.backend.store.documents ns =
      s.backend.store.documents ns ++ s.added ns step := by
  have hinsert (other : String) (d : Document) :
      (s.run (.insert other d)).2.backend.store.documents ns =
        s.backend.store.documents ns ++ s.added ns (.insert other d) := by
    rcases s.insert_cases other d with ⟨e, hresult, hstore⟩ | ⟨id, hresult, stored, hstored, hdocs⟩
    · have houtcome : s.outcome (.insert other d) = .error e := hresult
      rw [added_of_error houtcome, hstore, List.append_nil]
    · have houtcome : s.outcome (.insert other d) = .ok id := hresult
      have hinsertion : (Step.insert other d).insertion? = some (other, d) := rfl
      rw [added_of_ok hinsertion houtcome hstored, hdocs]
      by_cases hns : other = ns
      · rw [if_pos hns, if_pos hns]
      · rw [if_neg hns, if_neg hns, List.append_nil]
  cases step with
  | insert other d => exact hinsert other d
  | insertDetached other d => exact hinsert other d
  | _ =>
      rw [s.store_run hstep (.inl rfl)]
      exact (List.append_nil _).symm

theorem disciplined (s : Session) {step : Step} (hstep : step.isServed = true) :
    s.Disciplined step where
  atMostOne := by
    rcases s.calls_cases hstep with hnil | ⟨ns, -, r, hr, hcalls⟩
    · rw [hnil]
      exact Nat.zero_le 1
    · rw [hcalls]
      exact hr.length_calls
  compiling := by
    rintro spec rfl
    rfl
  refused := by
    intro hns hcompile
    obtain ⟨ns, hns⟩ := Option.isSome_iff_exists.1 hns
    obtain ⟨r, hr, hcalls, houtcome⟩ := s.guarded_run hns hcompile
    rw [hcalls, houtcome]
    exact hr.calls_eq_nil_iff
  addressed := by
    intro call hcall
    rcases s.calls_cases hstep with hnil | ⟨ns, hns, r, hr, hcalls⟩
    · rw [hnil] at hcall
      cases hcall
    · rw [hcalls] at hcall
      obtain ⟨haddressed, hallowed⟩ := hr.of_mem_calls hcall
      rw [haddressed]
      exact ⟨hns, hallowed⟩
  compiled := fun spec hspec => calls_of_asked hspec
  unchanged := s.store_run hstep

theorem documents_runAll (s : Session) {steps : List Step}
    (hsteps : ∀ step ∈ steps, step.isServed = true) (ns : String) :
    (s.runAll steps).2.backend.store.documents ns =
      s.backend.store.documents ns ++ deposits ns s steps := by
  induction steps generalizing s with
  | nil => exact (List.append_nil _).symm
  | cons step r ih =>
      obtain ⟨hstep, hr⟩ := List.forall_mem_cons.1 hsteps
      refine (ih (s.run step).2 hr).trans ?_
      rw [s.documents_run hstep, List.append_assoc, deposits]

/-- Over any run of requests, under a clock and an outage that may change between any two of them,
every step is disciplined, and in the end a namespace holds what its inserts that succeeded have
added, one after another. -/
theorem runAll_disciplined {settings : Settings} {opening : Instant} {ids : Nat → String}
    {s : Session} (h : start settings opening ids = .ok s) {steps : List Step}
    (hsteps : ∀ step ∈ steps, step.isServed = true) :
    (∀ before step after, steps = before ++ step :: after →
      (s.runAll steps).1 = (s.runAll before).1 ++ ((s.runAll before).2.run step).1 ::
          (((s.runAll before).2.run step).2.runAll after).1 ∧
        (s.runAll before).2.service.settings = settings ∧
        (s.runAll before).2.Disciplined step) ∧
      ∀ ns, (s.runAll steps).2.backend.store.documents ns = deposits ns s steps := by
  obtain ⟨hsettings, hempty⟩ := start_eq_ok h
  refine ⟨fun before step after hsplit => ⟨?_, ?_, ?_⟩, fun ns => ?_⟩
  · rw [hsplit, runAll_append]
    rfl
  · rw [service_runAll, hsettings]
  · refine disciplined _ (hsteps step ?_)
    rw [hsplit]
    exact List.mem_append_right before List.mem_cons_self
  · rw [s.documents_runAll hsteps, hempty, List.nil_append]

def troubledInserts : List Step :=
  [.insert "events" [("load", .int 1)], .insert "secrets" [("load", .int 2)],
    .setOutage (some "down"), .insertDetached "events" [("load", .int 3)], .setOutage none,
    .insertDetached "events" [("_id", .int 7)]]

def issuedIds (n : Nat) : String :=
  if n = 1 then "7c9e6679-7425-40de-944b-e07fc1f90ae7" else "f47ac10b-58cc-4372-a567-0e02b2c3d479"

theorem runAll_disciplined_troubledInserts :
    ∃ s, start ⟨["events"], "ts", "count", true⟩ .epoch issuedIds = .ok s ∧
      (∀ step ∈ troubledInserts, step.isServed = true) ∧
      (s.runAll (troubledInserts.take 3)).2.Disciplined
        (.insertDetached "events" [("load", .int 3)]) ∧
      (s.runAll troubledInserts).2.backend.store.documents "events" =
        [[("load", .int 1), ("ts", .string "1970-01-01T00:00:00.000Z"),
            ("_id", .string "7c9e6679-7425-40de-944b-e07fc1f90ae7")],
          [("_id", .int 7), ("ts", .string "1970-01-01T00:00:00.000Z")]] ∧
      (s.runAll troubledInserts).2.backend.store.documents "secrets" = [] := by
  let s : Session :=
    ⟨⟨⟨["events"], "ts", "count", true⟩, ⟨"ts", by decide⟩, Preset.standard⟩,
      ⟨.empty issuedIds, none⟩, .epoch⟩
  have hstart : start ⟨["events"], "ts", "count", true⟩ .epoch issuedIds = .ok s := rfl
  have hserved : ∀ step ∈ troubledInserts, step.isServed = true := by decide
  obtain ⟨hsteps, hdocuments⟩ := runAll_disciplined hstart hserved
  refine ⟨s, hstart, hserved, (hsteps (troubledInserts.take 3) _ _ rfl).2.2, ?_, ?_⟩
  · rw [hdocuments]
    decide +kernel
  · rw [hdocuments]
    decide +kernel

end Session

end EventRollup
