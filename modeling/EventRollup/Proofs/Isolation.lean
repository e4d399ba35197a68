import EventRollup.Proofs.Deposits
import EventRollup.Proofs.Finding
import EventRollup.Proofs.Store.Views
import Mathlib.Data.List.Forall2
import Mathlib.Data.Set.Function

namespace EventRollup

namespace Deposit

def renamed (rename : Nat → Nat) (x : Deposit) : Deposit := ⟨x.document, x.number.map rename⟩

theorem renamed_id (x : Deposit) : x.renamed id = x := by
  rw [renamed, Option.map_id_fun]
  rfl

theorem renamed_of {rename : Nat → Nat} {d : Document} {n m : Nat}
    (h : groupKey ∉ d.keys → rename (n + 1) = m + 1) : (of d n).renamed rename = of d m := by
  unfold of renamed
  split
  · rfl
  · rename_i hnew
    rw [Option.map_some, h hnew]

theorem numbers_renamed (rename : Nat → Nat) (xs : List Deposit) :
    numbers (xs.map (·.renamed rename)) = (numbers xs).map rename := by
  rw [numbers, numbers, List.filterMap_map, List.map_filterMap]
  rfl

theorem anonymous_renamed (ids : Nat → Json) (rename : Nat → Nat) (x : Deposit) :
    ((x.renamed rename).stored ids).anonymous = (x.stored ids).anonymous := by
  obtain ⟨d, number⟩ := x
  cases number with
  | none => rfl
  | some n => simp [renamed, stored, Document.anonymous]

end Deposit

namespace Service

variable {s : Service} {now : Instant} {b b' : Backend}

theorem query_anonymous {spec : QuerySpec} (houtage : b'.outage = b.outage)
    (hdocuments : (b'.store.documents spec.ns).map Document.anonymous =
      (b.store.documents spec.ns).map Document.anonymous) :
    s.query now b' spec = s.query now b spec := by
  unfold query
  cases hcompile : s.compile now spec with
  | error e => rfl
  | ok plan =>
      obtain ⟨_, -, hplan⟩ := bind_eq_ok hcompile
      have hrun : b'.aggregate spec.ns plan.pipeline = b.aggregate spec.ns plan.pipeline := by
        rw [Backend.aggregate, Backend.aggregate, houtage, Store.aggregate, Store.aggregate,
          ← Plan.run_anonymous hplan, hdocuments, Plan.run_anonymous hplan]
      dsimp only
      rw [hrun]

theorem total_of_planScan {r : ScanRequest} {filter : Filter} {options : FindOptions}
    (h : s.planScan now r = .ok (filter, options)) : filter.Total := by
  rw [planScan_eq] at h
  cases hparts : scanParts s.settings s.timestampField s.presets now r with
  | error e =>
      rw [hparts] at h
      cases h
  | ok q =>
      rw [hparts] at h
      cases h
      exact scanFilter_total _ q.1 q.2

theorem scan_renamed (s : Service) (now : Instant) (outage : Option String) (r : ScanRequest)
    (ids : Nat → Json) (past : List Deposit) : ∃ found : Except Error (List Deposit),
      (∀ l, found = .ok l → l ⊆ past) ∧ ∀ (rename : Nat → Nat) (b : Backend), b.outage = outage →
        b.store.documents r.ns = past.map (fun x => (x.renamed rename).stored ids) →
        (s.scan now b r).result = found.map (List.map fun x => (x.renamed rename).stored ids) := by
  cases hplan : s.planScan now r with
  | error e =>
      refine ⟨.error e, fun l hl => (by cases hl), fun rename b _ _ => ?_⟩
      rw [scan, hplan]
      rfl
  | ok q =>
      obtain ⟨filter, options⟩ := q
      cases outage with
      | some text =>
          refine ⟨.error (.store (.outage text)), fun l hl => (by cases hl), fun rename b hb _ => ?_⟩
          rw [scan, hplan]
          dsimp only
          rw [Backend.find, hb]
          rfl
      | none =>
          have hview (rename : Nat → Nat) (x : Deposit) :
              ((x.renamed rename).stored ids).anonymous =
                ((x.renamed id).stored ids).anonymous := by
            rw [x.anonymous_renamed, x.anonymous_renamed]
          have hpasses (rename : Nat → Nat) (x : Deposit) :
              filter.Passes ((x.renamed rename).stored ids) ↔
                filter.Passes ((x.renamed id).stored ids) := by
            rw [← Filter.accepts_eq_true_iff, ← Filter.accepts_anonymous, hview,
              Filter.accepts_anonymous, Filter.accepts_eq_true_iff]
          have horder (rename : Nat → Nat) (x y : Deposit) :
              Document.compareBy options.keys ((x.renamed rename).stored ids)
                  ((y.renamed rename).stored ids) =
                Document.compareBy options.keys ((x.renamed id).stored ids)
                  ((y.renamed id).stored ids) := by
            rw [← options.compareBy_anonymous, hview, hview rename y, options.compareBy_anonymous]
          obtain ⟨found, hsub, hfound⟩ :=
            Filter.find_views options id (fun _ => total_of_planScan hplan) hpasses horder past
          refine ⟨.ok found, fun l hl => Except.ok.inj hl ▸ hsub.subset, fun rename b hb hdocs => ?_⟩
          rw [scan, hplan]
          dsimp only
          rw [Backend.find, hb]
          dsimp only
          rw [Store.find, hdocs, hfound]
          rfl

end Service

/-- Replies to a step that are the same, apart from numbers of identifiers. Only inserts and scans
tell identifiers. -/
def Step.Alike (ids : Nat → Json) (rename : Nat → Nat) (entries : List Deposit) (step : Step)
    (reply reply' : Reply Answer) : Prop :=
  reply'.calls = reply.calls ∧
    match step with
    | .insert _ _ => ∃ r : Except Error Deposit, (∀ x, r = .ok x → x ∈ entries) ∧
        reply.result = r.map (fun x => .identifier (x.identifier ids)) ∧
        reply'.result = r.map fun x => .identifier ((x.renamed rename).identifier ids)
    | .scan _ => ∃ r : Except Error (List Deposit), (∀ l, r = .ok l → l ⊆ entries) ∧
        reply.result = r.map (fun l => .documents (l.map (·.stored ids))) ∧
        reply'.result = r.map fun l => .documents (l.map fun x => (x.renamed rename).stored ids)
    | _ => reply'.result = reply.result

theorem Step.Alike.mono {ids : Nat → Json} {rename : Nat → Nat} {xs ys : List Deposit}
    {step : Step} {reply reply' : Reply Answer} (h : step.Alike ids rename xs reply reply')
    (hsub : xs ⊆ ys) : step.Alike ids rename ys reply reply' := by
  obtain ⟨hcalls, h⟩ := h
  refine ⟨hcalls, ?_⟩
  cases step with
  | insert ns d =>
      obtain ⟨r, hmem, hresults⟩ := h
      exact ⟨r, fun x hx => hsub (hmem x hx), hresults⟩
  | scan q =>
      obtain ⟨r, hmem, hresults⟩ := h
      exact ⟨r, fun l hl => List.Subset.trans (hmem l hl) hsub, hresults⟩
  | _ => exact h

namespace Session

/-- A session whose documents of a namespace are those of another, apart from numbers of
identifiers. -/
structure Follows (ns : String) (ids : Nat → Json) (rename : Nat → Nat) (past : List Deposit)
    (s s' : Session) : Prop where
  service : s'.service = s.service
  outage : s'.backend.outage = s.backend.outage
  now : s'.now = s.now
  identifier : s.backend.store.identifier = ids
  identifier' : s'.backend.store.identifier = ids
  documents : s.backend.store.documents ns = past.map (·.stored ids)
  renamed : s'.backend.store.documents ns = past.map fun x => (x.renamed rename).stored ids

theorem now_run (s : Session) {step : Step} (hstep : step.isServed = true) :
    (s.run step).2.now = match step with | .setClock now => now | _ => s.now := by
  cases step with
  | query other body =>
      simp only [run]
      split <;> rfl
  | _ => rfl

theorem outage_run (s : Session) {step : Step} (hstep : step.isServed = true) :
    (s.run step).2.backend.outage =
      match step with | .setOutage text => text | _ => s.backend.outage := by
  cases step with
  | insert other d => exact (s.insert_accepted other d).1
  | insertDetached other d => exact (s.insert_accepted other d).1
  | query other body =>
      simp only [run]
      split <;> rfl
  | put other d => cases hstep
  | _ => rfl

variable {ns : String} {ids : Nat → Json} {rename : Nat → Nat} {past : List Deposit}
  {s s' : Session}

namespace Follows

theorem accepted? (h : Follows ns ids rename past s s') (other : String) (d : Document)
    (hrename : ∀ n ∈ Deposit.numbers (s.accepted? other d).toList,
      rename n = s'.backend.store.issued + 1) :
    s'.accepted? other d = (s.accepted? other d).map (·.renamed rename) := by
  unfold Session.accepted? at *
  rw [h.service, h.now, h.outage]
  cases hprepare : s.service.prepare s.now other d with
  | error e => rfl
  | ok x =>
      rw [hprepare] at hrename
      cases houtage : s.backend.outage with
      | some text => rfl
      | none =>
          rw [houtage] at hrename
          refine congrArg some (Deposit.renamed_of fun hnew => ?_).symm
          apply hrename
          dsimp only
          rw [Deposit.of, if_neg hnew]
          exact List.mem_singleton_self _

theorem entry (h : Follows ns ids rename past s s') (step : Step)
    (hrename : ∀ n ∈ Deposit.numbers (s.entry ns step), rename n = s'.backend.store.issued + 1) :
    s'.entry ns step = (s.entry ns step).map (·.renamed rename) := by
  unfold Session.entry at *
  split
  · rename_i other d hinsertion
    rw [hinsertion] at hrename
    dsimp only at hrename
    split
    · rename_i hsame
      rw [if_pos hsame] at hrename
      rw [h.accepted? other d hrename, Option.toList_map]
    · rfl
  · rfl

theorem leave (h : Follows ns ids rename past s s') {step : Step} (hstep : step.isServed = true)
    (hns : step.concerns ns = false) : Follows ns ids rename past (s.run step).2 s' := by
  have hnow := s.now_run hstep
  have houtage := s.outage_run hstep
  have hdocuments := s.documents_run_entry hstep ns
  rw [entry_of_not_concerns hns, List.map_nil, List.append_nil] at hdocuments
  refine ⟨h.service.trans (s.service_run step).symm, ?_, ?_,
    (s.identifier_run step).trans h.identifier, h.identifier', hdocuments.trans h.documents,
    h.renamed⟩
  · cases step with
    | setOutage text => cases hns
    | _ => exact h.outage.trans houtage.symm
  · cases step with
    | setClock now => cases hns
    | _ => exact h.now.trans hnow.symm

theorem run (h : Follows ns ids rename past s s') {step : Step} (hstep : step.isServed = true)
    (hrename : ∀ n ∈ Deposit.numbers (s.entry ns step), rename n = s'.backend.store.issued + 1) :
    Follows ns ids rename (past ++ s.entry ns step) (s.run step).2 (s'.run step).2 := by
  refine ⟨?_, ?_, ?_, (s.identifier_run step).trans h.identifier,
    (s'.identifier_run step).trans h.identifier', ?_, ?_⟩
  · rw [service_run, service_run, h.service]
  · rw [s'.outage_run hstep, s.outage_run hstep, h.outage]
  · rw [s'.now_run hstep, s.now_run hstep, h.now]
  · rw [s.documents_run_entry hstep, h.documents, h.identifier, List.map_append]
  · rw [s'.documents_run_entry hstep, h.renamed, h.identifier', h.entry step hrename,
      List.map_append, List.map_map]
    rfl

theorem anonymous (h : Follows ns ids rename past s s') :
    (s'.backend.store.documents ns).map Document.anonymous =
      (s.backend.store.documents ns).map Document.anonymous := by
  rw [h.renamed, h.documents, List.map_map, List.map_map]
  exact List.map_congr_left fun x _ => x.anonymous_renamed ids rename

theorem query (h : Follows ns ids rename past s s') {spec : QuerySpec} (hns : spec.ns = ns) :
    s'.service.query s'.now s'.backend spec = s.service.query s.now s.backend spec := by
  rw [h.service, h.now]
  exact Service.query_anonymous h.outage (hns ▸ h.anonymous)

theorem query_body (h : Follows ns ids rename past s s') {other : String} (hns : other = ns)
    (body : Json) : (s'.run (.query other body)).1 = (s.run (.query other body)).1 := by
  simp only [Session.run]
  cases QueryBody.ofJson body with
  | error e => rfl
  | ok body =>
      refine congrArg (Reply.map Answer.rows) ?_
      rw [Service.queryBody, Service.queryBody, h.service, h.now]
      cases hspec : s.service.specOf s.now other body with
      | error e => rfl
      | ok spec =>
          have hquery := h.query ((Service.ns_of_specOf hspec).trans hns)
          rw [h.service, h.now] at hquery
          exact hquery

theorem scan (h : Follows ns ids rename past s s') {r : ScanRequest} (hns : r.ns = ns) :
    (s'.run (.scan r)).1.calls = (s.run (.scan r)).1.calls ∧
      ∃ found : Except Error (List Deposit), (∀ l, found = .ok l → l ⊆ past) ∧
        (s.run (.scan r)).1.result = found.map (fun l => .documents (l.map (·.stored ids))) ∧
        (s'.run (.scan r)).1.result =
          found.map fun l => .documents (l.map fun x => (x.renamed rename).stored ids) := by
  obtain ⟨found, hsub, hfound⟩ := s.service.scan_renamed s.now s.backend.outage r ids past
  have hresult := hfound id s.backend rfl
  have hresult' := hfound rename s'.backend h.outage (hns ▸ h.renamed)
  simp only [Deposit.renamed_id] at hresult
  refine ⟨?_, found, hsub, ?_, ?_⟩
  · rw [Session.run, Session.run, h.service, h.now]
    simp only [Reply.map, Service.scan]
    split <;> rfl
  · rw [Session.run, Reply.map, hresult (hns ▸ h.documents)]
    cases found <;> rfl
  · rw [Session.run, h.service, h.now, Reply.map, hresult']
    cases found <;> rfl

theorem insert (h : Follows ns ids rename past s s') (d : Document)
    (hrename : ∀ n ∈ Deposit.numbers (s.accepted? ns d).toList,
      rename n = s'.backend.store.issued + 1) :
    (s'.service.insert s'.now s'.backend ns d).1.calls =
        (s.service.insert s.now s.backend ns d).1.calls ∧
      ∃ r : Except Error Deposit, (∀ x, r = .ok x → s.accepted? ns d = some x) ∧
        (s.service.insert s.now s.backend ns d).1.result = r.map (·.identifier ids) ∧
        (s'.service.insert s'.now s'.backend ns d).1.result =
          r.map fun x => (x.renamed rename).identifier ids := by
  have haccepted := h.accepted? ns d hrename
  rw [Service.insert_eq, Service.insert_eq]
  unfold Session.accepted? at haccepted ⊢
  rw [h.service, h.now, h.outage] at haccepted ⊢
  cases hprepare : s.service.prepare s.now ns d with
  | error e => exact ⟨rfl, .error e, nofun, rfl, rfl⟩
  | ok x =>
      rw [hprepare] at haccepted
      cases houtage : s.backend.outage with
      | some text => exact ⟨rfl, .error (.store (.outage text)), nofun, rfl, rfl⟩
      | none =>
          rw [houtage] at haccepted
          rw [h.identifier, h.identifier']
          refine ⟨rfl, .ok (.of x s.backend.store.issued), ?_, rfl, ?_⟩
          · exact fun y hy => congrArg some (Except.ok.inj hy)
          · exact congrArg (fun y => Except.ok (Deposit.identifier ids y))
              (Option.some.inj haccepted)

theorem alike (h : Follows ns ids rename past s s') {step : Step} (hstep : step.isServed = true)
    (hns : step.concerns ns = true)
    (hrename : ∀ n ∈ Deposit.numbers (s.entry ns step), rename n = s'.backend.store.issued + 1) :
    step.Alike ids rename (past ++ s.entry ns step) (s.run step).1 (s'.run step).1 := by
  have hsame {other : String} (h : (some other).all (· == ns) = true) : other = ns := by
    simpa using h
  cases step with
  | setClock now => exact ⟨rfl, rfl⟩
  | setOutage text => exact ⟨rfl, rfl⟩
  | insert other d =>
      obtain rfl := hsame hns
      have hentry : s.entry other (.insert other d) = (s.accepted? other d).toList := if_pos rfl
      rw [hentry] at hrename ⊢
      obtain ⟨hcalls, r, hr, hresult, hresult'⟩ := h.insert d hrename
      refine ⟨hcalls, r, fun x hx => ?_, ?_, ?_⟩
      · exact List.mem_append_right past (Option.mem_toList.2 (hr x hx))
      · refine (congrArg (Except.map Answer.identifier) hresult).trans ?_
        cases r <;> rfl
      · refine (congrArg (Except.map Answer.identifier) hresult').trans ?_
        cases r <;> rfl
  | insertDetached other d =>
      obtain rfl := hsame hns
      have hentry : s.entry other (.insertDetached other d) = (s.accepted? other d).toList :=
        if_pos rfl
      rw [hentry] at hrename
      exact ⟨(h.insert d hrename).1, rfl⟩
  | query other body =>
      have hreply := h.query_body (hsame hns) body
      exact ⟨congrArg Reply.calls hreply, congrArg Reply.result hreply⟩
  | querySpec spec =>
      have hreply := congrArg (Reply.map Answer.rows) (h.query (hsame hns))
      exact ⟨congrArg Reply.calls hreply, congrArg Reply.result hreply⟩
  | compile spec =>
      have hcalls (t : Session) : (t.run (.compile spec)).1.calls = [] := rfl
      have hplan : s'.service.compile s'.now spec = s.service.compile s.now spec := by
        rw [h.service, h.now]
      exact ⟨(hcalls s').trans (hcalls s).symm, congrArg (Except.map Answer.plan) hplan⟩
  | scan r =>
      obtain ⟨hcalls, found, hsub, hresults⟩ := h.scan (hsame hns)
      refine ⟨hcalls, found, fun l hl => ?_, hresults⟩
      exact List.Subset.trans (hsub l hl) (List.subset_append_left _ _)
  | _ => cases hstep

/-- The run with all steps and the run with those that concern the namespace: the second takes the
next number wherever the first takes a number for the namespace. -/
theorem runAll (h : Follows ns ids rename past s s') {steps : List Step}
    (hsteps : ∀ step ∈ steps, step.isServed = true)
    (hrename : (Deposit.numbers (entries ns s steps)).map rename =
      List.range' (s'.backend.store.issued + 1) (Deposit.numbers (entries ns s steps)).length) :
    Follows ns ids rename (past ++ entries ns s steps) (s.runAll steps).2
        (s'.runAll (steps.filter (·.concerns ns))).2 ∧
      List.Forall₂ (fun answered reply' =>
          answered.1.Alike ids rename (past ++ entries ns s steps) answered.2 reply')
        ((steps.zip (s.runAll steps).1).filter (·.1.concerns ns))
        (s'.runAll (steps.filter (·.concerns ns))).1 := by
  induction steps generalizing past s s' with
  | nil =>
      rw [entries, List.append_nil]
      exact ⟨h, .nil⟩
  | cons step r ih =>
      obtain ⟨hstep, hr⟩ := List.forall_mem_cons.1 hsteps
      cases hns : step.concerns ns with
      | false =>
          have hentries : entries ns s (step :: r) = entries ns (s.run step).2 r := by
            rw [entries, entry_of_not_concerns hns, List.nil_append]
          rw [hentries] at hrename ⊢
          obtain ⟨hlast, hreplies⟩ := ih (h.leave hstep hns) hr hrename
          rw [List.filter_cons_of_neg (by simp [hns]), runAll_cons]
          refine ⟨hlast, ?_⟩
          rw [List.zip_cons_cons, List.filter_cons_of_neg (by simp [hns])]
          exact hreplies
      | true =>
          rw [numbers_entries_cons, List.map_append, List.length_append,
            ← List.range'_append_1] at hrename
          obtain ⟨hhere, hlater⟩ := List.append_inj hrename (by simp)
          have hone : ∀ n ∈ Deposit.numbers (s.entry ns step),
              rename n = s'.backend.store.issued + 1 := by
            rcases s.numbers_entry ns step with hnone | hone
            · rw [hnone]
              exact nofun
            · rw [hone] at hhere ⊢
              exact List.forall_mem_singleton.2 (List.cons.inj hhere).1
          have hissued := s'.issued_run hstep hns
          rw [h.entry step hone, Deposit.numbers_renamed, List.length_map] at hissued
          have hnext := h.run hstep hone
          have halike := h.alike hstep hns hone
          obtain ⟨hlast, hreplies⟩ := ih hnext hr (by
            rw [hlater, hissued, Nat.add_right_comm])
          rw [List.append_assoc] at hlast hreplies
          rw [List.filter_cons_of_pos (by simp [hns]), runAll_cons, runAll_cons]
          refine ⟨hlast, ?_⟩
          rw [List.zip_cons_cons, List.filter_cons_of_pos (by simp [hns])]
          refine .cons (halike.mono ?_) hreplies
          exact List.append_subset.2 ⟨List.subset_append_left _ _,
            List.Subset.trans (List.subset_append_left _ _) (List.subset_append_right _ _)⟩

end Follows

theorem backend_start {settings : Settings} {opening : Instant} {ids : Nat → String} {s : Session}
    (h : start settings opening ids = .ok s) : s.backend = ⟨.empty ids, none⟩ := by
  obtain ⟨service, -, h⟩ := bind_eq_ok h
  rw [← Except.ok.inj h]

/-- Leaving out of a run all steps on other namespaces changes no reply to any other step and none of
the documents of the namespace, but for a one-to-one renaming of the identifiers that the store has
given out. -/
theorem namespaces_do_not_interfere {settings : Settings} {opening : Instant}
    {ids : Nat → String} {s : Session} (h : start settings opening ids = .ok s) {steps : List Step}
    (hsteps : ∀ step ∈ steps, step.isServed = true) (ns : String) :
    ∃ rename : Nat → Nat,
      Set.InjOn rename {n | ∃ x ∈ entries ns s steps, x.number = some n} ∧
      (s.runAll steps).2.backend.store.documents ns =
        (entries ns s steps).map (·.stored s.backend.store.identifier) ∧
      (s.runAll (steps.filter (·.concerns ns))).2.backend.store.documents ns =
        (entries ns s steps).map
          (fun x => (x.renamed rename).stored s.backend.store.identifier) ∧
      List.Forall₂ (fun answered reply => answered.1.Alike s.backend.store.identifier rename
          (entries ns s steps) answered.2 reply)
        ((steps.zip (s.runAll steps).1).filter (·.1.concerns ns))
        (s.runAll (steps.filter (·.concerns ns))).1 := by
  have hbackend := backend_start h
  obtain ⟨numbers, hnumbers⟩ : ∃ l, l = Deposit.numbers (entries ns s steps) := ⟨_, rfl⟩
  have hnodup : numbers.Nodup := by
    rw [hnumbers]
    exact (s.pairwise_numbers hsteps ns).1.imp Nat.ne_of_lt
  -- the identifiers of the namespace are numbered anew, in their order
  have hrename : numbers.map (fun n => numbers.idxOf n + 1) = List.range' 1 numbers.length := by
    refine List.ext_getElem (by simp) fun i hi hi' => ?_
    rw [List.getElem_map, List.getElem_range', hnodup.idxOf_getElem, Nat.one_mul, Nat.add_comm]
  have hfollows : Follows ns s.backend.store.identifier (fun n => numbers.idxOf n + 1) [] s s := by
    refine ⟨rfl, rfl, rfl, rfl, rfl, ?_, ?_⟩ <;> rw [hbackend] <;> rfl
  have hissued : s.backend.store.issued = 0 := by rw [hbackend]; rfl
  obtain ⟨hlast, hreplies⟩ := hfollows.runAll hsteps (by rw [← hnumbers, hrename, hissued])
  refine ⟨_, ?_, hlast.documents, hlast.renamed, hreplies⟩
  rintro n ⟨x, hx, hn⟩ m ⟨y, hy, hm⟩ he
  have hmem {k : Nat} {z : Deposit} (hz : z ∈ entries ns s steps) (hk : z.number = some k) :
      k ∈ numbers := hnumbers ▸ List.mem_filterMap.2 ⟨z, hz, hk⟩
  exact (List.idxOf_inj (hmem hx hn)).1 (Nat.succ.inj he)

def audited : List Step :=
  [.insert "events" [("load", .int 1)], .insertDetached "audit" [("load", .int 1)],
    .setOutage (some "down"), .insert "events" [("load", .int 2)], .setOutage none,
    .insert "events" [("load", .int 3)], .insert "audit" [("_id", .int 7)],
    .scan ⟨"events", none, none, .descending, none, false⟩]

theorem namespaces_do_not_interfere_audited :
    ∃ s, start ⟨["events", "audit"], "ts", "count", true⟩ .epoch issuedIds = .ok s ∧
      (∀ step ∈ audited, step.isServed = true) ∧
      (audited.filter (·.concerns "events")).length = 6 ∧
      Deposit.numbers (entries "events" s audited) = [1, 3] ∧
      ∃ rename : Nat → Nat,
        Set.InjOn rename {n | ∃ x ∈ entries "events" s audited, x.number = some n} ∧
        (s.runAll (audited.filter (·.concerns "events"))).2.backend.store.documents "events" =
          (entries "events" s audited).map
            (fun x => (x.renamed rename).stored s.backend.store.identifier) ∧
        List.Forall₂ (fun answered reply => answered.1.Alike s.backend.store.identifier rename
            (entries "events" s audited) answered.2 reply)
          ((audited.zip (s.runAll audited).1).filter (·.1.concerns "events"))
          (s.runAll (audited.filter (·.concerns "events"))).1 := by
  let s : Session :=
    ⟨⟨⟨["events", "audit"], "ts", "count", true⟩, ⟨"ts", by decide⟩, Preset.standard⟩,
      ⟨.empty issuedIds, none⟩, .epoch⟩
  have hstart : start ⟨["events", "audit"], "ts", "count", true⟩ .epoch issuedIds = .ok s := rfl
  have hserved : ∀ step ∈ audited, step.isServed = true := by decide
  obtain ⟨rename, hinj, -, hdocuments, hreplies⟩ :=
    namespaces_do_not_interfere hstart hserved "events"
  exact ⟨s, hstart, hserved, by decide, by decide +kernel, rename, hinj, hdocuments, hreplies⟩

end Session

end EventRollup
