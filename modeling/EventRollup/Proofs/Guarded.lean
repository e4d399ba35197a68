import EventRollup.Proofs.Pipeline.Parts
import EventRollup.Proofs.Rejection
import EventRollup.Session

namespace EventRollup

theorem Settings.allows_of_checkNamespace {settings : Settings} {ns : String} {u : Unit}
    (h : settings.checkNamespace ns = .ok u) : settings.allows ns = true := by
  unfold checkNamespace at h
  split at h
  · assumption
  · cases h

namespace Reply

/-- What a request of a namespace may come to: refused with nothing called, or one call of the
namespace, which is then allowed, and no refusal any more. -/
inductive Guarded {α : Type} (settings : Settings) (ns : String) : Reply α → Prop where
  | refused {e : Error} (rejection : e.isRejection = true) : Guarded settings ns (.own (.error e))
  | called {call : StoreCall} {result : Except Error α} (addressed : call.ns = ns)
      (allowed : settings.allows ns = true)
      (failure : ∀ e, result = .error e → e.isRejection = false) :
      Guarded settings ns ⟨[call], result⟩

namespace Guarded

variable {α β : Type} {settings : Settings} {ns : String} {r : Reply α}

theorem map (h : r.Guarded settings ns) (f : α → β) : (r.map f).Guarded settings ns := by
  cases h with
  | refused rejection => exact .refused rejection
  | @called call result addressed allowed failure =>
      refine .called addressed allowed fun e he => ?_
      cases result with
      | error e' =>
          cases he
          exact failure e rfl
      | ok a => cases he

theorem length_calls (h : r.Guarded settings ns) : r.calls.length ≤ 1 := by
  cases h with
  | refused rejection => exact Nat.zero_le 1
  | called addressed allowed failure => exact Nat.le_refl 1

theorem calls_eq_nil_iff (h : r.Guarded settings ns) :
    r.calls = [] ↔ ∃ e, r.result = .error e ∧ e.isRejection = true := by
  cases h with
  | refused rejection => exact ⟨fun _ => ⟨_, rfl, rejection⟩, fun _ => rfl⟩
  | called addressed allowed failure =>
      refine ⟨fun hnil => (by cases hnil), ?_⟩
      rintro ⟨e, he, hrejection⟩
      rw [failure e he] at hrejection
      cases hrejection

theorem of_mem_calls (h : r.Guarded settings ns) {call : StoreCall} (hcall : call ∈ r.calls) :
    call.ns = ns ∧ settings.allows ns = true := by
  cases h with
  | refused rejection => cases hcall
  | called addressed allowed failure =>
      rw [List.mem_singleton.1 hcall]
      exact ⟨addressed, allowed⟩

end Guarded

end Reply

namespace Service

variable (s : Service) (now : Instant) (b : Backend)

theorem guarded_insert (ns : String) (d : Document) :
    (s.insert now b ns d).1.Guarded s.settings ns := by
  unfold insert
  split
  · rename_i e h
    exact .refused (s.rejectsOnly_prepare now ns d e h)
  · rename_i stored h
    obtain ⟨_, hns, -⟩ := bind_eq_ok h
    exact .called rfl (Settings.allows_of_checkNamespace hns) fun e => Backend.not_rejection_insertOne

theorem guarded_query (spec : QuerySpec) : (s.query now b spec).Guarded s.settings spec.ns := by
  unfold query
  split
  · rename_i e h
    exact .refused (s.rejectsOnly_compile now spec e h)
  · rename_i plan h
    obtain ⟨_, hns, -⟩ := bind_eq_ok h
    have hcalled : Reply.Guarded s.settings spec.ns
        ⟨[.aggregate spec.ns plan.pipeline], b.aggregate spec.ns plan.pipeline⟩ :=
      .called rfl (Settings.allows_of_checkNamespace hns) fun e => Backend.not_rejection_aggregate
    exact hcalled.map plan.reshape

theorem ns_of_specOf {s : Service} {now : Instant} {ns : String} {body : QueryBody}
    {spec : QuerySpec} (h : s.specOf now ns body = .ok spec) : spec.ns = ns := by
  obtain ⟨_, -, h⟩ := bind_eq_ok h
  obtain ⟨range, -, h⟩ := bind_eq_ok h
  obtain ⟨limit, -, h⟩ := bind_eq_ok h
  rw [← Except.ok.inj h]

theorem guarded_queryBody (ns : String) (body : QueryBody) :
    (s.queryBody now b ns body).Guarded s.settings ns := by
  unfold queryBody
  split
  · rename_i e h
    exact .refused (s.rejectsOnly_specOf now ns body e h)
  · rename_i spec h
    rw [← ns_of_specOf h]
    exact s.guarded_query now b spec

theorem guarded_scan (r : ScanRequest) : (s.scan now b r).Guarded s.settings r.ns := by
  unfold scan
  split
  · rename_i e h
    exact .refused (s.rejectsOnly_planScan now r e h)
  · rename_i filter options h
    obtain ⟨_, hns, -⟩ := bind_eq_ok h
    exact .called rfl (Settings.allows_of_checkNamespace hns) fun e => Backend.not_rejection_find

end Service

end EventRollup
