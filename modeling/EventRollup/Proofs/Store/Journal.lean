import EventRollup.Proofs.Store.Documents
import EventRollup.Proofs.Time.Encoding
import EventRollup.Store.Collections

namespace EventRollup

/-- A stored document and its time, which either encoding can write and read back. -/
structure StoredEvent where
  document : Document
  time : Instant
  nodup : document.keys.Nodup
  readable : time.FourDigitYear

namespace StoredEvent

def written (field : FieldName) (e : DateEncoding) (x : StoredEvent) : Document :=
  x.document.insert field.text (e.encode x.time)

variable {field : FieldName} {e : DateEncoding}

theorem get?_written (x : StoredEvent) (name : String) : (x.written field e).get? name =
    if field.text = name then some (e.encode x.time) else x.document.get? name :=
  Document.get?_insert x.document field.text (e.encode x.time) name

theorem get?_time (x : StoredEvent) :
    (x.written field e).get? field.text = some (e.encode x.time) := by
  rw [get?_written, if_pos rfl]

theorem get?_other (x : StoredEvent) {name : String} (h : name ≠ field.text) :
    (x.written field e).get? name = x.document.get? name := by
  rw [get?_written, if_neg fun he => h he.symm]

theorem nodup_written (x : StoredEvent) : (x.written field e).keys.Nodup :=
  Document.nodup_insert x.nodup field.text (e.encode x.time)

def identified (field : FieldName) (id : Json) (x : StoredEvent) : StoredEvent where
  document := (x.document.insert field.text .null).insert groupKey id
  time := x.time
  nodup := Document.nodup_insert (Document.nodup_insert x.nodup field.text .null) groupKey id
  readable := x.readable

theorem written_identified (id : Json) (x : StoredEvent) :
    (x.identified field id).written field e = (x.written field e).insert groupKey id := by
  have hplace : field.text ∈ (x.document.insert field.text .null).keys := by
    rw [Document.keys_insert]
    split
    · assumption
    · exact List.mem_append_right _ (List.mem_singleton.2 rfl)
  rw [written, identified]
  dsimp only
  rw [Document.insert_comm hplace fun he => field.text_ne_groupKey he.symm, Document.insert_insert,
    written]

end StoredEvent

structure Journal where
  events : String → List StoredEvent
  identifier : Nat → Json
  issued : Nat

namespace Journal

def empty (ids : Nat → String) : Journal := ⟨fun _ => [], fun n => .string (ids n), 0⟩

def record (j : Journal) (ns : String) (x : StoredEvent) (issued : Nat) : Journal :=
  { j with
    events := fun other => if ns = other then j.events other ++ [x] else j.events other
    issued }

def insertOne (field : FieldName) (j : Journal) (ns : String) (x : StoredEvent) : Json × Journal :=
  match x.document.get? groupKey with
  | some id => (id, j.record ns x j.issued)
  | none =>
    (j.identifier (j.issued + 1),
      j.record ns (x.identified field (j.identifier (j.issued + 1))) (j.issued + 1))

end Journal

namespace Store

structure Holds (field : FieldName) (e : DateEncoding) (j : Journal) (s : Store) : Prop where
  identifier : s.identifier = j.identifier
  issued : s.issued = j.issued
  documents : ∀ ns, s.documents ns = (j.events ns).map (·.written field e)

variable {field : FieldName} {e : DateEncoding} {j : Journal} {s : Store}

theorem holds_empty (ids : Nat → String) : Holds field e (.empty ids) (.empty ids) :=
  ⟨rfl, rfl, fun _ => rfl⟩

theorem holds_append (h : s.Holds field e j) (ns : String) (x : StoredEvent) (n : Nat) :
    Holds field e (j.record ns x n) ⟨append ns (x.written field e) s.collections, s.ids, n⟩ := by
  refine ⟨h.identifier, rfl, fun other => ?_⟩
  have hbefore : documents ⟨s.collections, s.ids, n⟩ other =
      (j.events other).map (·.written field e) := h.documents other
  rw [documents_append, hbefore, Journal.record]
  dsimp only
  by_cases hns : ns = other
  · rw [if_pos hns, if_pos hns, List.map_append, List.map_singleton]
  · rw [if_neg hns, if_neg hns]

/-- An insert answers the same identifier whatever the encoding. -/
theorem holds_insertOne (h : s.Holds field e j) (ns : String) (x : StoredEvent) :
    (s.insertOne ns (x.written field e)).1 = (j.insertOne field ns x).1 ∧
      Holds field e (j.insertOne field ns x).2 (s.insertOne ns (x.written field e)).2 := by
  have hid : (x.written field e).get? groupKey = x.document.get? groupKey :=
    x.get?_other fun he => field.text_ne_groupKey he.symm
  rw [insertOne, Journal.insertOne, hid]
  cases x.document.get? groupKey with
  | some id =>
      refine ⟨rfl, ?_⟩
      rw [← h.issued]
      exact holds_append h ns x s.issued
  | none =>
      rw [h.identifier, h.issued]
      refine ⟨rfl, ?_⟩
      dsimp only
      rw [← StoredEvent.written_identified]
      exact holds_append h ns _ (j.issued + 1)

end Store

end EventRollup
