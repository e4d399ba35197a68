import EventRollup.Store.Run

namespace EventRollup

/-- Named collections of documents in insertion order. The identifiers given out to documents that
have none come from a supply, of which so many are used up. -/
structure Store where
  collections : List (String × List Document)
  ids : Nat → String
  issued : Nat

namespace Store

/-- The supply of a store that is given none. -/
def numbered (n : Nat) : String := "#" ++ toString n

def empty (ids : Nat → String := numbered) : Store := ⟨[], ids, 0⟩

instance : Inhabited Store := ⟨empty⟩

def documents (s : Store) (ns : String) : List Document := (s.collections.lookup ns).getD []

def append (ns : String) (d : Document) :
    List (String × List Document) → List (String × List Document)
  | [] => [(ns, [d])]
  | (name, docs) :: r =>
    if name = ns then (name, docs ++ [d]) :: r else (name, docs) :: append ns d r

def identifier (s : Store) (n : Nat) : Json := .string (s.ids n)

/-- Stores a document and answers its identifier. One that has none gets a new one, behind its other
fields. -/
def insertOne (s : Store) (ns : String) (d : Document) : Json × Store :=
  match d.get? groupKey with
  | some id => (id, { s with collections := append ns d s.collections })
  | none =>
    let id := s.identifier (s.issued + 1)
    (id, { s with
      collections := append ns (d.insert groupKey id) s.collections
      issued := s.issued + 1 })

def insertAll (s : Store) (ns : String) (docs : List Document) : Store :=
  docs.foldl (fun s d => (s.insertOne ns d).2) s

theorem documents_append (ns other : String) (d : Document) (cs : List (String × List Document))
    (ids : Nat → String) (n : Nat) :
    documents ⟨append ns d cs, ids, n⟩ other =
      if ns = other then documents ⟨cs, ids, n⟩ other ++ [d] else documents ⟨cs, ids, n⟩ other := by
  simp only [documents]
  induction cs with
  | nil =>
    by_cases h : ns = other
    · simp [append, h]
    · simp [append, h, List.lookup_cons, beq_false_of_ne fun he : other = ns => h he.symm]
  | cons c r ih =>
    obtain ⟨name, docs⟩ := c
    by_cases hn : name = ns
    · by_cases h : ns = other
      · simp [append, hn, h]
      · simp [append, hn, h, List.lookup_cons, beq_false_of_ne fun he : other = ns => h he.symm]
    · by_cases h : name = other
      · have hf : ¬ ns = other := fun hf => hn (h.trans hf.symm)
        rw [append, if_neg hn, if_neg hf]
        simp only [List.lookup_cons, h, beq_self_eq_true]
      · simpa [append, hn, List.lookup_cons, beq_false_of_ne fun he : other = name => h he.symm]
          using ih

theorem documents_insertOne (s : Store) (ns : String) (d : Document) (other : String) :
    ∃ stored, (s.insertOne ns d).2.documents other =
      if ns = other then s.documents other ++ [stored] else s.documents other := by
  unfold insertOne
  split
  · exact ⟨d, documents_append ns other d s.collections s.ids s.issued⟩
  · exact ⟨_, documents_append ns other _ s.collections s.ids (s.issued + 1)⟩

@[simp] theorem identifier_insertOne (s : Store) (ns : String) (d : Document) :
    (s.insertOne ns d).2.identifier = s.identifier := by
  unfold insertOne
  split <;> rfl

def aggregate (s : Store) (ns : String) (p : Pipeline) : Except StoreFault (List Document) :=
  p.run (s.documents ns)

def find (s : Store) (ns : String) (f : Filter) (options : FindOptions) :
    Except StoreFault (List Document) :=
  f.find options (s.documents ns)

def clear (s : Store) (ns : String) : Store :=
  { s with collections := s.collections.filter fun c => c.1 != ns }

end Store

end EventRollup
