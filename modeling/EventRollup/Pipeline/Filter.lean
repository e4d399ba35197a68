import EventRollup.FieldName
import EventRollup.Operator
import EventRollup.Time.Range

namespace EventRollup

inductive ValueType where
  | date
  | string
deriving DecidableEq

namespace ValueType

def name : ValueType → String
  | .date => "date"
  | .string => "string"

def ofEncoding : DateEncoding → ValueType
  | .extended => .date
  | .string => .string

end ValueType

inductive Condition where
  | compare (op : FilterOperator) (operand : Json)
  | typeIs (type : ValueType)
deriving DecidableEq

namespace Condition

def key : Condition → String
  | .compare op _ => op.storeKey
  | .typeIs _ => "$type"

def operand : Condition → Json
  | .compare _ v => v
  | .typeIs t => .string t.name

end Condition

structure Predicate where
  field : FieldName
  conditions : List Condition
deriving DecidableEq

structure Filter where
  predicates : List Predicate
deriving DecidableEq

namespace Filter

def empty : Filter := ⟨[]⟩

def isEmpty (f : Filter) : Bool := f.predicates.isEmpty

/-- Adds a condition to the predicate on its field, or a new predicate behind the others. -/
def pushTo (field : FieldName) (condition : Condition) : List Predicate → List Predicate
  | [] => [⟨field, [condition]⟩]
  | p :: r =>
    if p.field = field then ⟨p.field, p.conditions ++ [condition]⟩ :: r
    else p :: pushTo field condition r

def push (f : Filter) (field : FieldName) (condition : Condition) : Filter :=
  ⟨pushTo field condition f.predicates⟩

def conditions (f : Filter) : List (FieldName × Condition) :=
  f.predicates.flatMap fun p => p.conditions.map fun c => (p.field, c)

def on (f : Filter) (field : FieldName) : List Condition :=
  match f.predicates.find? (·.field = field) with
  | some p => p.conditions
  | none => []

theorem on_push (f : Filter) (field : FieldName) (c : Condition) (other : FieldName) :
    (f.push field c).on other = if field = other then f.on other ++ [c] else f.on other := by
  obtain ⟨ps⟩ := f
  simp only [on, push]
  induction ps with
  | nil => by_cases h : field = other <;> simp [pushTo, h]
  | cons p r ih =>
    by_cases hp : p.field = field
    · by_cases h : field = other
      · simp [pushTo, hp, h]
      · simp [pushTo, hp, h]
    · by_cases h : p.field = other
      · have hf : ¬ field = other := fun hf => hp (h.trans hf.symm)
        rw [pushTo, if_neg hp, if_neg hf]
        simp only [List.find?_cons, h, decide_true]
      · simpa [pushTo, hp, h] using ih

theorem conditions_push (f : Filter) (field : FieldName) (c : Condition) :
    (f.push field c).conditions.Perm ((field, c) :: f.conditions) := by
  obtain ⟨ps⟩ := f
  simp only [conditions, push]
  induction ps with
  | nil => exact List.Perm.refl _
  | cons p r ih =>
    by_cases hp : p.field = field
    · simp only [pushTo, hp, if_true, List.flatMap_cons, List.map_append, List.append_assoc]
      exact List.perm_middle
    · simp only [pushTo, hp, if_false, List.flatMap_cons]
      exact (ih.append_left _).trans List.perm_middle

/-- The filter on the timestamp field: inside the window, or merely there, and of the type that the
encoding stores. -/
def timeWindow (field : FieldName) (window : Option TimeWindow) (encoding : DateEncoding) :
    Filter :=
  let bounded := match window with
    | some w =>
      (empty.push field (.compare .gte (encoding.encode w.start))).push field
        (.compare .lte (encoding.encode w.stop))
    | none => empty.push field (.compare .exists (.bool true))
  bounded.push field (.typeIs (.ofEncoding encoding))

end Filter

namespace Predicate

def merged (p : Predicate) : Document :=
  Document.ofEntries (p.conditions.map fun c => (c.key, c.operand))

def mergeable (p : Predicate) : Bool := p.merged.length == p.conditions.length

def clauses (p : Predicate) : List Json :=
  p.conditions.map fun c => .object [(p.field.text, .object [(c.key, c.operand)])]

end Predicate

/-- The filter as a store reads it. A field whose operators repeat is not given as one object; its
conditions become clauses of a conjunction behind the other fields. -/
def Filter.toJson (f : Filter) : Json :=
  let fields := (f.predicates.filter (·.mergeable)).map fun p =>
    (p.field.text, Json.object p.merged)
  let clauses := (f.predicates.filter (!·.mergeable)).flatMap (·.clauses)
  .object (Document.ofEntries
    (if clauses.isEmpty then fields else fields ++ [("$and", .array clauses)]))

end EventRollup
