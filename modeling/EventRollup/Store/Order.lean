import EventRollup.Operator
import EventRollup.Time.Encoding

namespace EventRollup

namespace Json

def typeRank : Json → Nat
  | .null => 1
  | .number _ => 2
  | .string _ => 3
  | .array _ => 5
  | .bool _ => 8
  | .object entries => if (asDate? (.object entries)).isSome then 9 else 4

mutual

/-- Order of values: by type first, then within the type. Numbers compare as doubles, texts by code
points, dates by their instants, arrays and objects item by item and then by length. -/
def compare : Json → Json → Ordering
  | .number a, .number b => Ord.compare a.units b.units
  | .string a, .string b => Ord.compare a b
  | .bool a, .bool b => Ord.compare a b
  | .array a, .array b => compareItems a b
  | .object a, .object b =>
    match asDate? (.object a), asDate? (.object b) with
    | some s, some t => Instant.compare s t
    | none, none => compareEntries a b
    | some _, none => .gt
    | none, some _ => .lt
  | a, b => Ord.compare a.typeRank b.typeRank

def compareItems : List Json → List Json → Ordering
  | [], [] => .eq
  | [], _ :: _ => .lt
  | _ :: _, [] => .gt
  | a :: as, b :: bs => (compare a b).then (compareItems as bs)

def compareEntries : List (String × Json) → List (String × Json) → Ordering
  | [], [] => .eq
  | [], _ :: _ => .lt
  | _ :: _, [] => .gt
  | (k, a) :: as, (l, b) :: bs =>
    ((Ord.compare k l).then (compare a b)).then (compareEntries as bs)

end

/-- Equality in the order of values, which `1` and `1.0` have. -/
def equivalent (a b : Json) : Bool := compare a b == .eq

end Json

def SortDirection.compare (direction : SortDirection) (a b : Json) : Ordering :=
  match direction with
  | .ascending => Json.compare a b
  | .descending => Json.compare b a

namespace Document

/-- Order of documents by several fields, the first being decisive. A missing field counts as
null. -/
def compareBy : List (String × SortDirection) → Document → Document → Ordering
  | [], _, _ => .eq
  | (name, direction) :: r, a, b =>
    (direction.compare ((a.get? name).getD .null) ((b.get? name).getD .null)).then
      (compareBy r a b)

def sortBy (keys : List (String × SortDirection)) (docs : List Document) : List Document :=
  docs.mergeSort fun a b => (compareBy keys a b).isLE

end Document

end EventRollup
