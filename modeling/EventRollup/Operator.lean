import EventRollup.Text.Blank
import EventRollup.Error

namespace EventRollup

/-- Operator names may carry the store's dollar sign and blanks around them. -/
def bareName (raw : String) : String :=
  match Text.trimChars raw.toList with
  | '$' :: r => String.ofList r
  | cs => String.ofList cs

structure OperatorTable (α : Type) where
  all : List α
  name : α → String
  unknown : String → UnknownName

namespace OperatorTable

variable {α : Type} (table : OperatorTable α)

def names : List String := table.all.map table.name

def find? (raw : String) : Option α := table.all.find? fun op => table.name op = bareName raw

def parse (raw : String) : Except UnknownName α :=
  match table.find? raw with
  | some op => .ok op
  | none => .error (table.unknown raw)

end OperatorTable

inductive FilterOperator where
  | eq
  | ne
  | gt
  | gte
  | lt
  | lte
  | isIn
  | notIn
  | regex
  | exists
deriving DecidableEq

namespace FilterOperator

def name : FilterOperator → String
  | .eq => "eq"
  | .ne => "ne"
  | .gt => "gt"
  | .gte => "gte"
  | .lt => "lt"
  | .lte => "lte"
  | .isIn => "in"
  | .notIn => "nin"
  | .regex => "regex"
  | .exists => "exists"

def storeKey (op : FilterOperator) : String := "$" ++ op.name

def all : List FilterOperator :=
  [.eq, .ne, .gt, .gte, .lt, .lte, .isIn, .notIn, .regex, .exists]

def table : OperatorTable FilterOperator := ⟨all, name, .filterOperator⟩

def parse (raw : String) : Except UnknownName FilterOperator := table.parse raw

end FilterOperator

inductive AggregateOperator where
  | sum
  | avg
  | min
  | max
  | first
  | last
deriving DecidableEq

namespace AggregateOperator

def name : AggregateOperator → String
  | .sum => "sum"
  | .avg => "avg"
  | .min => "min"
  | .max => "max"
  | .first => "first"
  | .last => "last"

def storeKey (op : AggregateOperator) : String := "$" ++ op.name

def all : List AggregateOperator := [.sum, .avg, .min, .max, .first, .last]

def table : OperatorTable AggregateOperator := ⟨all, name, .aggregateOperator⟩

def parse (raw : String) : Except UnknownName AggregateOperator := table.parse raw

end AggregateOperator

inductive SortDirection where
  | ascending
  | descending
deriving DecidableEq

namespace SortDirection

def name : SortDirection → String
  | .ascending => "ascending"
  | .descending => "descending"

def sign : SortDirection → Int
  | .ascending => 1
  | .descending => -1

def parse (raw : String) : Except UnknownName SortDirection :=
  let t := Text.trim raw
  if t = "ascending" ∨ t = "asc" ∨ t = "1" then .ok .ascending
  else if t = "descending" ∨ t = "desc" ∨ t = "-1" then .ok .descending
  else .error (.sortDirection raw)

end SortDirection

end EventRollup
