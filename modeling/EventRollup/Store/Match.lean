import EventRollup.Pattern.Parser
import EventRollup.Pipeline.Filter
import EventRollup.Store.Order

namespace EventRollup

/-- Equality as a condition means it: a missing field equals null, and an array equals whatever one
of its items equals unless the operand is an array itself. -/
def matchesEq (field : Option Json) (operand : Json) : Bool :=
  match field with
  | none => operand.isNull
  | some (.array items) =>
    if operand.isArray then Json.equivalent (.array items) operand
    else items.any (Json.equivalent · operand)
  | some v => Json.equivalent v operand

def matchesIn (field : Option Json) (operand : Json) : Bool :=
  match operand with
  | .array candidates => candidates.any (matchesEq field)
  | _ => false

def matchesOrder (accept : Ordering → Bool) (field : Option Json) (operand : Json) : Bool :=
  match field with
  | some v => v.typeRank == operand.typeRank && accept (Json.compare v operand)
  | none => false

def matchesPattern (field : Option Json) (operand : Json) : Except StoreFault Bool :=
  match operand with
  | .string pattern =>
    match Pattern.compile? pattern with
    | some r => .ok (match field with
      | some (.string s) => r.isMatch s
      | _ => false)
    | none => .error .invalidPattern
  | _ => .error .patternNotString

/-- Whether the field is there when the operand asks for it; only `false` asks for its absence. -/
def matchesPresence (field : Option Json) (operand : Json) : Bool :=
  field.isSome == (operand != .bool false)

namespace Condition

def holds (c : Condition) (field : Option Json) : Except StoreFault Bool :=
  match c with
  | .typeIs .date => .ok (field.bind Json.asDate?).isSome
  | .typeIs .string => .ok (field.bind Json.asString?).isSome
  | .compare .eq v => .ok (matchesEq field v)
  | .compare .ne v => .ok (!matchesEq field v)
  | .compare .gt v => .ok (matchesOrder Ordering.isGT field v)
  | .compare .gte v => .ok (matchesOrder Ordering.isGE field v)
  | .compare .lt v => .ok (matchesOrder Ordering.isLT field v)
  | .compare .lte v => .ok (matchesOrder Ordering.isLE field v)
  | .compare .isIn v => .ok (matchesIn field v)
  | .compare .notIn v => .ok (!matchesIn field v)
  | .compare .exists v => .ok (matchesPresence field v)
  | .compare .regex v => matchesPattern field v

def allHold (field : Option Json) : List Condition → Except StoreFault Bool
  | [] => .ok true
  | c :: r => do
    if ← c.holds field then allHold field r else .ok false

end Condition

namespace Filter

def predicatesHold (d : Document) : List Predicate → Except StoreFault Bool
  | [] => .ok true
  | p :: r => do
    if ← Condition.allHold (d.get? p.field.text) p.conditions then predicatesHold d r
    else .ok false

def accepts (f : Filter) (d : Document) : Except StoreFault Bool := predicatesHold d f.predicates

end Filter

end EventRollup
