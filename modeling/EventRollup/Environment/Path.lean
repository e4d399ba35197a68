import EventRollup.Environment.Value

namespace EventRollup.Environment

/-- One step down in a tree of values: to an entry of a table or to an item of a list, negative
places being counted from the end. -/
inductive Step where
  | entry (key : String)
  | item (place : Int)
deriving DecidableEq

namespace Step

def isKeyChar (c : Char) : Bool := c.isAlphanum || c == ' ' || c == '_' || c == '-'

def key? (cs : List Char) : Option (Step × List Char) :=
  match cs.takeWhile isKeyChar with
  | [] => none
  | key => some (.entry (String.ofList key), cs.dropWhile isKeyChar)

def isSpace (c : Char) : Bool := c = ' ' ∨ c = '\t' ∨ c = '\r' ∨ c = '\n'

def place? (cs : List Char) : Option (Step × List Char) := do
  let (sign, r) : Int × List Char := match cs.dropWhile isSpace with
    | '-' :: r => (-1, r)
    | r => (1, r)
  let (run, r) ← Text.digitRun? r
  let n := sign * Text.digitsValue run
  match r.dropWhile isSpace with
  | ']' :: r => if Text.leastInt64 ≤ n ∧ n ≤ Text.greatestInt64 then some (.item n, r) else none
  | _ => none

def more? : Nat → List Char → Option (List Step)
  | _, [] => some []
  | 0, _ => none
  | fuel + 1, c :: r => do
    let (step, r) ← if c = '.' then key? r else if c = '[' then place? r else none
    return step :: (← more? fuel r)

/-- Reads a path: keys after points and places in brackets, a key first. Every step uses up a
character, so the length of the text is fuel enough. -/
def path? (cs : List Char) : Option (List Step) := do
  let (step, r) ← key? cs
  return step :: (← more? r.length r)

end Step

namespace Value

def greatestPlace : Nat := 99999999

def index? (place : Int) (length : Nat) : Option Nat :=
  if place < 0 then
    if place.natAbs ≤ length then some (length - place.natAbs) else none
  else if place.toNat ≤ greatestPlace then some place.toNat
  else none

def entries : Value → List (String × Value)
  | .table es => es
  | _ => []

def items : Value → List Value
  | .list vs => vs
  | _ => []

/-- Puts a value at the end of a path. What stands in the way of a table or a list gives way to it,
and a list grows up to the place. There is no result where a list has no such place. -/
def set (new : Value) : List Step → Value → Option Value
  | [], _ => some new
  | .entry key :: path, v => do
    let child ← set new path ((v.entries.lookup key).getD .absent)
    return .table ((key, child) :: v.entries.filter fun e => e.1 != key)
  | .item place :: path, v => do
    let n ← index? place v.items.length
    let child ← set new path (v.items.getD n .absent)
    let grown := v.items ++ List.replicate (n + 1 - v.items.length) .absent
    return .list (grown.set n child)

end Value

end EventRollup.Environment
