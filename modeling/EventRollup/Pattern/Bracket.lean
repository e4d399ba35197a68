import EventRollup.Pattern.Escape

namespace EventRollup.Pattern

open Reader Text

structure ClassPart where
  chars : CharSet
  depth : Nat

structure ClassItems where
  chars : CharSet
  count : Nat
  depth : Nat

namespace ClassItems

def none : ClassItems := ⟨.empty, 0, 0⟩

def add (items : ClassItems) (p : ClassPart) : ClassItems :=
  ⟨items.chars ∪ p.chars, items.count + 1, max items.depth p.depth⟩

def part (items : ClassItems) : ClassPart :=
  ⟨items.chars, if 1 < items.count then items.depth + 1 else items.depth⟩

end ClassItems

inductive SetOp where
  | intersection
  | difference
  | symmetricDifference
deriving DecidableEq

def SetOp.apply : SetOp → CharSet → CharSet → CharSet
  | .intersection, k, l => k ∩ l
  | .difference, k, l => k \ l
  | .symmetricDifference, k, l => k.symmetricDifference l

def folded (k : CharSet) : Reader CharSet := do
  let f ← flags
  return if !f.foldCase then k else if f.unicode then k.foldCase else k.foldAsciiCase

/-- Without Unicode a set ranges over bytes, and a match must still be text. -/
def closed (k : CharSet) : Reader CharSet := do
  require ((← flags).unicode || k.isAscii)
  return k

def foldedOrComplement (negated : Bool) (k : CharSet) : Reader CharSet := do
  let k ← folded k
  closed (if negated then k.complement else k)

def classAtom : Reader Atom := do
  match ← peek with
  | some '\\' => escape
  | some c =>
    bump
    return .literal c false
  | none => fail

def classLiteral (c : Char) : Reader Nat := do
  require ((← flags).unicode || c.toNat < 128)
  return c.toNat

/-- The character that decides what the hyphen before it means. Where blanks are skipped it is the
next one that is not blank, the sign that opens a comment left out. -/
def afterHyphen (cs : List Char) : Reader (Option Char) := do
  if (← flags).spaced then
    return match cs.dropWhile isBlank with
      | '#' :: r => (r.dropWhile isBlank).head?
      | r => r.head?
  else return cs.head?

/-- An item or a range of a bracketed class. A hyphen before the closing bracket or before another
hyphen makes no range. -/
def classRange : Reader CharSet := do
  let first ← classAtom
  skip
  let here ← rest
  require !here.isEmpty
  let next ← afterHyphen here.tail
  if here.head? != some '-' || next == some ']' || next == some '-' then
    match first with
    | .literal c _ => return .single (← classLiteral c)
    | .charClass k => closed k
    | .look _ => fail
  else
    bumpSkip
    match first, ← classAtom with
    | .literal c _, .literal d _ =>
      let low ← classLiteral c
      let high ← classLiteral d
      require (low ≤ high)
      return .range low high
    | _, _ => fail

def asciiClass? : Reader (Option CharSet) := do
  match ← rest with
  | '[' :: ':' :: r =>
    let (negated, r) := match r with
      | '^' :: r => (true, r)
      | r => (false, r)
    match r.dropWhile (· != ':') with
    | ':' :: ']' :: after =>
      match asciiSets.find? (String.ofList (r.takeWhile (· != ':'))) with
      | some k =>
        setRest after
        return some (← foldedOrComplement negated k)
      | none => return none
    | _ => return none
  | _ => return none

def setOp? : List Char → Option SetOp
  | '&' :: '&' :: _ => some .intersection
  | '-' :: '-' :: _ => some .difference
  | '~' :: '~' :: _ => some .symmetricDifference
  | _ => none

def applyPending (pending : Option (SetOp × ClassPart)) (right : ClassPart) : Reader ClassPart := do
  match pending with
  | none => return right
  | some (op, left) =>
    return ⟨op.apply (← folded left.chars) (← folded right.chars), max left.depth right.depth + 1⟩

def leadingHyphens : Nat → ClassItems → Reader ClassItems
  | 0, _ => fail
  | fuel + 1, items => do
    if (← peek) = some '-' then
      bumpSkip
      leadingHyphens fuel (items.add ⟨.single '-'.toNat, 0⟩)
    else return items

mutual

/-- A bracketed class, its bracket being next. A closing bracket that comes first is an item. -/
def bracket : Nat → Reader ClassPart
  | 0 => fail
  | fuel + 1 => do
    bumpSkip
    let negated := (← peek) == some '^'
    if negated then bumpSkip
    let hyphens ← leadingHyphens ((← rest).length + 1) .none
    let first ← do
      if hyphens.count = 0 ∧ (← peek) = some ']' then
        bumpSkip
        pure (hyphens.add ⟨.single ']'.toNat, 0⟩)
      else pure hyphens
    let inner ← classItems fuel none first
    return ⟨← foldedOrComplement negated inner.chars, inner.depth + 1⟩

/-- The items up to the closing bracket. Operators have no precedence and group to the left. -/
def classItems : Nat → Option (SetOp × ClassPart) → ClassItems → Reader ClassPart
  | 0, _, _ => fail
  | fuel + 1, pending, items => do
    skip
    let here ← rest
    match here.head?, setOp? here with
    | none, _ => fail
    | some ']', _ =>
      bump
      applyPending pending items.part
    | some '[', _ =>
      match ← asciiClass? with
      | some k => classItems fuel pending (items.add ⟨k, 0⟩)
      | none =>
        let nested ← bracket fuel
        classItems fuel pending (items.add nested)
    | some _, some op =>
      let left ← applyPending pending items.part
      setRest (here.drop 2)
      classItems fuel (some (op, left)) .none
    | some _, none =>
      let k ← classRange
      classItems fuel pending (items.add ⟨k, 0⟩)

end

end EventRollup.Pattern
