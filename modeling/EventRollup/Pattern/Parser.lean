import EventRollup.Pattern.Bracket
import EventRollup.Pattern.Footprint
import EventRollup.Pattern.Search

namespace EventRollup.Pattern

open Reader Text

structure Part where
  regex : Regex
  depth : Nat

namespace Part

def repeated (p : Part) (least : Nat) (greatest : Option Nat) : Part :=
  ⟨p.regex.times least greatest, p.depth + 1⟩

def deepest (ps : List Part) : Nat := (ps.map (·.depth)).foldl max 0

def levels (ps : List Part) : Nat := if 1 < ps.length then deepest ps + 1 else deepest ps

def sequence (ps : List Part) : Part := ⟨.sequence (ps.map (·.regex)), levels ps⟩

def choice (ps : List Part) : Part := ⟨.choice (ps.map (·.regex)), levels ps⟩

/-- A sequence whose parts are given last first; none stands for a setting of flags, which matches
nothing but a position. -/
def join (ps : List (Option Part)) : Part := sequence (ps.reverse.map (·.getD ⟨.empty, 0⟩))

end Part

def dot : Reader Regex := do
  let f ← flags
  require f.unicode
  let ends : CharSet := if f.crlf then .ofCodes [0xA, 0xD] else .single 0xA
  return .oneOf (if f.dotAll then .all else ends.complement)

def primitive (c : Char) : Reader Regex := do
  let f ← flags
  match c with
  | '\\' =>
    match ← escape with
    | .literal c byteEscape =>
      require (f.unicode || !byteEscape || c.toNat < 128)
      return .oneOf (← folded (.single c.toNat))
    | .look l => return .look l
    | .charClass k => return .oneOf (← closed k)
  | '.' =>
    bump
    dot
  | '^' =>
    bump
    return .look (if f.multiLine then .lineStart f.crlf else .textStart)
  | '$' =>
    bump
    return .look (if f.multiLine then .lineStop f.crlf else .textStop)
  | c =>
    bump
    return .oneOf (← folded (.single c.toNat))

def isNameChar (first : Bool) (c : Char) : Bool :=
  c == '_' || Property.alphabetic.contains c.toNat ||
    (!first && (c == '.' || c == '[' || c == ']' ||
      GeneralCategory.numbers.any fun g => g.chars.contains c.toNat))

def groupName : Reader Unit := do
  let here ← rest
  let name := here.takeWhile (· != '>')
  let valid := match name with
    | [] => false
    | c :: r => isNameChar true c && r.all (isNameChar false)
  require (valid && (here.drop name.length).head? == some '>')
  require !((← get).groupNames.contains name)
  modify fun s => { s with groupNames := name :: s.groupNames, rest := here.drop (name.length + 1) }

/-- The flag letters up to a colon or a parenthesis, and what follows. No letter may come twice and
the hyphen only once, not at the end. -/
def flagLetters? : List Char → List Char → Option (List Char × List Char)
  | seen, c :: r =>
    if c = ':' ∨ c = ')' then
      if seen.head? = some '-' then none else some (seen.reverse, c :: r)
    else if c ∈ "ismUuRx-".toList ∧ c ∉ seen then flagLetters? (c :: seen) r
    else none
  | _, [] => none

def Flags.setAll (f : Flags) (letters : List Char) : Flags :=
  let on := letters.takeWhile (· != '-')
  let off := letters.drop (on.length + 1)
  off.foldl (·.set · false) (on.foldl (·.set · true) f)

inductive GroupHead where
  /-- Only a setting of flags, without content. -/
  | setting
  | plain (inner : Flags)
  /-- A group that keeps what it matches. -/
  | kept (inner : Flags)

def groupHead : Reader GroupHead := do
  bumpSkip
  let f ← flags
  match ← rest with
  | '?' :: '=' :: _ | '?' :: '!' :: _ | '?' :: '<' :: '=' :: _ | '?' :: '<' :: '!' :: _ => fail
  | '?' :: 'P' :: '<' :: r | '?' :: '<' :: r =>
    setRest r
    groupName
    return .kept f
  | '?' :: r =>
    match flagLetters? [] r with
    | none => fail
    | some (letters, r) =>
      setRest r.tail
      if r.head? = some ':' then return .plain (f.setAll letters)
      else
        require !letters.isEmpty
        setFlags (f.setAll letters)
        return .setting
  | _ => return .kept f

def openGroup : Reader Nat := do
  let n := (← get).groups + 1
  modify fun s => { s with groups := n }
  return n

def count : Reader (Option Nat) := do
  setRest ((← rest).dropWhile Text.isBlank)
  let digits ← digitsHere ((← rest).length + 1)
  setRest ((← rest).dropWhile Text.isBlank)
  skip
  let n := Text.digitsValue digits
  require (n < 4294967296)
  return if digits.isEmpty then none else some n
where
  digitsHere : Nat → Reader (List Char)
    | 0 => fail
    | fuel + 1 => do
      match ← peek with
      | some c =>
        if c.isDigit then
          bumpSkip
          return c :: (← digitsHere fuel)
        else return []
      | none => return []

def required {α : Type} : Option α → Reader α
  | some a => pure a
  | none => fail

def countedBounds : Reader (Nat × Option Nat) := do
  bumpSkip
  let least ← required (← count)
  let bounds ← do
    if (← peek) = some ',' then
      bumpSkip
      if (← peek) = some '\x7d' then pure (least, none)
      else
        let greatest ← required (← count)
        require (least ≤ greatest)
        pure (least, some greatest)
    else pure (least, some least)
  expect '\x7d'
  return bounds

def repetition? : Char → Option (Nat × Option Nat)
  | '?' => some (0, some 1)
  | '*' => some (0, none)
  | '+' => some (1, none)
  | _ => none

/-- A question mark after a repetition changes which match is preferred, not whether there is
one. -/
def skipLazy : Reader Unit := do
  if (← peek) = some '?' then bump

mutual

/-- Alternatives up to a closing parenthesis or the end. Every call here uses up a character or
leaves to one that does. -/
def alternatives : Nat → Reader (List Part)
  | 0 => fail
  | fuel + 1 => do
    let first ← sequence fuel []
    if (← peek) = some '|' then
      bump
      return first :: (← alternatives fuel)
    else return [first]

/-- The parts of a sequence, those before in reverse. A setting of flags takes a place but cannot be
repeated. -/
def sequence : Nat → List (Option Part) → Reader Part
  | 0, _ => fail
  | fuel + 1, parts => do
    skip
    match ← peek with
    | none => return .join parts
    | some '|' => return .join parts
    | some ')' => return .join parts
    | some '(' =>
      let part ← group fuel
      sequence fuel (part :: parts)
    | some '[' =>
      let k ← bracket fuel
      sequence fuel (some ⟨.oneOf k.chars, k.depth⟩ :: parts)
    | some '\x7b' =>
      match parts with
      | some p :: before =>
        let (least, greatest) ← countedBounds
        skip
        skipLazy
        sequence fuel (some (p.repeated least greatest) :: before)
      | _ => fail
    | some c =>
      match repetition? c, parts with
      | some (least, greatest), some p :: before =>
        bump
        skipLazy
        sequence fuel (some (p.repeated least greatest) :: before)
      | some _, _ => fail
      | none, parts =>
        let r ← primitive c
        sequence fuel (some ⟨r, 0⟩ :: parts)

def group : Nat → Reader (Option Part)
  | 0 => fail
  | fuel + 1 => do
    let outer ← flags
    match ← groupHead with
    | .setting => return none
    | .plain inner =>
      let p ← content fuel outer inner
      return some ⟨p.regex, p.depth + 1⟩
    | .kept inner =>
      let n ← openGroup
      let p ← content fuel outer inner
      return some ⟨.group n p.regex, p.depth + 1⟩

def content : Nat → Flags → Flags → Reader Part
  | 0, _, _ => fail
  | fuel + 1, outer, inner => do
    setFlags inner
    let branches ← alternatives fuel
    expect ')'
    setFlags outer
    return .choice branches

end

def greatestNesting : Nat := 250

def compile? (pattern : String) : Option Regex :=
  let cs := pattern.toList
  match alternatives (5 * cs.length + 5) ⟨cs, .standard, 0, []⟩ with
  | some (branches, s) =>
    let p := Part.choice branches
    if s.rest.isEmpty ∧ p.depth ≤ greatestNesting ∧ p.regex.fits then some p.regex else none
  | none => none

def isValid (pattern : String) : Bool := (compile? pattern).isSome

end EventRollup.Pattern
