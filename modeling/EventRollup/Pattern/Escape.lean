import EventRollup.Pattern.Property
import EventRollup.Pattern.Reader
import EventRollup.Pattern.Regex

namespace EventRollup.Pattern

open Reader Text

inductive Atom where
  | literal (c : Char) (byteEscape : Bool)
  | look (l : Look)
  | charClass (k : CharSet)

def isMeta (c : Char) : Bool := c ∈ "\\.+*?()|[]\x7b\x7d^$#&-~".toList

/-- Every ASCII character but letters, digits and angle brackets may be escaped. -/
def isEscapable (c : Char) : Bool :=
  isMeta c || (c.toNat < 128 && !c.isAlphanum && c != '<' && c != '>')

def scalar? (n : Nat) : Option Char :=
  if n < 0xD800 ∨ (0xE000 ≤ n ∧ n < 0x110000) then some (Char.ofNat n) else none

def readScalar (digits : List Char) : Reader Char := do
  match digits.mapM Json.hexValue? with
  | some (d :: ds) =>
    match scalar? ((d :: ds).foldl (fun n h => n * 16 + h) 0) with
    | some c => return c
    | none => fail
  | _ => fail

def hexDigits : Nat → Reader (List Char)
  | 0 => return []
  | n + 1 => do
    match ← peek with
    | some c =>
      require (Json.hexValue? c).isSome
      bumpSkip
      return c :: (← hexDigits n)
    | none => fail

def untilBrace : Nat → Reader (List Char)
  | 0 => fail
  | fuel + 1 => do
    match ← peek with
    | some '\x7d' => return []
    | some c =>
      bumpSkip
      return c :: (← untilBrace fuel)
    | none => fail

/-- A character by its code point, the letter being read: `x`, `u` and `U` take two, four and eight
digits, or any number of them in braces. -/
def hexEscape (letter : Char) : Reader Atom := do
  skip
  if (← peek) = some '\x7b' then
    bumpSkip
    let digits ← untilBrace ((← rest).length + 1)
    bumpSkip
    return .literal (← readScalar digits) false
  else
    let width := if letter = 'x' then 2 else if letter = 'u' then 4 else 8
    let digits ← hexDigits width
    return .literal (← readScalar digits) (letter = 'x')

/-- A property escape after its letter, which is a capital where the set is complemented. A set folds
before it is complemented. -/
def propertyEscape (capital : Bool) : Reader Atom := do
  require (← flags).unicode
  skip
  match ← peek with
  | none => fail
  | some '\x7b' =>
    bumpSkip
    let name ← untilBrace ((← rest).length + 1)
    bump
    close (NamedSet.ofChars? name)
  | some c =>
    require (c != '\\')
    bumpSkip
    close ((categories.find? (plainName [c])).map fun k => ⟨k, false⟩)
where
  close (s : Option NamedSet) : Reader Atom := do
    match s with
    | none => fail
    | some s =>
      let k := if (← flags).foldCase then s.chars.foldCase else s.chars
      return .charClass (if capital != s.negated then k.complement else k)

def wordLooks : List (List Char × WordLook) :=
  [("start".toList, .start), ("end".toList, .stop), ("start-half".toList, .startHalf),
    ("end-half".toList, .stopHalf)]

/-- A word boundary, which may name its kind in braces. Braces that hold no name are left for a
repetition count. -/
def boundaryEscape : Reader Atom := do
  let unicode := (← flags).unicode
  let here ← rest
  match here with
  | '\x7b' :: inner =>
    match ← visible inner with
    | [] => fail
    | c :: _ =>
      if c.isAlpha || c == '-' then
        bumpSkip
        let name ← untilBrace ((← rest).length + 1)
        bump
        match wordLooks.lookup name with
        | some kind => return .look (.word unicode kind)
        | none => fail
      else return .look (.word unicode .boundary)
  | _ => return .look (.word unicode .boundary)

def escape : Reader Atom := do
  bump
  match ← peek with
  | none => fail
  | some c =>
    bump
    if c ∈ ['x', 'u', 'U'] then hexEscape c
    else if c = 'p' ∨ c = 'P' then propertyEscape (c = 'P')
    else if isEscapable c then return .literal c false
    else
      let unicode := (← flags).unicode
      match shorthand? unicode c.toLower with
      | some k => return .charClass (if c.isUpper then k.complement else k)
      | none =>
        match c with
        | 'a' => return .literal '\x07' false
        | 'f' => return .literal '\x0c' false
        | 't' => return .literal '\t' false
        | 'n' => return .literal '\n' false
        | 'r' => return .literal '\r' false
        | 'v' => return .literal '\x0b' false
        | 'A' => return .look .textStart
        | 'z' => return .look .textStop
        | 'b' => boundaryEscape
        | 'B' => return .look (.word unicode .noBoundary)
        | '<' => return .look (.word unicode .start)
        | '>' => return .look (.word unicode .stop)
        | _ => fail

end EventRollup.Pattern
