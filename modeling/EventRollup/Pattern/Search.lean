import EventRollup.Pattern.Regex

namespace EventRollup.Pattern

open Text

/-- An expression with its repetitions written out. A class is marked when a match so far can end
with the character it stands for. -/
inductive Tracker where
  | empty
  | chars (k : CharSet) (marked : Bool)
  | look (l : Look)
  | seq (a b : Tracker)
  | alt (a b : Tracker)
  /-- One match or more in a row. -/
  | more (r : Tracker)

namespace Tracker

def power (r : Tracker) (n : Nat) : Tracker :=
  if n = 0 then .empty
  else if n = 1 then r
  else
    let half := power r (n / 2)
    if n % 2 = 0 then .seq half half else .seq r (.seq half half)

def ofLiteral (cs : List Char) : Tracker :=
  cs.foldr (fun c r => .seq (.chars (.single c.toNat) false) r) .empty

def ofRegex : Regex → Tracker
  | .empty => .empty
  | .literal cs => ofLiteral cs
  | .chars k => .chars k false
  | .look l => .look l
  | .group _ r => ofRegex r
  | .repeated r 0 none => .alt (.more (ofRegex r)) .empty
  | .repeated r (n + 1) none => let t := ofRegex r; .seq (power t n) (.more t)
  | .repeated r least (some greatest) =>
    let t := ofRegex r
    .seq (power t least) (power (.alt t .empty) (greatest - least))
  | .seq a b => .seq (ofRegex a) (ofRegex b)
  | .alt a b => .alt (ofRegex a) (ofRegex b)

/-- A position in a text, by the characters on both sides of it; the ends of the text have none. -/
structure Position where
  before : Option Char
  after : Option Char

def nullable (p : Position) : Tracker → Bool
  | .empty => true
  | .chars _ _ => false
  | .look l => l.holds p.before p.after
  | .seq a b => a.nullable p && b.nullable p
  | .alt a b => a.nullable p || b.nullable p
  | .more r => r.nullable p

def exits (p : Position) : Tracker → Bool
  | .empty | .look _ => false
  | .chars _ marked => marked
  | .seq a b => b.exits p || (b.nullable p && a.exits p)
  | .alt a b => a.exits p || b.exits p
  | .more r => r.exits p

/-- Moves the marks over the character after a position. `entered` tells whether a match can begin
there. -/
def step (p : Position) (c : Char) : Bool → Tracker → Tracker
  | _, .empty => .empty
  | _, .look l => .look l
  | entered, .chars k _ => .chars k (entered && k.contains c.toNat)
  | entered, .seq a b =>
    .seq (a.step p c entered) (b.step p c (a.exits p || (entered && a.nullable p)))
  | entered, .alt a b => .alt (a.step p c entered) (b.step p c entered)
  | entered, .more r => .more (r.step p c (entered || r.exits p))

def find (t : Tracker) (before : Option Char) : List Char → Bool
  | [] =>
    let p : Position := ⟨before, none⟩
    t.nullable p || t.exits p
  | c :: r =>
    let p : Position := ⟨before, some c⟩
    t.nullable p || t.exits p || (t.step p c true).find (some c) r

end Tracker

def Regex.isMatch (r : Regex) (text : String) : Bool := (Tracker.ofRegex r).find none text.toList

end EventRollup.Pattern
