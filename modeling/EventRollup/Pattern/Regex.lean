import EventRollup.Text.Property.Derived
import EventRollup.Text.Utf8

namespace EventRollup.Pattern

open Text

inductive WordLook where
  | boundary
  | noBoundary
  | start
  | stop
  | startHalf
  | stopHalf
deriving DecidableEq

/-- A condition on a position between characters. With `crlf` a carriage return ends a line too, and
nothing stands between it and the line feed after it. -/
inductive Look where
  | textStart
  | textStop
  | lineStart (crlf : Bool)
  | lineStop (crlf : Bool)
  | word (unicode : Bool) (kind : WordLook)
deriving DecidableEq

namespace Look

def isWordChar (unicode : Bool) (c : Char) : Bool :=
  if unicode then Text.Property.word.contains c.toNat else c.isAlphanum || c == '_'

def holds (look : Look) (before after : Option Char) : Bool :=
  match look with
  | .textStart => before.isNone
  | .textStop => after.isNone
  | .lineStart false => before.isNone || before == some '\n'
  | .lineStart true =>
    before.isNone || before == some '\n' || (before == some '\r' && after != some '\n')
  | .lineStop false => after.isNone || after == some '\n'
  | .lineStop true =>
    after.isNone || after == some '\r' || (after == some '\n' && before != some '\r')
  | .word unicode kind =>
    let b := before.any (isWordChar unicode)
    let a := after.any (isWordChar unicode)
    match kind with
    | .boundary => b != a
    | .noBoundary => b == a
    | .start => !b && a
    | .stop => b && !a
    | .startHalf => !b
    | .stopHalf => !a

end Look

/-- Regular expressions. A literal has at least one character and a class is not a single one; the
first part of a sequence is no sequence, the first branch of an alternative no alternative. The
functions below build expressions of this form. -/
inductive Regex where
  | empty
  | literal (cs : List Char)
  | chars (k : CharSet)
  | look (l : Look)
  | group (index : Nat) (r : Regex)
  | repeated (r : Regex) (least : Nat) (greatest : Option Nat)
  | seq (a b : Regex)
  | alt (a b : Regex)
deriving DecidableEq

namespace Regex

def bytes (cs : List Char) : List Nat := cs.flatMap fun c => utf8 c.toNat

def minLength : Regex → Option Nat
  | .empty | .look _ => some 0
  | .literal cs => some (bytes cs).length
  | .chars k => k.ranges.head?.map fun r => (utf8 r.low).length
  | .group _ r => r.minLength
  | .repeated r least _ => r.minLength.map (· * least)
  | .seq a b => do return (← a.minLength) + (← b.minLength)
  | .alt a b => do return min (← a.minLength) (← b.minLength)

def maxLength : Regex → Option Nat
  | .empty | .look _ => some 0
  | .literal cs => some (bytes cs).length
  | .chars k => k.ranges.getLast?.map fun r => (utf8 r.high).length
  | .group _ r => r.maxLength
  | .repeated r _ greatest => do return (← r.maxLength) * (← greatest)
  | .seq a b => do return (← a.maxLength) + (← b.maxLength)
  | .alt a b => do return max (← a.maxLength) (← b.maxLength)

def nothing : Regex := .chars .empty

def oneOf (k : CharSet) : Regex :=
  match k.ranges with
  | [r] => if r.low = r.high then .literal [Char.ofNat r.low] else .chars k
  | _ => .chars k

/-- So many repetitions. Repeating what matches no character more than once changes nothing. -/
def times (r : Regex) (least : Nat) (greatest : Option Nat) : Regex :=
  let (least, greatest) :=
    if r.maxLength = some 0 then (min least 1, some (min (greatest.getD 1) 1)) else (least, greatest)
  if greatest = some 0 then .empty
  else if least = 1 ∧ greatest = some 1 then r
  else .repeated r least greatest

def factors : Regex → List Regex
  | .empty => []
  | .seq a b => a :: b.factors
  | r => [r]

def ofFactors : List Regex → Regex
  | [] => .empty
  | [r] => r
  | r :: rs => .seq r (ofFactors rs)

def joinLiterals (rs : List Regex) : List Regex :=
  rs.foldr (fun r joined =>
    match r, joined with
    | .literal cs, .literal ds :: rest => .literal (cs ++ ds) :: rest
    | r, rest => r :: rest) []

def sequence (rs : List Regex) : Regex := ofFactors (joinLiterals (rs.flatMap factors))

def branches : Regex → List Regex
  | .alt a b => a :: b.branches
  | r => [r]

def ofBranches : List Regex → Regex
  | [] => nothing
  | [r] => r
  | r :: rs => .alt r (ofBranches rs)

def charSet? : Regex → Option CharSet
  | .literal [c] => some (.single c.toNat)
  | .chars k => some k
  | _ => none

def unionOf (ks : List CharSet) : CharSet := .ofRanges (ks.flatMap CharSet.ranges)

def commonFactors (rs ss : List Regex) : Nat := ((rs.zip ss).takeWhile fun p => p.1 == p.2).length

def sharedFactors : List Regex → Nat
  | [] => 0
  | r :: rs =>
    if (r :: rs).all fun s => 1 < s.factors.length then
      rs.foldl (fun n s => min n (commonFactors r.factors s.factors)) r.factors.length
    else 0

/-- Joins branches. Branches of one character each make a class, and the factors that all begin with
are taken out, as often as the first argument allows. -/
def joinBranches : Nat → List Regex → Regex
  | 0, rs => ofBranches rs
  | fuel + 1, rs =>
    let rs := rs.flatMap branches
    match rs with
    | [r] => r
    | rs =>
      match rs.mapM charSet? with
      | some ks => oneOf (unionOf ks)
      | none =>
        let n := sharedFactors rs
        if n = 0 then ofBranches rs
        else
          let rests := rs.map fun s => sequence (s.factors.drop n)
          sequence ((rs.headD .empty).factors.take n ++ [joinBranches fuel rests])

def height : Regex → Nat
  | .empty | .literal _ | .chars _ | .look _ => 1
  | .group _ r => r.height
  | .repeated r _ _ => r.height
  | .seq a b => a.height + b.height
  | .alt a b => max a.height b.height

def choice (rs : List Regex) : Regex :=
  joinBranches ((rs.map height).foldl max 0 + 1) rs

end Regex

end EventRollup.Pattern
