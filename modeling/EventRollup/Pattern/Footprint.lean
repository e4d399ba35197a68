import EventRollup.Pattern.Regex

namespace EventRollup.Pattern

open Text

def stateBytes : Nat := 32

def transitionBytes : Nat := 8

def alternativeBytes : Nat := 4

inductive Direction where
  | forward
  | backward
deriving DecidableEq

def transitionState (n : Nat) : Nat := stateBytes + transitionBytes * n

def choiceState (n : Nat) : Nat := stateBytes + alternativeBytes * n

def byHead (qs : List (List ByteRange)) : List (ByteRange × List (List ByteRange)) :=
  qs.foldr (fun q groups =>
    match q, groups with
    | [], groups => groups
    | a :: q, (b, rests) :: groups =>
      if a = b then (b, q :: rests) :: groups else (a, [q]) :: (b, rests) :: groups
    | a :: q, [] => [(a, [q])]) []

/-- The numbers of transitions of the states that read sequences, level by level. A state is what can
follow after the bytes read, and equal ones are one. -/
def sharedStates : Nat → List (List (List ByteRange)) → List Nat
  | 0, _ => []
  | fuel + 1, states =>
    let groups := states.eraseDups.map byHead
    (groups.map List.length).filter (0 < ·) ++
      sharedStates fuel (groups.flatMap fun g => g.map Prod.snd)

def beginnings : Nat → List (List ByteRange) → Nat
  | 0, _ => 0
  | fuel + 1, qs => ((byHead qs).map fun g => 1 + beginnings fuel g.2).sum

/-- A class of characters. Forwards, sequences of bytes share the states of equal ends; backwards,
each is a way of its own that shares those of equal beginnings. -/
def classBytes (d : Direction) (k : CharSet) : Nat :=
  if k.isAscii then stateBytes + transitionState k.ranges.length
  else
    let qs := k.byteSequences
    match d with
    | .forward => (sharedStates 4 [qs]).foldl (fun n k => n + transitionState k) stateBytes
    | .backward => stateBytes + choiceState qs.length + stateBytes * beginnings 4 qs

def splitAtEmpty (ws : List (List Nat)) : List (List (List Nat)) :=
  ws.foldr (fun w groups =>
    match w, groups with
    | [], groups => [] :: groups
    | w, g :: groups => (w :: g) :: groups
    | w, [] => [[w]]) [[]]

def joinLeadingEmpty : List (List Nat) → List (List Nat)
  | [] :: r => [] :: r.dropWhile List.isEmpty
  | ws => ws

def firstBytes (ws : List (List Nat)) : List Nat := (ws.filterMap List.head?).eraseDups

def restsAfter (b : Nat) (ws : List (List Nat)) : List (List Nat) :=
  (ws.filter fun w => w.head? == some b).map List.tail

/-- The nodes of a tree in which words share their beginnings. At each node the words are grouped in
the order in which they are given, and one that ends there ends a group. -/
def treeBytes : Nat → List (List Nat) → Nat
  | 0, _ => 0
  | fuel + 1, ws =>
    if ws.all List.isEmpty then 0
    else
      let groups := splitAtEmpty (joinLeadingEmpty ws)
      let filled := groups.filter fun g => !g.isEmpty
      let own (g : List (List Nat)) : Nat :=
        if (firstBytes g).length = 1 then stateBytes else transitionState (firstBytes g).length
      let below (g : List (List Nat)) : Nat :=
        ((firstBytes g).map fun b => treeBytes fuel (restsAfter b g)).sum
      choiceState (filled.length + (groups.length - 1)) +
        (filled.map fun g => own g + below g).sum

namespace Regex

def literal? : Regex → Option (List Char)
  | .literal cs => some cs
  | _ => none

def literalsBytes (d : Direction) (words : List (List Char)) : Nat :=
  let words := words.map fun w => if d = .forward then bytes w else (bytes w).reverse
  stateBytes + treeBytes ((words.map List.length).foldl max 0 + 1) words

def repeatedBytes (size : Nat) (minLength : Option Nat) (least : Nat) : Option Nat → Nat
  | none =>
    if least = 0 then
      if minLength.any (0 < ·) then choiceState 2 + size
      else size + choiceState 2 + choiceState 2 + stateBytes
    else least * size + choiceState 2
  | some greatest =>
    if least = 0 ∧ greatest = 1 then size + choiceState 2 + stateBytes
    else if least = greatest then least * size
    else
      (if least = 0 then stateBytes else least * size) + stateBytes +
        (greatest - least) * (size + choiceState 2)

/-- Bytes of the states of an expression. Only reading forwards are the bounds of groups kept. The
second argument says whether an alternative adds its branches to one before. -/
def statesBytes (d : Direction) : Bool → Regex → Nat
  | _, .empty | _, .look _ => stateBytes
  | _, .literal cs => stateBytes * (bytes cs).length
  | _, .chars k => classBytes d k
  | _, .group _ r => (if d = .forward then 2 * stateBytes else 0) + r.statesBytes d false
  | _, .repeated r least greatest =>
    repeatedBytes (r.statesBytes d false) r.minLength least greatest
  | _, .seq a b => a.statesBytes d false + b.statesBytes d false
  | added, .alt a b =>
    match added, (a :: b.branches).mapM literal? with
    | false, some words => literalsBytes d words
    | _, _ =>
      (if added then alternativeBytes else stateBytes + choiceState 2) + a.statesBytes d false +
        b.statesBytes d true

def startsText : Regex → Bool
  | .look .textStart => true
  | .group _ r => r.startsText
  | .repeated r least _ => decide (0 < least) && r.startsText
  | .seq a b => a.startsText || (a.maxLength = some 0 && b.startsText)
  | .alt a b => a.startsText && b.startsText
  | _ => false

def stopsText : Regex → Bool
  | .look .textStop => true
  | .group _ r => r.stopsText
  | .repeated r least _ => decide (0 < least) && r.stopsText
  | .seq a b => b.stopsText || (b.maxLength = some 0 && a.stopsText)
  | .alt a b => a.stopsText && b.stopsText
  | _ => false

/-- States that skip what stands before a match: a repetition of any byte, unless the match is bound
to the end from which the text is read. -/
def skipBytes (bound : Bool) : Nat :=
  if bound then stateBytes else stateBytes + transitionState 1 + choiceState 2

def footprint (d : Direction) (r : Regex) : Nat :=
  let bound := if d = .forward then r.startsText else r.stopsText
  skipBytes bound + (if d = .forward then 2 * stateBytes else 0) + stateBytes +
    r.statesBytes d false

def greatestFootprint : Nat := 10485760

def fits (r : Regex) : Bool :=
  decide (r.footprint .forward ≤ greatestFootprint ∧ r.footprint .backward ≤ greatestFootprint)

end Regex

end EventRollup.Pattern
