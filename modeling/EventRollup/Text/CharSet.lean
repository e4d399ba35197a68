namespace EventRollup.Text

structure CharRange where
  low : Nat
  high : Nat
deriving DecidableEq

def CharRange.contains (r : CharRange) (n : Nat) : Bool := decide (r.low ≤ n ∧ n ≤ r.high)

/-- A set of characters, by their code points: ranges in ascending order that do not touch, so that
every set has one form. -/
structure CharSet where
  ranges : List CharRange
deriving DecidableEq

namespace CharSet

def contains (s : CharSet) (n : Nat) : Bool := s.ranges.any (·.contains n)

def empty : CharSet := ⟨[]⟩

def all : CharSet := ⟨[⟨0, 0x10FFFF⟩]⟩

def range (low high : Nat) : CharSet := ⟨[⟨low, high⟩]⟩

def single (n : Nat) : CharSet := range n n

/-- The code points at which membership changes, in ascending order. -/
def flips (s : CharSet) : List Nat := s.ranges.flatMap fun r => [r.low, r.high + 1]

def ofFlips : List Nat → List CharRange
  | low :: next :: r => ⟨low, next - 1⟩ :: ofFlips r
  | _ => []

/-- Where the membership in a combination of two sets changes, `x` and `y` being the memberships in
the two sets so far. -/
def combineFlips (op : Bool → Bool → Bool) (x y : Bool) : List Nat → List Nat → List Nat
  | [], [] => []
  | a :: as, [] => change (op x y) (op (!x) y) a (combineFlips op (!x) y as [])
  | [], b :: bs => change (op x y) (op x (!y)) b (combineFlips op x (!y) [] bs)
  | a :: as, b :: bs =>
    if a < b then change (op x y) (op (!x) y) a (combineFlips op (!x) y as (b :: bs))
    else if b < a then change (op x y) (op x (!y)) b (combineFlips op x (!y) (a :: as) bs)
    else change (op x y) (op (!x) (!y)) a (combineFlips op (!x) (!y) as bs)
termination_by as bs => as.length + bs.length
where
  change (before after : Bool) (n : Nat) (r : List Nat) : List Nat :=
    if before = after then r else n :: r

def combine (op : Bool → Bool → Bool) (s t : CharSet) : CharSet :=
  ⟨ofFlips (combineFlips op false false s.flips t.flips)⟩

instance : Union CharSet := ⟨combine or⟩

instance : Inter CharSet := ⟨combine and⟩

instance : SDiff CharSet := ⟨combine fun x y => x && !y⟩

def symmetricDifference (s t : CharSet) : CharSet := combine xor s t

def complement (s : CharSet) : CharSet := all \ s

def joinRanges : List CharRange → List CharRange
  | a :: b :: r =>
    if b.low ≤ a.high + 1 then joinRanges (⟨a.low, max a.high b.high⟩ :: r)
    else a :: joinRanges (b :: r)
  | r => r
termination_by r => r.length

def ofRanges (rs : List CharRange) : CharSet :=
  ⟨joinRanges (rs.mergeSort fun a b => decide (a.low ≤ b.low))⟩

def ofCodes (ns : List Nat) : CharSet := ofRanges (ns.map fun n => ⟨n, n⟩)

def codes (s : CharSet) : List Nat :=
  s.ranges.flatMap fun r => List.range' r.low (r.high + 1 - r.low)

def isAscii (s : CharSet) : Bool := s.ranges.all fun r => decide (r.high < 128)

end CharSet

end EventRollup.Text
