import EventRollup.Text.CharSet

namespace EventRollup.Text

def utf8 (n : Nat) : List Nat :=
  if n < 0x80 then [n]
  else if n < 0x800 then [0xC0 + n / 0x40, 0x80 + n % 0x40]
  else if n < 0x10000 then [0xE0 + n / 0x1000, 0x80 + n / 0x40 % 0x40, 0x80 + n % 0x40]
  else [0xF0 + n / 0x40000, 0x80 + n / 0x1000 % 0x40, 0x80 + n / 0x40 % 0x40, 0x80 + n % 0x40]

structure ByteRange where
  low : Nat
  high : Nat
deriving DecidableEq, Hashable

namespace CharRange

def cutAt (n : Nat) (r : CharRange) : List CharRange :=
  if r.low < n ∧ n ≤ r.high then [⟨r.low, n - 1⟩, ⟨n, r.high⟩] else [r]

def cutBlocks (size : Nat) (r : CharRange) : List CharRange :=
  let first := if r.low % size = 0 then r.low else (r.low / size + 1) * size
  let last := (r.high + 1) / size * size
  if r.high < 0x80 ∨ r.low / size = r.high / size then [r]
  else (cutAt first r).flatMap (cutAt last)

/-- Cuts a range so that the characters of a piece are the combinations of one range of bytes at
each place. Characters of one block differ in their last byte alone. -/
def pieces (r : CharRange) : List CharRange :=
  let cuts : List (CharRange → List CharRange) :=
    [cutAt 0x80, cutAt 0x800, cutAt 0xD800, cutAt 0xE000, cutAt 0x10000, cutBlocks 0x40,
      cutBlocks 0x1000, cutBlocks 0x40000]
  let isText (p : CharRange) : Bool := decide (p.high < 0xD800 ∨ 0xE000 ≤ p.low)
  if r.low / 0x40 = r.high / 0x40 then [r].filter isText
  else (cuts.foldl (fun ps cut => ps.flatMap cut) [r]).filter isText

def byteRanges (r : CharRange) : List ByteRange :=
  List.zipWith ByteRange.mk (utf8 r.low) (utf8 r.high)

end CharRange

def CharSet.byteSequences (s : CharSet) : List (List ByteRange) :=
  s.ranges.flatMap fun r => r.pieces.map (·.byteRanges)

end EventRollup.Text
