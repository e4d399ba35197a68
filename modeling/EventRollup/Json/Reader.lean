import EventRollup.Document
import EventRollup.Number.Scientific

namespace EventRollup.Json

def isSpace (c : Char) : Bool := c = ' ' ∨ c = '\n' ∨ c = '\r' ∨ c = '\t'

def skipSpace (cs : List Char) : List Char := cs.dropWhile isSpace

def hexValue? (c : Char) : Option Nat :=
  if '0' ≤ c ∧ c ≤ '9' then some (c.toNat - '0'.toNat)
  else if 'a' ≤ c ∧ c ≤ 'f' then some (c.toNat - 'a'.toNat + 10)
  else if 'A' ≤ c ∧ c ≤ 'F' then some (c.toNat - 'A'.toNat + 10)
  else none

def unit? : List Char → Option (Nat × List Char)
  | a :: b :: c :: d :: r => do
    let a ← hexValue? a
    let b ← hexValue? b
    let c ← hexValue? c
    let d ← hexValue? d
    some (((a * 16 + b) * 16 + c) * 16 + d, r)
  | _ => none

/-- The character written by `\u` escapes, the first `\u` being read. A high surrogate needs its
partner right after it; a surrogate alone is refused. -/
def escapedUnit? (cs : List Char) : Option (Char × List Char) := do
  let (high, r) ← unit? cs
  if 0xD800 ≤ high ∧ high < 0xDC00 then
    match r with
    | '\\' :: 'u' :: r =>
      let (low, r) ← unit? r
      if 0xDC00 ≤ low ∧ low < 0xE000 then
        some (Char.ofNat (0x10000 + (high - 0xD800) * 0x400 + (low - 0xDC00)), r)
      else none
    | _ => none
  else if 0xDC00 ≤ high ∧ high < 0xE000 then none
  else some (Char.ofNat high, r)

def simpleEscape? : Char → Option Char
  | '"' => some '"'
  | '\\' => some '\\'
  | '/' => some '/'
  | 'b' => some '\x08'
  | 'f' => some '\x0c'
  | 'n' => some '\n'
  | 'r' => some '\r'
  | 't' => some '\t'
  | _ => none

/-- The rest of a string after its opening quote, `seen` being the characters before in reverse.
Every step uses up a character, so the length of the text is fuel enough. -/
def stringTail? : Nat → List Char → List Char → Option (String × List Char)
  | 0, _, _ => none
  | _ + 1, _, [] => none
  | _ + 1, seen, '"' :: r => some (String.ofList seen.reverse, r)
  | fuel + 1, seen, '\\' :: 'u' :: r => do
    let (c, r) ← escapedUnit? r
    stringTail? fuel (c :: seen) r
  | fuel + 1, seen, '\\' :: c :: r => do
    let c ← simpleEscape? c
    stringTail? fuel (c :: seen) r
  | fuel + 1, seen, c :: r =>
    if c.toNat < 0x20 ∨ c = '\\' then none else stringTail? fuel (c :: seen) r

def wholeDigits? (cs : List Char) : Option (List Char × List Char) :=
  match Text.digitRun? cs with
  | some ('0' :: _ :: _, _) => none
  | other => other

def fraction? : List Char → Option (List Char × List Char)
  | '.' :: r => Text.digitRun? r
  | cs => some ([], cs)

def exponent? (cs : List Char) : Option (Option Int × List Char) :=
  let signed (r : List Char) : Option (Option Int × List Char) :=
    let value (sign : Int) (r : List Char) : Option (Option Int × List Char) :=
      (Text.digitRun? r).map fun (run, r) => (some (sign * Text.digitsValue run), r)
    match r with
    | '+' :: r => value 1 r
    | '-' :: r => value (-1) r
    | r => value 1 r
  match cs with
  | 'e' :: r => signed r
  | 'E' :: r => signed r
  | cs => some (none, cs)

/-- A number with a point or an exponent. An exponent beyond 32 bits leaves only zero. -/
def doubleOf? (negative : Bool) (whole fraction : List Char) (exponent : Int) : Option Double :=
  let s := Scientific.ofDigits whole fraction
  if exponent.natAbs ≤ 2147483647 then (s.shift exponent).toDouble? negative
  else if s.significand = 0 ∨ exponent < 0 then some { Double.zero with negative := negative }
  else none

/-- Without point and exponent a number is an integer as far as 64 bits reach, signed below zero
and unsigned above; a negative zero and everything else is a double. -/
def numberOf? (negative : Bool) (whole fraction : List Char) (exponent : Option Int) :
    Option Number :=
  let n := Text.digitsValue whole
  let plain := fraction.isEmpty && exponent.isNone
  if plain ∧ negative ∧ 0 < n ∧ n ≤ 9223372036854775808 then some (.int (-n))
  else if plain ∧ !negative ∧ n < 18446744073709551616 then some (.int n)
  else (doubleOf? negative whole fraction (exponent.getD 0)).map .double

def number? (cs : List Char) : Option (Json × List Char) := do
  let (negative, cs) := match cs with
    | '-' :: r => (true, r)
    | cs => (false, cs)
  let (whole, cs) ← wholeDigits? cs
  let (fraction, cs) ← fraction? cs
  let (exponent, cs) ← exponent? cs
  let n ← numberOf? negative whole fraction exponent
  some (.number n, cs)

mutual

/-- Reads a value at the front of the text. `depth` is how many arrays and objects may still be
opened inside each other. Of two calls in a row at least one uses up a character, so twice the
length of the text is fuel enough. -/
def value? : Nat → Nat → List Char → Option (Json × List Char)
  | 0, _, _ => none
  | fuel + 1, depth, cs =>
    match skipSpace cs, depth with
    | 'n' :: 'u' :: 'l' :: 'l' :: r, _ => some (.null, r)
    | 't' :: 'r' :: 'u' :: 'e' :: r, _ => some (.bool true, r)
    | 'f' :: 'a' :: 'l' :: 's' :: 'e' :: r, _ => some (.bool false, r)
    | '"' :: r, _ => (stringTail? fuel [] r).map fun (s, r) => (.string s, r)
    | '[' :: r, depth + 1 =>
      match skipSpace r with
      | ']' :: r => some (.array [], r)
      | r => (items? fuel depth r).map fun (vs, r) => (.array vs, r)
    | '{' :: r, depth + 1 =>
      match skipSpace r with
      | '}' :: r => some (.object [], r)
      | r => (entries? fuel depth [] r).map fun (d, r) => (.object d, r)
    | cs, _ => number? cs

def items? : Nat → Nat → List Char → Option (List Json × List Char)
  | 0, _, _ => none
  | fuel + 1, depth, cs => do
    let (v, r) ← value? fuel depth cs
    match skipSpace r with
    | ',' :: r => (items? fuel depth r).map fun (vs, r) => (v :: vs, r)
    | ']' :: r => some ([v], r)
    | _ => none

def entries? : Nat → Nat → Document → List Char → Option (Document × List Char)
  | 0, _, _, _ => none
  | fuel + 1, depth, d, cs =>
    match skipSpace cs with
    | '"' :: r => do
      let (k, r) ← stringTail? fuel [] r
      match skipSpace r with
      | ':' :: r =>
        let (v, r) ← value? fuel depth r
        match skipSpace r with
        | ',' :: r => entries? fuel depth (d.insert k v) r
        | '}' :: r => some (d.insert k v, r)
        | _ => none
      | _ => none
    | _ => none

end

def greatestDepth : Nat := 127

def read? (s : String) : Option Json :=
  let cs := s.toList
  match value? (2 * cs.length + 2) greatestDepth cs with
  | some (v, r) => if (skipSpace r).isEmpty then some v else none
  | none => none

end EventRollup.Json
