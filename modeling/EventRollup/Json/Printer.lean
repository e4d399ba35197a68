import EventRollup.Number.Decimal
import EventRollup.Json.Value

namespace EventRollup

def Number.chars : Number → List Char
  | .int n => if n < 0 then '-' :: Nat.toDigits 10 n.natAbs else Nat.toDigits 10 n.natAbs
  | .double d => d.chars

namespace Json

def hexDigit (n : Nat) : Char := Nat.digitChar n

/-- A character inside a string. Quotes, backslashes and the characters below the space are
escaped, everything else stands for itself. -/
def escaped (c : Char) : List Char :=
  if c = '"' then ['\\', '"']
  else if c = '\\' then ['\\', '\\']
  else if c = '\x08' then ['\\', 'b']
  else if c = '\x0c' then ['\\', 'f']
  else if c = '\n' then ['\\', 'n']
  else if c = '\r' then ['\\', 'r']
  else if c = '\t' then ['\\', 't']
  else if c.toNat < 0x20 then
    ['\\', 'u', '0', '0', hexDigit (c.toNat / 16), hexDigit (c.toNat % 16)]
  else [c]

def quoted (s : String) : List Char := '"' :: (s.toList.flatMap escaped ++ ['"'])

mutual

def chars : Json → List Char
  | .null => ['n', 'u', 'l', 'l']
  | .bool true => ['t', 'r', 'u', 'e']
  | .bool false => ['f', 'a', 'l', 's', 'e']
  | .number n => n.chars
  | .string s => quoted s
  | .array [] => ['[', ']']
  | .array (v :: r) => '[' :: (chars v ++ itemsTail r)
  | .object [] => ['{', '}']
  | .object ((k, v) :: r) => '{' :: (quoted k ++ ':' :: (chars v ++ entriesTail r))

def itemsTail : List Json → List Char
  | [] => [']']
  | v :: r => ',' :: (chars v ++ itemsTail r)

def entriesTail : List (String × Json) → List Char
  | [] => ['}']
  | (k, v) :: r => ',' :: (quoted k ++ ':' :: (chars v ++ entriesTail r))

end

def compact (v : Json) : String := String.ofList v.chars

def newline (depth : Nat) : List Char := '\n' :: List.replicate (2 * depth) ' '

mutual

def prettyChars (depth : Nat) : Json → List Char
  | .array [] => ['[', ']']
  | .array (v :: r) =>
    '[' :: (newline (depth + 1) ++ prettyChars (depth + 1) v ++ prettyItemsTail depth r)
  | .object [] => ['{', '}']
  | .object ((k, v) :: r) =>
    '{' :: (newline (depth + 1) ++ quoted k ++
      ':' :: ' ' :: (prettyChars (depth + 1) v ++ prettyEntriesTail depth r))
  | .null => chars .null
  | .bool b => chars (.bool b)
  | .number n => chars (.number n)
  | .string s => chars (.string s)

def prettyItemsTail (depth : Nat) : List Json → List Char
  | [] => newline depth ++ [']']
  | v :: r => ',' :: (newline (depth + 1) ++ prettyChars (depth + 1) v ++ prettyItemsTail depth r)

def prettyEntriesTail (depth : Nat) : List (String × Json) → List Char
  | [] => newline depth ++ ['}']
  | (k, v) :: r =>
    ',' :: (newline (depth + 1) ++ quoted k ++
      ':' :: ' ' :: (prettyChars (depth + 1) v ++ prettyEntriesTail depth r))

end

def pretty (v : Json) : String := String.ofList (prettyChars 0 v)

end Json

end EventRollup
