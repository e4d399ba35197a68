import EventRollup.Json.Reader
import EventRollup.Text.Blank

namespace EventRollup.Pattern

structure Flags where
  foldCase : Bool
  multiLine : Bool
  dotAll : Bool
  unicode : Bool
  crlf : Bool
  /-- Blanks and comments between the parts of the pattern are skipped. -/
  spaced : Bool
deriving DecidableEq

def Flags.standard : Flags := ⟨false, false, false, true, false, false⟩

def Flags.set (f : Flags) (letter : Char) (on : Bool) : Flags :=
  match letter with
  | 'i' => { f with foldCase := on }
  | 'm' => { f with multiLine := on }
  | 's' => { f with dotAll := on }
  | 'u' => { f with unicode := on }
  | 'R' => { f with crlf := on }
  | 'x' => { f with spaced := on }
  | _ => f

structure State where
  rest : List Char
  flags : Flags
  /-- How many groups have been opened that keep what they match. -/
  groups : Nat
  groupNames : List (List Char)

abbrev Reader := StateT State Option

namespace Reader

def fail {α : Type} : Reader α := fun _ => none

def require (b : Bool) : Reader Unit := if b then pure () else fail

def rest : Reader (List Char) := do return (← get).rest

def setRest (cs : List Char) : Reader Unit := modify fun s => { s with rest := cs }

def flags : Reader Flags := do return (← get).flags

def setFlags (f : Flags) : Reader Unit := modify fun s => { s with flags := f }

def peek : Reader (Option Char) := do return (← rest).head?

def bump : Reader Unit := do setRest (← rest).tail

/-- What is left after blanks and comments; the first argument says whether a comment is open. -/
def skipSpaced : Bool → List Char → List Char
  | _, [] => []
  | true, c :: r => skipSpaced (c != '\n') r
  | false, c :: r =>
    if c = '#' then skipSpaced true r
    else if Text.isBlank c then skipSpaced false r
    else c :: r

def visible (cs : List Char) : Reader (List Char) := do
  return if (← flags).spaced then skipSpaced false cs else cs

def skip : Reader Unit := do setRest (← visible (← rest))

def bumpSkip : Reader Unit := do
  bump
  skip

def expect (c : Char) : Reader Unit := do
  require ((← peek) == some c)
  bump

end Reader

end EventRollup.Pattern
