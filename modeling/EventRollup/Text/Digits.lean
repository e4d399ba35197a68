namespace EventRollup.Text

def digitsValue (cs : List Char) : Nat := Nat.ofDigitChars 10 cs 0

def exactDigits? (n : Nat) (cs : List Char) : Option (Nat × List Char) :=
  let front := cs.take n
  if front.length = n ∧ front.all Char.isDigit then some (digitsValue front, cs.drop n) else none

def digitRun? (cs : List Char) : Option (List Char × List Char) :=
  match cs.takeWhile Char.isDigit with
  | [] => none
  | run => some (run, cs.dropWhile Char.isDigit)

def upToDigits? (n : Nat) (cs : List Char) : Option (Nat × List Char) :=
  match (cs.take n).takeWhile Char.isDigit with
  | [] => none
  | run => some (digitsValue run, cs.drop run.length)

def leastInt64 : Int := -9223372036854775808

def greatestInt64 : Int := 9223372036854775807

/-- Reads a whole text as a decimal integer of 64 bits: an optional sign, then digits alone. -/
def toInt64? (s : String) : Option Int :=
  let unsigned (cs : List Char) : Option Nat :=
    match digitRun? cs with
    | some (run, []) => some (digitsValue run)
    | _ => none
  let n? : Option Int := match s.toList with
    | '+' :: r => (unsigned r).map fun n => n
    | '-' :: r => (unsigned r).map fun n => -n
    | cs => (unsigned cs).map fun n => n
  n?.filter fun n => decide (leastInt64 ≤ n ∧ n ≤ greatestInt64)

def padded (width n : Nat) : List Char :=
  let ds := Nat.toDigits 10 n
  List.replicate (width - ds.length) '0' ++ ds

theorem digitsValue_padded (width n : Nat) : digitsValue (padded width n) = n := by
  simp only [digitsValue, padded]
  rw [Nat.ofDigitChars_append, Nat.ofDigitChars_replicate_zero, Nat.mul_zero]
  exact Nat.ofDigitChars_toDigits (by decide) (by decide)

theorem isDigit_of_mem_padded {width n : Nat} {c : Char} (h : c ∈ padded width n) :
    c.isDigit = true := by
  simp only [padded, List.mem_append] at h
  rcases h with h | h
  · rw [(List.mem_replicate.1 h).2]
    rfl
  · exact Nat.isDigit_of_mem_toDigits (by decide) (by decide) h

theorem length_padded {width n : Nat} (hw : 0 < width) (h : n < Nat.pow 10 width) :
    (padded width n).length = width := by
  have hle := (@Nat.length_toDigits_le_iff 10 n width (by decide) hw).2 h
  simp only [padded, List.length_append, List.length_replicate]
  exact Nat.sub_add_cancel hle

theorem exactDigits?_padded {width n : Nat} (hw : 0 < width) (h : n < Nat.pow 10 width)
    (r : List Char) : exactDigits? width (padded width n ++ r) = some (n, r) := by
  have hl := length_padded hw h
  simp only [exactDigits?, List.take_left' hl, List.drop_left' hl]
  rw [if_pos ⟨hl, List.all_eq_true.2 fun c hc => isDigit_of_mem_padded hc⟩, digitsValue_padded]

end EventRollup.Text
