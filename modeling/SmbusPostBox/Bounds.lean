import SmbusPostBox.Numeral

/-! Ranges of integers, and the reading of numbers that must lie in one. -/

namespace SmbusPostBox

open Text

structure Bounds where
  low : Int
  high : Option Int
  deriving DecidableEq, Repr

inductive Rejection
  | malformed
  | outOfRange (n : Int)
  | tooManyDigits
  deriving DecidableEq, Repr

namespace Bounds

def Contains (b : Bounds) (n : Int) : Prop := b.low ≤ n ∧ ∀ h ∈ b.high, n ≤ h

instance (b : Bounds) (n : Int) : Decidable (b.Contains n) :=
  match b with
  | ⟨low, none⟩ => decidable_of_iff (low ≤ n) (by simp [Contains])
  | ⟨low, some high⟩ => decidable_of_iff (low ≤ n ∧ n ≤ high) (by simp [Contains])

def text (b : Bounds) : String :=
  "[" ++ Decimal.text b.low ++ ((b.high.map (", " ++ Decimal.text ·)).getD "") ++ "]"

def read (b : Bounds) (text : String) : Except Rejection Int :=
  match Numeral.int? text.toList with
  | none => .error .malformed
  | some n =>
    if b.Contains n then .ok n
    else if Decimal.Writable n then .error (.outOfRange n)
    else .error .tooManyDigits

/-- The message about a text that was rejected; there is none if it would hold too long a number. -/
def message? (b : Bounds) (text : String) : Rejection → Option String
  | .malformed => some ("invalid integer '" ++ text ++ "'")
  | .outOfRange n => some (Decimal.text n ++ " out of range " ++ b.text)
  | .tooManyDigits => none

end Bounds

end SmbusPostBox
