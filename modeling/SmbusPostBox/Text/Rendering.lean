import SmbusPostBox.Bytes
import SmbusPostBox.Text.Characters

/-! Text of numbers and of byte strings, in decimal and in lower-case hexadecimal, and quoted text. -/

namespace SmbusPostBox.Text.Decimal

def digits (n : Nat) : List Char := Nat.toDigits 10 n

def chars : Int → List Char
  | .ofNat n => digits n
  | .negSucc n => '-' :: digits (n + 1)

def text (n : Int) : String := String.ofList (chars n)

/-- The most digits of a decimal number that is read or written; a sign is no digit. -/
def digitLimit : Nat := 4300

def ceiling : Nat := Nat.pow 10 digitLimit

def Writable (n : Int) : Prop := n.natAbs < ceiling

instance (n : Int) : Decidable (Writable n) := inferInstanceAs (Decidable (_ < _))

theorem writable_of_natAbs_lt {n : Int} (h : n.natAbs < 100000) : Writable n := by
  have hd : 5 ≤ digitLimit := by decide
  unfold Writable ceiling
  -- With the limit left open, nothing computes its power.
  generalize digitLimit = k at hd
  exact Nat.lt_of_lt_of_le h (Nat.pow_le_pow_right (n := 10) (by decide) hd)

end SmbusPostBox.Text.Decimal

namespace SmbusPostBox.Text.Hex

def digits (n : Nat) : List Char := Nat.toDigits 16 n

/-- The digits of `n` behind as many zeros as make at least `width`. -/
def padded (width n : Nat) : List Char :=
  List.replicate (width - (digits n).length) '0' ++ digits n

def pair (x : UInt8) : List Char :=
  [Nat.digitChar (x.toNat / 16), Nat.digitChar (x.toNat % 16)]

def text (n : Nat) : String := String.ofList (digits n)

def ofBytes (b : Bytes) : String := String.ofList (b.flatMap pair)

end SmbusPostBox.Text.Hex

namespace SmbusPostBox.Text.Quoted

def single : Char := '\x27'
def double : Char := '\x22'

def mark (s : List Char) : Char := if single ∈ s ∧ double ∉ s then double else single

def escape (q c : Char) : List Char :=
  if c = q ∨ c = '\\' then ['\\', c]
  else if c = '\n' then ['\\', 'n']
  else if c = '\r' then ['\\', 'r']
  else if c = '\t' then ['\\', 't']
  else if Printable.isPrintable c then [c]
  else if c.toNat < 0x100 then '\\' :: 'x' :: Hex.padded 2 c.toNat
  else if c.toNat < 0x10000 then '\\' :: 'u' :: Hex.padded 4 c.toNat
  else '\\' :: 'U' :: Hex.padded 8 c.toNat

def encode (s : List Char) : List Char := mark s :: s.flatMap (escape (mark s)) ++ [mark s]

def text (s : String) : String := String.ofList (encode s.toList)

end SmbusPostBox.Text.Quoted
