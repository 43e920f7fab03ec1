import SmbusPostBox.Text.Rendering

/-! Integer literals: an optional sign, then decimal digits, or digits of base 16, 8 or 2 behind a mark
such as 0x. Single underscores may stand between digits and right after a mark. A decimal literal starts
with 0 only if all its digits are 0. -/

namespace SmbusPostBox.Numeral

open Text

def digit? (base : Nat) (c : Char) : Option Nat :=
  let v :=
    if c.isDigit then c.toNat - 48
    else if c.isLower then c.toNat - 87
    else if c.isUpper then c.toNat - 55
    else base
  if v < base then some v else none

/-- The text without its separators, each of which must stand between two other characters. -/
def ungroup : List Char → Option (List Char)
  | [] => none
  | [c] => if c = '_' then none else some [c]
  | c :: d :: s =>
    if c = '_' then none
    else if d = '_' then (ungroup s).map (c :: ·)
    else (ungroup (d :: s)).map (c :: ·)

def digits? (base : Nat) (s : List Char) : Option (List Nat) :=
  (ungroup s).bind fun cs => cs.mapM (digit? base)

def ofDigits (base : Nat) (ds : List Nat) : Nat := ds.foldl (fun n d => n * base + d) 0

def decimal? (s : List Char) : Option Nat := do
  let ds ← digits? 10 s
  let n := ofDigits 10 ds
  if ds.length ≤ Decimal.digitLimit ∧ (ds.head? = some 0 → n = 0) then some n else none

def base? (c : Char) : Option Nat :=
  if c = 'x' ∨ c = 'X' then some 16
  else if c = 'o' ∨ c = 'O' then some 8
  else if c = 'b' ∨ c = 'B' then some 2
  else none

def afterMark : List Char → List Char
  | '_' :: s => s
  | s => s

def magnitude? : List Char → Option Nat
  | '0' :: c :: s =>
    match base? c with
    | some base => (digits? base (afterMark s)).map (ofDigits base)
    | none => decimal? ('0' :: c :: s)
  | s => decimal? s

def signed? : List Char → Option Int
  | '+' :: s => (magnitude? s).map fun n => (n : Int)
  | '-' :: s => (magnitude? s).map fun n => -(n : Int)
  | s => (magnitude? s).map fun n => (n : Int)

/-- The number that a literal writes, with blanks round it and the digits of any script. -/
def int? (s : List Char) : Option Int := signed? ((Blank.trim s).map DecimalDigit.plain)

end SmbusPostBox.Numeral
