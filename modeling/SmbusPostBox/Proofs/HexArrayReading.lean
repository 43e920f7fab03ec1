import SmbusPostBox.Printout

/-! Reading the text of an array of hexadecimal numbers back into its bytes. A text that is not written for some byte
string is not read. -/

namespace SmbusPostBox.HexArray
open Text

def digit? (c : Char) : Option Nat := (List.range 16).find? fun d => Nat.digitChar d == c

def byte? (high low : Char) : Option UInt8 := do
  return UInt8.ofNat ((← digit? high) * 16 + (← digit? low))

def lines? : List Char → Option Bytes
  | [']'] => some []
  | ' ' :: ' ' :: ' ' :: ' ' :: '0' :: 'x' :: high :: low :: ',' :: '\n' :: s => do
    return (← byte? high low) :: (← lines? s)
  | _ => none

/-- The bytes of an array. Only the array of none is written on one line. -/
def ofChars? : List Char → Option Bytes
  | ['[', ']'] => some []
  | '[' :: '\n' :: s => (lines? s).filter (!·.isEmpty)
  | _ => none

def read? (text : String) : Option Bytes := ofChars? text.toList

theorem digit?_digitChar {d : Nat} (h : d < 16) : digit? (Nat.digitChar d) = some d := by
  revert d
  decide

theorem byte?_pair (x : UInt8) :
    byte? (Nat.digitChar (x.toNat / 16)) (Nat.digitChar (x.toNat % 16)) = some x := by
  have hx : x.toNat < 256 := x.toNat_lt
  have hhigh : digit? (Nat.digitChar (x.toNat / 16)) = some (x.toNat / 16) := digit?_digitChar (by omega)
  have hlow : digit? (Nat.digitChar (x.toNat % 16)) = some (x.toNat % 16) := digit?_digitChar (by omega)
  have hvalue : x.toNat / 16 * 16 + x.toNat % 16 = x.toNat := Nat.div_add_mod' x.toNat 16
  unfold byte?
  rw [hhigh, hlow]
  show some (UInt8.ofNat (x.toNat / 16 * 16 + x.toNat % 16)) = some x
  rw [hvalue, UInt8.ofNat_toNat]

theorem lines?_line (x : UInt8) (s : List Char) :
    lines? (line x ++ '\n' :: s) = (lines? s).map (x :: ·) := by
  have hchars : line x ++ '\n' :: s = ' ' :: ' ' :: ' ' :: ' ' :: '0' :: 'x' ::
      Nat.digitChar (x.toNat / 16) :: Nat.digitChar (x.toNat % 16) :: ',' :: '\n' :: s := rfl
  rw [hchars, lines?, byte?_pair]
  rcases lines? s with _ | b <;> rfl

theorem lines?_lines (b : Bytes) : lines? (b.flatMap (fun x => line x ++ ['\n']) ++ [']']) = some b := by
  induction b with
  | nil => rfl
  | cons x b ih =>
    rw [List.flatMap_cons, List.append_assoc, List.append_assoc, List.singleton_append, lines?_line, ih]
    rfl

theorem ofChars?_chars (b : Bytes) : ofChars? (chars b) = some b := by
  cases b with
  | nil => rfl
  | cons x b =>
    have hlines := lines?_lines (x :: b)
    show (lines? ((x :: b).flatMap (fun x => line x ++ ['\n']) ++ [']'])).filter (!·.isEmpty) = some (x :: b)
    rw [hlines]
    rfl

@[simp] theorem read?_text (b : Bytes) : read? (text b) = some b := by
  rw [read?, text, String.toList_ofList, ofChars?_chars]

/-! ### What is read was written -/

variable {b : Bytes}

theorem digit?_eq_some {c : Char} {d : Nat} (h : digit? c = some d) : d < 16 ∧ Nat.digitChar d = c :=
  ⟨List.mem_range.mp (List.mem_of_find?_eq_some h), eq_of_beq (List.find?_some (p := (Nat.digitChar · == c)) h)⟩

theorem pair_of_byte? {high low : Char} {x : UInt8} (h : byte? high low = some x) : Hex.pair x = [high, low] := by
  obtain ⟨i, hi, hrest⟩ := Option.bind_eq_some_iff.mp h
  obtain ⟨j, hj, hvalue⟩ := Option.bind_eq_some_iff.mp hrest
  obtain ⟨hi16, rfl⟩ := digit?_eq_some hi
  obtain ⟨hj16, rfl⟩ := digit?_eq_some hj
  have hlt : i * 16 + j < UInt8.size := by
    rw [UInt8.size]
    omega
  have hx : x.toNat = i * 16 + j := by
    rw [← Option.some.inj hvalue, UInt8.toNat_ofNat_of_lt' hlt]
  have hhigh : x.toNat / 16 = i := by omega
  have hlow : x.toNat % 16 = j := by omega
  rw [Hex.pair, hhigh, hlow]

theorem line_eq (x : UInt8) : line x = "    0x".toList ++ Hex.pair x ++ ",".toList := rfl

theorem eq_of_lines? {s : List Char} (h : lines? s = some b) :
    s = b.flatMap (fun x => line x ++ ['\n']) ++ [']'] := by
  fun_induction lines? s generalizing b with
  | case1 =>
    obtain rfl := Option.some.inj h
    rfl
  | case2 high low s ih =>
    obtain ⟨x, hx, htail⟩ := Option.bind_eq_some_iff.mp h
    obtain ⟨rest, hrest, hb⟩ := Option.bind_eq_some_iff.mp htail
    obtain rfl := Option.some.inj hb
    rw [List.flatMap_cons, line_eq, pair_of_byte? hx, List.append_assoc, ← ih hrest]
    rfl
  | case3 => cases h

theorem eq_chars_of_ofChars? {s : List Char} (h : ofChars? s = some b) : s = chars b := by
  unfold ofChars? at h
  split at h
  · obtain rfl := Option.some.inj h
    rfl
  · obtain ⟨hlines, hne⟩ := Option.filter_eq_some_iff.mp h
    rw [eq_of_lines? hlines]
    cases b with
    | nil => cases hne
    | cons x b => rfl
  · cases h

theorem read?_eq_some_iff {t : String} : read? t = some b ↔ text b = t := by
  constructor
  · intro h
    rw [text, ← eq_chars_of_ofChars? h, String.ofList_toList]
  · rintro rfl
    exact read?_text b

theorem text_injective : Function.Injective text := by
  intro b b' h
  exact Option.some.inj ((read?_text b).symm.trans (read?_eq_some_iff.mpr h.symm))

end SmbusPostBox.HexArray
