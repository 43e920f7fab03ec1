import Mathlib.Data.Nat.Digits.Lemmas
import SmbusPostBox.Proofs.LiteralGrammar

/-! Numbers in writing, in each base and with capitals, separators, signs and blanks at will. Every number is read
back from each of its spellings, except that decimal ones are bounded in length. -/

namespace SmbusPostBox
open Text

namespace Numeral

inductive Radix
  | decimal
  | hexadecimal
  | octal
  | binary
  deriving DecidableEq, Repr

namespace Radix

def base : Radix → Nat
  | decimal => 10
  | hexadecimal => 16
  | octal => 8
  | binary => 2

def letter? : Radix → Option Char
  | decimal => none
  | hexadecimal => some 'x'
  | octal => some 'o'
  | binary => some 'b'

theorem one_lt_base (r : Radix) : 1 < r.base := by cases r <;> decide

theorem base_le (r : Radix) : r.base ≤ 16 := by cases r <;> decide

theorem letter?_eq_none_iff {r : Radix} : r.letter? = none ↔ r = decimal := by cases r <;> decide

end Radix

/-- How a number is written. Digits are told by their positions, from the front. -/
structure Style where
  radix : Radix := .decimal
  plus : Bool := false
  capitalMark : Bool := false
  apart : Bool := false
  capital : Nat → Bool := fun _ => false
  separated : Nat → Bool := fun _ => false
  before : List Char := []
  after : List Char := []
  blank_before : before.all Blank.isBlank = true := by decide
  blank_after : after.all Blank.isBlank = true := by decide

namespace Style

def cased (capital : Bool) (c : Char) : Char := if capital then c.toUpper else c

def group (t : Style) (k : Nat) : List Char → List Char
  | [] => []
  | [c] => [cased (t.capital k) c]
  | c :: d :: cs =>
    cased (t.capital k) c :: if t.separated k then '_' :: t.group (k + 1) (d :: cs) else t.group (k + 1) (d :: cs)

def sign (t : Style) (n : Int) : List Char := if n < 0 then ['-'] else if t.plus then ['+'] else []

def mark (t : Style) : List Char :=
  match t.radix.letter? with
  | none => []
  | some c => '0' :: cased t.capitalMark c :: if t.apart then ['_'] else []

def magnitude (t : Style) (n : Nat) : List Char := t.mark ++ t.group 0 (Nat.toDigits t.radix.base n)

def text (t : Style) (n : Int) : String :=
  String.ofList (t.before ++ (t.sign n ++ t.magnitude n.natAbs) ++ t.after)

end Style

/-! ### Digits of numbers -/

def numerals (base n : Nat) : List Nat := if n = 0 then [0] else (Nat.digits base n).reverse

section
variable (base n : Nat)

theorem numerals_ne_nil : numerals base n ≠ [] := by
  unfold numerals
  split_ifs with hn
  · exact List.cons_ne_nil 0 []
  · exact List.reverse_ne_nil_iff.mpr (Nat.digits_ne_nil_iff_ne_zero.mpr hn)

theorem ofDigits_numerals : Nat.ofDigits base (numerals base n).reverse = n := by
  unfold numerals
  split_ifs with hn
  · exact hn.symm
  · rw [List.reverse_reverse, Nat.ofDigits_digits]

variable {base n}

theorem lt_of_mem_numerals (hbase : 1 < base) {d : Nat} (h : d ∈ numerals base n) : d < base := by
  unfold numerals at h
  split_ifs at h
  · obtain rfl := List.mem_singleton.mp h
    omega
  · exact Nat.digits_lt_base hbase (List.mem_reverse.mp h)

theorem numerals_of_head? (h : (numerals base n).head? = some 0) : ∀ d ∈ numerals base n, d = 0 := by
  unfold numerals at h ⊢
  split_ifs at h ⊢ with hn
  · exact List.forall_mem_singleton.mpr rfl
  · rw [List.head?_reverse, List.getLast?_eq_some_getLast (Nat.digits_ne_nil_iff_ne_zero.mpr hn)] at h
    exact absurd (Option.some.inj h) (Nat.getLast_digit_ne_zero base hn)

theorem toDigits_eq_map (hbase : 1 < base) (n : Nat) : Nat.toDigits base n = (numerals base n).map Nat.digitChar := by
  induction n using Nat.strongRecOn with
  | ind n ih =>
    rcases Nat.lt_or_ge n base with hn | hn
    · rw [Nat.toDigits_of_lt_base hn]
      unfold numerals
      split_ifs with h0
      · rw [h0]
        rfl
      · rw [Nat.digits_of_lt base n h0 hn]
        rfl
    · have h0 : n ≠ 0 := by omega
      have hfront : n / base ≠ 0 := Nat.ne_of_gt (Nat.div_pos hn (by omega))
      have hdigits : numerals base n = numerals base (n / base) ++ [n % base] := by
        rw [numerals, numerals, if_neg h0, if_neg hfront, Nat.digits_eq_cons_digits_div hbase h0, List.reverse_cons]
      rw [Nat.toDigits_of_base_le hbase hn, ih (n / base) (Nat.div_lt_self (by omega) hbase), hdigits,
        List.map_append, List.map_singleton]

theorem length_numerals (hbase : 1 < base) : (numerals base n).length = (Nat.toDigits base n).length := by
  rw [toDigits_eq_map hbase, List.length_map]

end

/-! ### Spellings -/

namespace Style
variable {base : Nat} (t : Style)

theorem digit_cased {d : Nat} (hd : d < 16) (capital : Bool) : Digit (cased capital (Nat.digitChar d)) d := by
  by_cases h10 : d < 10
  · have hcased : cased capital (Nat.digitChar d) = Nat.digitChar d := by
      cases capital
      · rfl
      · exact toUpper_digitChar d h10
    rw [hcased]
    exact .decimal (DecimalDigit.value?_digitChar d h10)
  · refine .letter ⟨Nat.not_lt.mp h10, hd⟩ ?_
    cases capital
    · exact .inl rfl
    · exact .inr rfl

theorem digits_group (hbase : base ≤ 16) {ds : List Nat} (hne : ds ≠ []) (hds : ∀ d ∈ ds, d < base) (k : Nat) :
    Digits base (t.group k (ds.map Nat.digitChar)) ds := by
  induction ds generalizing k with
  | nil => exact absurd rfl hne
  | cons d ds ih =>
    have hd : d < base := hds d List.mem_cons_self
    have hc : Digit (cased (t.capital k) (Nat.digitChar d)) d := digit_cased (by omega) _
    rcases ds with _ | ⟨e, ds⟩
    · exact .last hc hd
    · have hrest := ih (List.cons_ne_nil e ds) (fun x hx => hds x (List.mem_cons_of_mem d hx)) (k + 1)
      simp only [List.map_cons, group] at hrest ⊢
      split_ifs
      · exact .separated hc hd hrest
      · exact .next hc hd hrest

theorem digits_toDigits (n : Nat) :
    Digits t.radix.base (t.group 0 (Nat.toDigits t.radix.base n)) (numerals t.radix.base n) := by
  have hbase := t.radix.one_lt_base
  rw [toDigits_eq_map hbase]
  exact t.digits_group t.radix.base_le (numerals_ne_nil _ n) (fun d => lt_of_mem_numerals hbase) 0

theorem mark_cased {r : Radix} {c : Char} (h : r.letter? = some c) (capital : Bool) :
    Mark (cased capital c) r.base := by
  rw [← base?_eq_some_iff]
  cases r with
  | decimal => cases h
  | hexadecimal | octal | binary =>
    obtain rfl := Option.some.inj h
    cases capital <;> rfl

theorem unsigned_magnitude {n : Nat}
    (h : t.radix = .decimal → (Decimal.digits n).length ≤ Decimal.digitLimit) : Unsigned (t.magnitude n) n := by
  have hdigits := t.digits_toDigits n
  have hvalue := ofDigits_numerals t.radix.base n
  rw [magnitude, mark]
  rcases hletter : t.radix.letter? with _ | c
  · have hdecimal := Radix.letter?_eq_none_iff.mp hletter
    have hten : t.radix.base = 10 := congrArg Radix.base hdecimal
    rw [hten] at hdigits hvalue ⊢
    have hlimit : (numerals 10 n).length ≤ Decimal.digitLimit := by
      rw [length_numerals (by decide)]
      exact h hdecimal
    have hliteral := Unsigned.decimal hdigits hlimit numerals_of_head?
    rwa [hvalue] at hliteral
  · have hmark := mark_cased hletter t.capitalMark
    have hzero : Digit '0' 0 := .decimal rfl
    have hliteral : Unsigned
        ('0' :: cased t.capitalMark c :: ((if t.apart then ['_'] else []) ++
          t.group 0 (Nat.toDigits t.radix.base n))) (Nat.ofDigits t.radix.base (numerals t.radix.base n).reverse) := by
      split_ifs
      · exact .markedApart hzero hmark hdigits
      · exact .marked hzero hmark hdigits
    rwa [hvalue] at hliteral

theorem signed_text {n : Int} (h : Unsigned (t.magnitude n.natAbs) n.natAbs) :
    Signed (t.sign n ++ t.magnitude n.natAbs) n := by
  unfold sign
  split_ifs with hn hplus
  · have hliteral := Signed.minus h
    rwa [Int.ofNat_natAbs_of_nonpos (Int.le_of_lt hn), Int.neg_neg] at hliteral
  · have hliteral := Signed.plus h
    rwa [Int.natAbs_of_nonneg (Int.not_lt.mp hn)] at hliteral
  · have hliteral := Signed.bare h
    rwa [Int.natAbs_of_nonneg (Int.not_lt.mp hn)] at hliteral

theorem literal_text {n : Int}
    (h : t.radix = .decimal → (Decimal.digits n.natAbs).length ≤ Decimal.digitLimit) :
    Literal (t.text n).toList n := by
  rw [text, String.toList_ofList]
  exact ⟨_, _, _, rfl, List.all_eq_true.mp t.blank_before, List.all_eq_true.mp t.blank_after,
    t.signed_text (t.unsigned_magnitude h)⟩

theorem sign_cases (n : Int) : t.sign n = [] ∨ t.sign n = ['+'] ∨ t.sign n = ['-'] := by
  unfold sign
  split_ifs <;> simp

end Style

theorem Signed.unsigned {sign s : List Char} {ds : List Nat} {base : Nat} {n : Int}
    (hsign : sign = [] ∨ sign = ['+'] ∨ sign = ['-']) (hs : Digits base s ds) (h : Signed (sign ++ s) n) :
    ∃ m, Unsigned s m := by
  have hplus {t : List Char} {m : Nat} (ht : Unsigned ('+' :: t) m) : False := by
    obtain ⟨c, d, t', heq, hc⟩ := ht.exists_cons
    exact hc.ne_plus (List.cons.inj heq).1.symm
  have hminus {t : List Char} {m : Nat} (ht : Unsigned ('-' :: t) m) : False := by
    obtain ⟨c, d, t', heq, hc⟩ := ht.exists_cons
    exact hc.ne_minus (List.cons.inj heq).1.symm
  rcases hsign with rfl | rfl | rfl
  · obtain ⟨c, d, t, rfl, hc⟩ := hs.exists_cons
    cases h with
    | bare h => exact ⟨_, h⟩
    | plus => exact absurd rfl hc.ne_plus
    | minus => exact absurd rfl hc.ne_minus
  · cases h with
    | bare h => exact (hplus h).elim
    | plus h => exact ⟨_, h⟩
  · cases h with
    | bare h => exact (hminus h).elim
    | minus h => exact ⟨_, h⟩

theorem Digits.not_unsigned {s : List Char} {ds : List Nat} {n : Nat} (hs : Digits 10 s ds)
    (hlimit : Decimal.digitLimit < ds.length) : ¬ Unsigned s n := by
  intro h
  cases h with
  | decimal hs' hlimit' =>
    rw [hs.unique (by decide) hs'] at hlimit
    exact Nat.not_lt.mpr hlimit' hlimit
  | marked _ hc | markedApart _ hc => exact hs.not_mark hc

theorem Style.not_literal_text (t : Style) (h : t.radix = .decimal) {m n : Int}
    (hlimit : Decimal.digitLimit < (Decimal.digits n.natAbs).length) : ¬ Literal (t.text n).toList m := by
  have hdigits := t.digits_toDigits n.natAbs
  have hmagnitude : t.magnitude n.natAbs = t.group 0 (Nat.toDigits t.radix.base n.natAbs) := by
    rw [magnitude, mark, Radix.letter?_eq_none_iff.mpr h]
    rfl
  rw [← hmagnitude, h] at hdigits
  have hcore : ∀ c ∈ t.sign n ++ t.magnitude n.natAbs, Blank.isBlank c = false := by
    intro c hc
    rcases List.mem_append.mp hc with hc | hc
    · obtain hsign | hsign | hsign := t.sign_cases n
      · simp [hsign] at hc
      · rw [hsign, List.mem_singleton] at hc
        rw [hc]
        rfl
      · rw [hsign, List.mem_singleton] at hc
        rw [hc]
        rfl
    · exact hdigits.not_blank c hc
  rw [literal_iff_trim, text, String.toList_ofList, Blank.trim_append (List.all_eq_true.mp t.blank_before)
    (List.all_eq_true.mp t.blank_after) hcore]
  intro hsigned
  obtain ⟨k, hk⟩ := hsigned.unsigned (t.sign_cases n) hdigits
  have hlength : Decimal.digitLimit < (numerals 10 n.natAbs).length := by
    rw [length_numerals (by decide)]
    exact hlimit
  exact hdigits.not_unsigned hlength hk

end Numeral

namespace Bounds
open Numeral

/-- Every number of a range is read back from each of its spellings, with only the decimal ones bounded in length. -/
theorem read_written (b : Bounds) (t : Style) {n : Int} (hlow : b.low ≤ n) (hhigh : ∀ high ∈ b.high, n ≤ high) :
    (t.radix ≠ .decimal → b.read (t.text n) = .ok n) ∧
    (t.radix = .decimal →
      (b.read (t.text n) = .ok n ↔ (Decimal.digits n.natAbs).length ≤ Decimal.digitLimit)) ∧
    ∀ t' : Style, (Decimal.digits n.natAbs).length ≤ Decimal.digitLimit →
      b.read (t.text n) = .ok n ∧ b.read (t'.text n) = b.read (t.text n) := by
  have hread (t : Style) (h : t.radix = .decimal → (Decimal.digits n.natAbs).length ≤ Decimal.digitLimit) :
      b.read (t.text n) = .ok n := read_eq_ok_iff.mpr ⟨t.literal_text h, hlow, hhigh⟩
  refine ⟨fun h => hread t fun hdecimal => absurd hdecimal h, fun h => ⟨?_, fun hn => hread t fun _ => hn⟩, ?_⟩
  · intro hok
    by_contra hlong
    exact t.not_literal_text h (Nat.not_le.mp hlong) (read_eq_ok_iff.mp hok).1
  · intro t' hn
    have hok := hread t fun _ => hn
    exact ⟨hok, (hread t' fun _ => hn).trans hok.symm⟩

theorem read_written_capitals :
    let t : Style := {
      radix := .hexadecimal, capitalMark := true, apart := true, capital := (· == 0), separated := fun _ => true,
      before := ['\t'], after := [' ', '\n'] }
    t.text (-243) = "\t-0X_F_3 \n" ∧ Bounds.read ⟨-255, some 255⟩ (t.text (-243)) = .ok (-243) := by
  intro t
  have hhigh : ∀ high ∈ some (255 : Int), (-243 : Int) ≤ high := by decide
  obtain ⟨hmarked, -, -⟩ := read_written ⟨-255, some 255⟩ t (by decide) hhigh
  exact ⟨by decide, hmarked (by decide)⟩

end Bounds

end SmbusPostBox
