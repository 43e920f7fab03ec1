import Mathlib.Data.List.TakeWhile
import Mathlib.Data.Nat.Digits.Defs
import SmbusPostBox.Proofs.HexLiterals

/-! The grammar of integer literals, told without regard to how they are read. The reader takes just the texts of
the grammar, each for the one number that it writes. -/

namespace SmbusPostBox
open Text

namespace Numeral

inductive Digit (c : Char) (d : Nat) : Prop
  | decimal (h : DecimalDigit.value? c = some d)
  | letter (hd : 10 ≤ d ∧ d < 16) (hc : c = Nat.digitChar d ∨ c = (Nat.digitChar d).toUpper)

/-- Digits below `base`, the most significant one first. A single separator may stand between any two. -/
inductive Digits (base : Nat) : List Char → List Nat → Prop
  | last {c : Char} {d : Nat} (hc : Digit c d) (hd : d < base) : Digits base [c] [d]
  | next {c : Char} {d : Nat} {s : List Char} {ds : List Nat} (hc : Digit c d) (hd : d < base)
    (hs : Digits base s ds) : Digits base (c :: s) (d :: ds)
  | separated {c : Char} {d : Nat} {s : List Char} {ds : List Nat} (hc : Digit c d) (hd : d < base)
    (hs : Digits base s ds) : Digits base (c :: '_' :: s) (d :: ds)

inductive Mark (c : Char) : Nat → Prop
  | hexadecimal (h : c = 'x' ∨ c = 'X') : Mark c 16
  | octal (h : c = 'o' ∨ c = 'O') : Mark c 8
  | binary (h : c = 'b' ∨ c = 'B') : Mark c 2

/-- Decimal digits of bounded number, with no zero in front unless all are zero, or any number of digits behind the
mark of their base, where a separator may follow the mark. -/
inductive Unsigned : List Char → Nat → Prop
  | decimal {s : List Char} {ds : List Nat} (hs : Digits 10 s ds) (hlimit : ds.length ≤ Decimal.digitLimit)
    (hzero : ds.head? = some 0 → ∀ d ∈ ds, d = 0) : Unsigned s (Nat.ofDigits 10 ds.reverse)
  | marked {z c : Char} {base : Nat} {s : List Char} {ds : List Nat} (hz : Digit z 0) (hc : Mark c base)
    (hs : Digits base s ds) : Unsigned (z :: c :: s) (Nat.ofDigits base ds.reverse)
  | markedApart {z c : Char} {base : Nat} {s : List Char} {ds : List Nat} (hz : Digit z 0) (hc : Mark c base)
    (hs : Digits base s ds) : Unsigned (z :: c :: '_' :: s) (Nat.ofDigits base ds.reverse)

inductive Signed : List Char → Int → Prop
  | bare {s : List Char} {n : Nat} (h : Unsigned s n) : Signed s n
  | plus {s : List Char} {n : Nat} (h : Unsigned s n) : Signed ('+' :: s) n
  | minus {s : List Char} {n : Nat} (h : Unsigned s n) : Signed ('-' :: s) (-n)

def Literal (s : List Char) (n : Int) : Prop :=
  ∃ before core after, s = before ++ core ++ after ∧ (∀ c ∈ before, Blank.isBlank c = true) ∧
    (∀ c ∈ after, Blank.isBlank c = true) ∧ Signed core n

end Numeral

/-! ### Characters -/

namespace Text

namespace DecimalDigit
variable {c x : Char} {v : Nat}

theorem lt_of_value? (h : value? c = some v) : v < 10 := by
  obtain ⟨z, hz, rfl⟩ := Option.map_eq_some_iff.mp h
  have hrun := List.find?_some hz
  simp only [Bool.and_eq_true, decide_eq_true_eq] at hrun
  omega

theorem value?_digitChar : ∀ v < 10, value? (Nat.digitChar v) = some v := by decide

theorem plain_of_value? (h : value? c = some v) : plain c = Nat.digitChar v := by rw [plain, h]; rfl

theorem plain_of_value?_eq_none (h : value? c = none) : plain c = c := by rw [plain, h]; rfl

theorem value?_plain (c : Char) : value? (plain c) = value? c := by
  rcases h : value? c with _ | v
  · rw [plain_of_value?_eq_none h, h]
  · rw [plain_of_value? h, value?_digitChar v (lt_of_value? h)]

theorem plain_eq_iff (hx : value? x = none) : plain c = x ↔ c = x := by
  constructor
  · rintro rfl
    rw [value?_plain] at hx
    exact (plain_of_value?_eq_none hx).symm
  · rintro rfl
    exact plain_of_value?_eq_none hx

theorem plain_eq_separator_iff : plain c = '_' ↔ c = '_' := plain_eq_iff rfl

end DecimalDigit

namespace Blank

theorem exists_eq_trim (s : List Char) :
    ∃ before after, s = before ++ trim s ++ after ∧ (∀ c ∈ before, isBlank c = true) ∧
      ∀ c ∈ after, isBlank c = true := by
  let rest := s.dropWhile isBlank
  refine ⟨s.takeWhile isBlank, (rest.reverse.takeWhile isBlank).reverse, ?_, ?_, ?_⟩
  · have hrest : trim s ++ (rest.reverse.takeWhile isBlank).reverse = rest := by
      rw [trim, ← List.reverse_append, List.takeWhile_append_dropWhile, List.reverse_reverse]
    rw [List.append_assoc, hrest, List.takeWhile_append_dropWhile]
  · intro c hc
    exact List.mem_takeWhile_imp hc
  · intro c hc
    exact List.mem_takeWhile_imp (List.mem_reverse.mp hc)

end Blank

end Text

namespace Numeral
variable {base : Nat} {c : Char} {d : Nat} {s : List Char} {ds : List Nat}

/-! ### Digits -/

theorem digit?_iff_sixteen (hb : base ≤ 16) : digit? base c = some d ↔ digit? 16 c = some d ∧ d < base := by
  simp only [digit?]
  split_ifs <;> simp_all <;> omega

theorem digit?_toUpper : ∀ d < 16, digit? 16 (Nat.digitChar d).toUpper = some d := by decide

theorem digit?_eq_some_iff (hb : base ≤ 16) :
    digit? base c = some d ↔ d < base ∧ (c = Nat.digitChar d ∨ c = (Nat.digitChar d).toUpper) := by
  rw [digit?_iff_sixteen hb]
  constructor
  · rintro ⟨h, hd⟩
    refine ⟨hd, ?_⟩
    exact of_isAlphanum
      (p := fun c => ∀ d < 16, digit? 16 c = some d → c = Nat.digitChar d ∨ c = (Nat.digitChar d).toUpper)
      (by decide) (isAlphanum_of_digit? h) d (by omega) h
  · rintro ⟨hd, rfl | rfl⟩
    · exact ⟨digit?_digitChar 16 (Nat.le_refl 16) d (by omega), hd⟩
    · exact ⟨digit?_toUpper d (by omega), hd⟩

theorem value?_letter : ∀ d < 16, 10 ≤ d →
    DecimalDigit.value? (Nat.digitChar d) = none ∧ DecimalDigit.value? (Nat.digitChar d).toUpper = none := by
  decide

theorem toUpper_digitChar : ∀ d < 10, (Nat.digitChar d).toUpper = Nat.digitChar d := by decide

theorem digit_iff_plain :
    Digit c d ↔
      d < 16 ∧ (DecimalDigit.plain c = Nat.digitChar d ∨ DecimalDigit.plain c = (Nat.digitChar d).toUpper) := by
  constructor
  · rintro (h | ⟨hd, hc⟩)
    · have hd := DecimalDigit.lt_of_value? h
      exact ⟨by omega, .inl (DecimalDigit.plain_of_value? h)⟩
    · obtain ⟨hlower, hupper⟩ := value?_letter d hd.2 hd.1
      refine ⟨hd.2, ?_⟩
      rwa [DecimalDigit.plain_eq_iff hlower, DecimalDigit.plain_eq_iff hupper]
  · rintro ⟨hd, hc⟩
    by_cases h10 : d < 10
    · rw [toUpper_digitChar d h10, or_self] at hc
      refine .decimal ?_
      rw [← DecimalDigit.value?_plain, hc, DecimalDigit.value?_digitChar d h10]
    · obtain ⟨hlower, hupper⟩ := value?_letter d hd (Nat.not_lt.mp h10)
      rw [DecimalDigit.plain_eq_iff hlower, DecimalDigit.plain_eq_iff hupper] at hc
      exact .letter ⟨Nat.not_lt.mp h10, hd⟩ hc

theorem digit?_plain_iff (hb : base ≤ 16) :
    digit? base (DecimalDigit.plain c) = some d ↔ Digit c d ∧ d < base := by
  rw [digit?_eq_some_iff hb, digit_iff_plain]
  constructor
  · rintro ⟨hd, hc⟩
    exact ⟨⟨by omega, hc⟩, hd⟩
  · rintro ⟨⟨-, hc⟩, hd⟩
    exact ⟨hd, hc⟩

theorem Digit.induction {p : Char → Prop} (hscript : ∀ z ∈ DecimalDigit.zeros, ∀ i < 10, p (Char.ofNat (z + i)))
    (hletter : ∀ d < 16, 10 ≤ d → p (Nat.digitChar d) ∧ p (Nat.digitChar d).toUpper) (h : Digit c d) : p c := by
  rcases h with h | ⟨hd, rfl | rfl⟩
  · obtain ⟨z, hz, -⟩ := Option.map_eq_some_iff.mp h
    have hrun := List.find?_some hz
    simp only [Bool.and_eq_true, decide_eq_true_eq] at hrun
    have hc := hscript z (List.mem_of_find?_eq_some hz) (c.toNat - z) (by omega)
    rwa [Nat.add_sub_cancel' hrun.1, Char.ofNat_toNat] at hc
  · exact (hletter d hd.2 hd.1).1
  · exact (hletter d hd.2 hd.1).2

theorem Digit.not_blank (h : Digit c d) : Blank.isBlank c = false :=
  h.induction (p := fun c => Blank.isBlank c = false) (by decide) (by decide)

theorem Digit.ne {x : Char} (hx : DecimalDigit.value? x = none)
    (hletter : ∀ d < 16, x ≠ Nat.digitChar d ∧ x ≠ (Nat.digitChar d).toUpper) (h : Digit c d) : c ≠ x := by
  rintro rfl
  rw [digit_iff_plain, DecimalDigit.plain_of_value?_eq_none hx] at h
  obtain ⟨hd, hc⟩ := h
  exact hc.elim (hletter d hd).1 (hletter d hd).2

theorem Digit.ne_separator (h : Digit c d) : c ≠ '_' := h.ne rfl (by decide)

theorem Digit.ne_plus (h : Digit c d) : c ≠ '+' := h.ne rfl (by decide)

theorem Digit.ne_minus (h : Digit c d) : c ≠ '-' := h.ne rfl (by decide)

/-! ### Groups of digits -/

theorem digit?_separator (base : Nat) : digit? base '_' = none := by
  simp [digit?]

theorem digits?_singleton (base : Nat) (c : Char) : digits? base [c] = (digit? base c).map ([·]) := by
  by_cases hc : c = '_'
  · subst hc
    rw [digit?_separator]
    rfl
  · simp only [digits?, ungroup, hc, if_false, Option.bind_some, List.mapM_cons, List.mapM_nil]
    rcases digit? base c <;> rfl

theorem mapM_ungrouped (base : Nat) (c : Char) (cs : Option (List Char)) :
    ((cs.map (c :: ·)).bind fun cs => cs.mapM (digit? base)) =
      (digit? base c).bind fun d => (cs.bind fun cs => cs.mapM (digit? base)).map (d :: ·) := by
  rcases cs with _ | cs
  · rcases digit? base c <;> rfl
  · simp only [Option.map_some, Option.bind_some, List.mapM_cons]
    rcases digit? base c with _ | d
    · rfl
    · rcases cs.mapM (digit? base) <;> rfl

theorem digits?_separated (base : Nat) (c : Char) (s : List Char) :
    digits? base (c :: '_' :: s) = (digit? base c).bind fun d => (digits? base s).map (d :: ·) := by
  by_cases hc : c = '_'
  · subst hc
    rw [digit?_separator]
    rfl
  · simp only [digits?, ungroup, hc, if_false, if_true]
    exact mapM_ungrouped base c (ungroup s)

theorem digits?_cons (base : Nat) (c : Char) {x : Char} (s : List Char) (hx : x ≠ '_') :
    digits? base (c :: x :: s) = (digit? base c).bind fun d => (digits? base (x :: s)).map (d :: ·) := by
  by_cases hc : c = '_'
  · subst hc
    rw [digit?_separator]
    rfl
  · simp only [digits?, ungroup, hc, hx, if_false]
    exact mapM_ungrouped base c (ungroup (x :: s))

theorem Digits.exists_cons (h : Digits base s ds) : ∃ c d s', s = c :: s' ∧ Digit c d := by
  cases h with
  | last hc | next hc | separated hc => exact ⟨_, _, _, rfl, hc⟩

theorem separator_eq_plain : DecimalDigit.plain '_' = '_' := rfl

theorem digits?_of_digits (hb : base ≤ 16) (h : Digits base s ds) :
    digits? base (s.map DecimalDigit.plain) = some ds := by
  induction h with
  | last hc hd =>
    rw [List.map_singleton, digits?_singleton, (digit?_plain_iff hb).mpr ⟨hc, hd⟩]
    rfl
  | next hc hd hs ih =>
    obtain ⟨x, v, s', rfl, hx⟩ := hs.exists_cons
    have hx' : DecimalDigit.plain x ≠ '_' := by
      rw [Ne, DecimalDigit.plain_eq_separator_iff]
      exact hx.ne_separator
    rw [List.map_cons, List.map_cons, digits?_cons base _ _ hx', (digit?_plain_iff hb).mpr ⟨hc, hd⟩,
      ← List.map_cons, ih]
    rfl
  | separated hc hd hs ih =>
    rw [List.map_cons, List.map_cons, separator_eq_plain, digits?_separated, (digit?_plain_iff hb).mpr ⟨hc, hd⟩, ih]
    rfl

theorem digits_of_digits? (hb : base ≤ 16) {s : List Char} {ds : List Nat}
    (h : digits? base (s.map DecimalDigit.plain) = some ds) : Digits base s ds := by
  match s with
  | [] => cases h
  | [c] =>
    rw [List.map_singleton, digits?_singleton] at h
    obtain ⟨d, hd, rfl⟩ := Option.map_eq_some_iff.mp h
    obtain ⟨hc, hlt⟩ := (digit?_plain_iff hb).mp hd
    exact .last hc hlt
  | c :: x :: s =>
    rw [List.map_cons, List.map_cons] at h
    by_cases hx : x = '_'
    · subst hx
      rw [separator_eq_plain, digits?_separated] at h
      obtain ⟨d, hd, hrest⟩ := Option.bind_eq_some_iff.mp h
      obtain ⟨es, hes, rfl⟩ := Option.map_eq_some_iff.mp hrest
      obtain ⟨hc, hlt⟩ := (digit?_plain_iff hb).mp hd
      exact .separated hc hlt (digits_of_digits? hb hes)
    · have hx' : DecimalDigit.plain x ≠ '_' := fun heq => hx (DecimalDigit.plain_eq_separator_iff.mp heq)
      rw [digits?_cons base _ _ hx', ← List.map_cons] at h
      obtain ⟨d, hd, hrest⟩ := Option.bind_eq_some_iff.mp h
      obtain ⟨es, hes, rfl⟩ := Option.map_eq_some_iff.mp hrest
      obtain ⟨hc, hlt⟩ := (digit?_plain_iff hb).mp hd
      exact .next hc hlt (digits_of_digits? hb hes)

theorem digits?_plain_iff (hb : base ≤ 16) : digits? base (s.map DecimalDigit.plain) = some ds ↔ Digits base s ds :=
  ⟨digits_of_digits? hb, digits?_of_digits hb⟩

theorem Digits.unique {es : List Nat} (hb : base ≤ 16) (h : Digits base s ds) (h' : Digits base s es) : ds = es :=
  Option.some.inj ((digits?_of_digits hb h).symm.trans (digits?_of_digits hb h'))

theorem ofDigits_eq (base : Nat) (ds : List Nat) : ofDigits base ds = Nat.ofDigits base ds.reverse := by
  have hstep : (fun n d : Nat => n * base + d) = fun n d => d + base * n := by
    funext n d
    rw [Nat.mul_comm, Nat.add_comm]
  rw [Nat.ofDigits_eq_foldr, List.foldr_reverse, ofDigits, hstep]
  rfl

theorem ofDigits_eq_zero_iff (hbase : base ≠ 0) : ofDigits base ds = 0 ↔ ∀ d ∈ ds, d = 0 := by
  rw [ofDigits_eq]
  constructor
  · intro h d hd
    exact Nat.digits_zero_of_eq_zero hbase h d (List.mem_reverse.mpr hd)
  · intro h
    rw [List.eq_replicate_of_mem fun d hd => h d (List.mem_reverse.mp hd), Nat.ofDigits_replicate_zero]

/-! ### Literals without a sign -/

theorem decimal?_plain_iff {n : Nat} :
    decimal? (s.map DecimalDigit.plain) = some n ↔
      ∃ ds, Digits 10 s ds ∧ ds.length ≤ Decimal.digitLimit ∧ (ds.head? = some 0 → ∀ d ∈ ds, d = 0) ∧
        n = Nat.ofDigits 10 ds.reverse := by
  have hten : 10 ≤ 16 := by decide
  constructor
  · intro h
    obtain ⟨ds, hds, hn⟩ := Option.bind_eq_some_iff.mp h
    dsimp only at hn
    split_ifs at hn with hbound
    obtain rfl := Option.some.inj hn
    rw [ofDigits_eq_zero_iff (by decide)] at hbound
    exact ⟨ds, (digits?_plain_iff hten).mp hds, hbound.1, hbound.2, ofDigits_eq 10 ds⟩
  · rintro ⟨ds, hds, hlimit, hzero, rfl⟩
    rw [← @ofDigits_eq_zero_iff 10 ds (by decide)] at hzero
    rw [decimal?, (digits?_plain_iff hten).mpr hds, ← ofDigits_eq]
    exact if_pos ⟨hlimit, hzero⟩

theorem base?_eq_some_iff : base? c = some base ↔ Mark c base := by
  unfold base?
  constructor
  · intro h
    split_ifs at h with hx ho hb
    · obtain rfl := Option.some.inj h
      exact .hexadecimal hx
    · obtain rfl := Option.some.inj h
      exact .octal ho
    · obtain rfl := Option.some.inj h
      exact .binary hb
  · rintro (⟨rfl | rfl⟩ | ⟨rfl | rfl⟩ | ⟨rfl | rfl⟩) <;> rfl

theorem Mark.value? (h : Mark c base) : DecimalDigit.value? c = none := by
  rcases h with (rfl | rfl) | (rfl | rfl) | (rfl | rfl) <;> rfl

theorem Mark.not_blank (h : Mark c base) : Blank.isBlank c = false := by
  rcases h with (rfl | rfl) | (rfl | rfl) | (rfl | rfl) <;> decide

theorem Mark.base_le (h : Mark c base) : base ≤ 16 := by
  cases h <;> decide

theorem base?_plain_iff : base? (DecimalDigit.plain c) = some base ↔ Mark c base := by
  rw [base?_eq_some_iff]
  constructor
  · intro h
    rw [(DecimalDigit.plain_eq_iff h.value?).mp rfl]
    exact h
  · intro h
    rwa [DecimalDigit.plain_of_value?_eq_none h.value?]

theorem digit_zero_iff : Digit c 0 ↔ DecimalDigit.plain c = '0' := by
  rw [digit_iff_plain]
  constructor
  · rintro ⟨-, h | h⟩ <;> exact h
  · intro h
    exact ⟨by decide, .inl h⟩

theorem Digits.not_mark {z : Char} (h : Digits 10 (z :: c :: s) ds) (hc : Mark c base) : False := by
  have hdigit : ∀ d < 10, ¬ Digit c d := by
    rintro d hd (hd' | ⟨hd', -⟩)
    · cases hc.value?.symm.trans hd'
    · omega
  cases h with
  | next _ _ hs =>
    cases hs with
    | last hx hd | next hx hd | separated hx hd => exact hdigit _ hd hx
  | separated => rcases hc with (h | h) | (h | h) | (h | h) <;> cases h

theorem afterMark_of_ne {x : Char} (hx : x ≠ '_') (s : List Char) : afterMark (x :: s) = x :: s := by
  unfold afterMark
  split
  · rename_i heq
    exact absurd (List.cons.inj heq).1 hx
  · rfl

theorem digits?_afterMark_iff (hb : base ≤ 16) :
    digits? base (afterMark (s.map DecimalDigit.plain)) = some ds ↔
      Digits base s ds ∨ ∃ t, s = '_' :: t ∧ Digits base t ds := by
  have hself {x : Char} {t : List Char} (hx : x ≠ '_') :
      afterMark ((x :: t).map DecimalDigit.plain) = (x :: t).map DecimalDigit.plain := by
    rw [Ne, ← DecimalDigit.plain_eq_separator_iff] at hx
    exact afterMark_of_ne hx _
  have happart (t : List Char) : afterMark (('_' :: t).map DecimalDigit.plain) = t.map DecimalDigit.plain := by
    rw [List.map_cons, separator_eq_plain]
    rfl
  constructor
  · intro h
    rcases s with _ | ⟨x, t⟩
    · cases h
    · by_cases hx : x = '_'
      · subst hx
        rw [happart] at h
        exact .inr ⟨t, rfl, (digits?_plain_iff hb).mp h⟩
      · rw [hself hx] at h
        exact .inl ((digits?_plain_iff hb).mp h)
  · rintro (h | ⟨t, rfl, h⟩)
    · obtain ⟨x, d, t, rfl, hx⟩ := h.exists_cons
      rw [hself hx.ne_separator, (digits?_plain_iff hb).mpr h]
    · rw [happart, (digits?_plain_iff hb).mpr h]

theorem magnitude?_of_unmarked (h : ∀ c t, s = '0' :: c :: t → base? c = none) : magnitude? s = decimal? s := by
  unfold magnitude?
  split
  · rw [h _ _ rfl]
  · rfl

theorem magnitude?_of_marked {z : Char} (hz : Digit z 0) (hc : Mark c base) (s : List Char) :
    magnitude? ((z :: c :: s).map DecimalDigit.plain) =
      (digits? base (afterMark (s.map DecimalDigit.plain))).map (ofDigits base) := by
  rw [List.map_cons, List.map_cons, digit_zero_iff.mp hz]
  simp only [magnitude?, base?_plain_iff.mpr hc]

def Marked (s : List Char) : Prop := ∃ z c t base, s = z :: c :: t ∧ Digit z 0 ∧ Mark c base

theorem magnitude?_of_not_marked (h : ¬ Marked s) :
    magnitude? (s.map DecimalDigit.plain) = decimal? (s.map DecimalDigit.plain) := by
  apply magnitude?_of_unmarked
  intro x t hs
  obtain ⟨z, s', rfl, hz, hs'⟩ := List.map_eq_cons_iff.mp hs
  obtain ⟨c, t', rfl, rfl, -⟩ := List.map_eq_cons_iff.mp hs'
  rcases hbase : base? (DecimalDigit.plain c) with _ | base
  · rfl
  · exact absurd ⟨z, c, t', base, rfl, digit_zero_iff.mpr hz, base?_plain_iff.mp hbase⟩ h

theorem Digits.not_marked (h : Digits 10 s ds) : ¬ Marked s := by
  rintro ⟨z, c, t, base, rfl, -, hc⟩
  exact h.not_mark hc

theorem magnitude?_plain_iff {n : Nat} : magnitude? (s.map DecimalDigit.plain) = some n ↔ Unsigned s n := by
  constructor
  · intro h
    by_cases hmarked : Marked s
    · obtain ⟨z, c, t, base, rfl, hz, hc⟩ := hmarked
      rw [magnitude?_of_marked hz hc] at h
      obtain ⟨ds, hds, rfl⟩ := Option.map_eq_some_iff.mp h
      rw [ofDigits_eq]
      obtain hs | ⟨t, rfl, hs⟩ := (digits?_afterMark_iff hc.base_le).mp hds
      · exact .marked hz hc hs
      · exact .markedApart hz hc hs
    · rw [magnitude?_of_not_marked hmarked] at h
      obtain ⟨ds, hs, hlimit, hzero, rfl⟩ := decimal?_plain_iff.mp h
      exact .decimal hs hlimit hzero
  · intro h
    cases h with
    | decimal hs hlimit hzero =>
      rw [magnitude?_of_not_marked hs.not_marked, decimal?_plain_iff.mpr ⟨_, hs, hlimit, hzero, rfl⟩]
    | marked hz hc hs =>
      rw [magnitude?_of_marked hz hc, (digits?_afterMark_iff hc.base_le).mpr (.inl hs), Option.map_some, ofDigits_eq]
    | markedApart hz hc hs =>
      rw [magnitude?_of_marked hz hc, (digits?_afterMark_iff hc.base_le).mpr (.inr ⟨_, rfl, hs⟩), Option.map_some,
        ofDigits_eq]

/-! ### Signs and blanks -/

theorem Unsigned.exists_cons {n : Nat} (h : Unsigned s n) : ∃ c d t, s = c :: t ∧ Digit c d := by
  cases h with
  | decimal hs => exact hs.exists_cons
  | marked hz | markedApart hz => exact ⟨_, _, _, rfl, hz⟩

theorem signed?_plus (s : List Char) : signed? ('+' :: s) = (magnitude? s).map fun n : Nat => (n : Int) := by
  rw [signed?]
  rcases magnitude? s <;> rfl

theorem signed?_minus (s : List Char) : signed? ('-' :: s) = (magnitude? s).map fun n : Nat => -(n : Int) := by
  rw [signed?]
  rcases magnitude? s <;> rfl

theorem signed?_of_ne (hplus : c ≠ '+') (hminus : c ≠ '-') (s : List Char) :
    signed? (c :: s) = (magnitude? (c :: s)).map fun n : Nat => (n : Int) := by
  unfold signed?
  split
  · rename_i heq
    exact absurd (List.cons.inj heq).1 hplus
  · rename_i heq
    exact absurd (List.cons.inj heq).1 hminus
  · rcases magnitude? (c :: s) <;> rfl

theorem signed?_plain_iff {n : Int} : signed? (s.map DecimalDigit.plain) = some n ↔ Signed s n := by
  have hplus (t : List Char) : ('+' :: t).map DecimalDigit.plain = '+' :: t.map DecimalDigit.plain := rfl
  have hminus (t : List Char) : ('-' :: t).map DecimalDigit.plain = '-' :: t.map DecimalDigit.plain := rfl
  have hbare {c : Char} (t : List Char) (hp : c ≠ '+') (hm : c ≠ '-') :
      signed? ((c :: t).map DecimalDigit.plain) =
        (magnitude? ((c :: t).map DecimalDigit.plain)).map fun n : Nat => (n : Int) := by
    rw [Ne, ← DecimalDigit.plain_eq_iff (x := '+') rfl] at hp
    rw [Ne, ← DecimalDigit.plain_eq_iff (x := '-') rfl] at hm
    exact signed?_of_ne hp hm _
  constructor
  · intro h
    rcases s with _ | ⟨c, t⟩
    · cases h
    · by_cases hp : c = '+'
      · subst hp
        rw [hplus, signed?_plus] at h
        obtain ⟨m, hm, rfl⟩ := Option.map_eq_some_iff.mp h
        exact .plus (magnitude?_plain_iff.mp hm)
      by_cases hm : c = '-'
      · subst hm
        rw [hminus, signed?_minus] at h
        obtain ⟨m, hm, rfl⟩ := Option.map_eq_some_iff.mp h
        exact .minus (magnitude?_plain_iff.mp hm)
      rw [hbare t hp hm] at h
      obtain ⟨m, hm, rfl⟩ := Option.map_eq_some_iff.mp h
      exact .bare (magnitude?_plain_iff.mp hm)
  · intro h
    cases h with
    | plus h => rw [hplus, signed?_plus, magnitude?_plain_iff.mpr h, Option.map_some]
    | minus h => rw [hminus, signed?_minus, magnitude?_plain_iff.mpr h, Option.map_some]
    | bare h =>
      obtain ⟨c, d, t, rfl, hc⟩ := h.exists_cons
      rw [hbare t hc.ne_plus hc.ne_minus, magnitude?_plain_iff.mpr h, Option.map_some]

theorem Digits.not_blank (h : Digits base s ds) : ∀ c ∈ s, Blank.isBlank c = false := by
  induction h with
  | last hc => exact List.forall_mem_singleton.mpr hc.not_blank
  | next hc _ _ ih => exact List.forall_mem_cons.mpr ⟨hc.not_blank, ih⟩
  | separated hc _ _ ih => exact List.forall_mem_cons.mpr ⟨hc.not_blank, List.forall_mem_cons.mpr ⟨rfl, ih⟩⟩

theorem Unsigned.not_blank {n : Nat} (h : Unsigned s n) : ∀ c ∈ s, Blank.isBlank c = false := by
  cases h with
  | decimal hs => exact hs.not_blank
  | marked hz hc hs =>
    exact List.forall_mem_cons.mpr ⟨hz.not_blank, List.forall_mem_cons.mpr ⟨hc.not_blank, hs.not_blank⟩⟩
  | markedApart hz hc hs =>
    refine List.forall_mem_cons.mpr ⟨hz.not_blank, List.forall_mem_cons.mpr ⟨hc.not_blank, ?_⟩⟩
    exact List.forall_mem_cons.mpr ⟨rfl, hs.not_blank⟩

theorem Signed.not_blank {n : Int} (h : Signed s n) : ∀ c ∈ s, Blank.isBlank c = false := by
  cases h with
  | bare h => exact h.not_blank
  | plus h | minus h => exact List.forall_mem_cons.mpr ⟨rfl, h.not_blank⟩

theorem literal_iff_trim {n : Int} : Literal s n ↔ Signed (Blank.trim s) n := by
  constructor
  · rintro ⟨before, core, after, rfl, hb, ha, h⟩
    rwa [Blank.trim_append hb ha h.not_blank]
  · intro h
    obtain ⟨before, after, hs, hb, ha⟩ := Blank.exists_eq_trim s
    exact ⟨before, Blank.trim s, after, hs, hb, ha, h⟩

theorem int?_eq_some_iff {n : Int} : int? s = some n ↔ Literal s n := by
  rw [int?, signed?_plain_iff, literal_iff_trim]

theorem Literal.unique {m n : Int} (hm : Literal s m) (hn : Literal s n) : m = n :=
  Option.some.inj ((int?_eq_some_iff.mpr hm).symm.trans (int?_eq_some_iff.mpr hn))

theorem int?_eq_none_iff : int? s = none ↔ ∀ n, ¬ Literal s n := by
  simp only [← int?_eq_some_iff, Option.eq_none_iff_forall_ne_some, ne_eq]

end Numeral

/-! ### Ranges -/

theorem Text.Decimal.writable_iff {n : Int} : Writable n ↔ (digits n.natAbs).length ≤ digitLimit := by
  have hlimit : 0 < digitLimit := by decide
  unfold Writable ceiling digits
  -- With the limit left open, nothing computes its power.
  generalize digitLimit = k at hlimit
  exact (Nat.length_toDigits_le_iff (by decide) hlimit).symm

namespace Bounds
open Numeral
variable {b : Bounds} {text : String}

/-- What a text comes to as a number of a range: a number, or the message of its rejection. There is no message that
could tell a number of too many digits. -/
inductive Reads (b : Bounds) (text : String) : Except (Option String) Int → Prop
  | accepted {n : Int} (h : Literal text.toList n) (hlow : b.low ≤ n) (hhigh : ∀ high ∈ b.high, n ≤ high) :
    Reads b text (.ok n)
  | malformed (h : ∀ n, ¬ Literal text.toList n) : Reads b text (.error (some ("invalid integer '" ++ text ++ "'")))
  | tooLow {n : Int} (h : Literal text.toList n) (hn : n < b.low) (hhigh : b.high = none)
    (hw : (Decimal.digits n.natAbs).length ≤ Decimal.digitLimit) :
    Reads b text (.error (some (Decimal.text n ++ " out of range [" ++ Decimal.text b.low ++ "]")))
  | outside {n high : Int} (h : Literal text.toList n) (hhigh : b.high = some high) (hn : n < b.low ∨ high < n)
    (hw : (Decimal.digits n.natAbs).length ≤ Decimal.digitLimit) :
    Reads b text (.error (some
      (Decimal.text n ++ " out of range [" ++ Decimal.text b.low ++ ", " ++ Decimal.text high ++ "]")))
  | unwritable {n : Int} (h : Literal text.toList n) (hn : n < b.low ∨ ∃ high ∈ b.high, high < n)
    (hw : Decimal.digitLimit < (Decimal.digits n.natAbs).length) : Reads b text (.error none)

theorem read_of_literal {n : Int} (h : Literal text.toList n) :
    b.read text =
      if b.Contains n then .ok n
      else if Decimal.Writable n then .error (.outOfRange n) else .error .tooManyDigits := by
  rw [read, int?_eq_some_iff.mpr h]

theorem read_of_not_literal (h : ∀ n, ¬ Literal text.toList n) : b.read text = .error .malformed := by
  rw [read, int?_eq_none_iff.mpr h]

theorem not_contains_iff {n : Int} : ¬ b.Contains n ↔ n < b.low ∨ ∃ high ∈ b.high, high < n := by
  simp only [Contains, not_and_or, not_le, not_forall, exists_prop]

theorem message?_of_unbounded {n : Int} (h : b.high = none) :
    b.message? text (.outOfRange n) =
      some (Decimal.text n ++ " out of range [" ++ Decimal.text b.low ++ "]") := by
  have hopening : " out of range [" = " out of range " ++ "[" := rfl
  simp only [message?, Bounds.text, h, Option.map_none, Option.getD_none, hopening, String.append_assoc,
    String.empty_append]

theorem message?_of_bounded {n high : Int} (h : b.high = some high) :
    b.message? text (.outOfRange n) =
      some (Decimal.text n ++ " out of range [" ++ Decimal.text b.low ++ ", " ++ Decimal.text high ++ "]") := by
  have hopening : " out of range [" = " out of range " ++ "[" := rfl
  simp only [message?, Bounds.text, h, Option.map_some, Option.getD_some, hopening, String.append_assoc]

theorem Reads.eq_read {x : Except (Option String) Int} (h : b.Reads text x) :
    (b.read text).mapError (b.message? text) = x := by
  cases h with
  | accepted h hlow hhigh =>
    rw [read_of_literal h, if_pos ⟨hlow, hhigh⟩]
    rfl
  | malformed h =>
    rw [read_of_not_literal h]
    rfl
  | tooLow h hn hhigh hw =>
    rw [read_of_literal h, if_neg (not_contains_iff.mpr (.inl hn)), if_pos (Decimal.writable_iff.mpr hw),
      Except.mapError, message?_of_unbounded hhigh]
  | outside h hhigh hn hw =>
    have hrange := not_contains_iff.mpr (hn.imp_right fun hn => ⟨_, hhigh, hn⟩)
    rw [read_of_literal h, if_neg hrange, if_pos (Decimal.writable_iff.mpr hw), Except.mapError,
      message?_of_bounded hhigh]
  | unwritable h hn hw =>
    rw [← Nat.not_le, ← Decimal.writable_iff] at hw
    rw [read_of_literal h, if_neg (not_contains_iff.mpr hn), if_neg hw]
    rfl

theorem exists_reads (b : Bounds) (text : String) : ∃ x, b.Reads text x := by
  by_cases hliteral : ∃ n, Literal text.toList n
  · obtain ⟨n, h⟩ := hliteral
    by_cases hn : b.Contains n
    · exact ⟨_, .accepted h hn.1 hn.2⟩
    rw [not_contains_iff] at hn
    rcases Nat.lt_or_ge Decimal.digitLimit (Decimal.digits n.natAbs).length with hw | hw
    · exact ⟨_, .unwritable h hn hw⟩
    rcases hhigh : b.high with _ | high
    · rw [hhigh] at hn
      obtain hlow | ⟨high, ⟨⟩, -⟩ := hn
      exact ⟨_, .tooLow h hlow hhigh hw⟩
    · rw [hhigh] at hn
      refine ⟨_, .outside h hhigh (hn.imp_right ?_) hw⟩
      rintro ⟨_, ⟨⟩, hlt⟩
      exact hlt
  · exact ⟨_, .malformed fun n h => hliteral ⟨n, h⟩⟩

theorem mapError_read_eq_iff {x : Except (Option String) Int} :
    (b.read text).mapError (b.message? text) = x ↔ b.Reads text x := by
  refine ⟨?_, Reads.eq_read⟩
  rintro rfl
  obtain ⟨x, h⟩ := exists_reads b text
  exact h.eq_read ▸ h

theorem read_eq_ok_iff {n : Int} :
    b.read text = .ok n ↔ Literal text.toList n ∧ b.low ≤ n ∧ ∀ high ∈ b.high, n ≤ high := by
  constructor
  · intro h
    have hreads := mapError_read_eq_iff.mp (congrArg (Except.mapError (b.message? text)) h)
    cases hreads with
    | accepted hliteral hlow hhigh => exact ⟨hliteral, hlow, hhigh⟩
  · rintro ⟨h, hrange⟩
    have hcontains : b.Contains n := hrange
    rw [read_of_literal h, if_pos hcontains]

/-- A text is read as a number exactly if it is a literal of a number in the range. Each text has one outcome. -/
theorem read_literals (b : Bounds) (text : String) :
    (∀ n, b.read text = .ok n ↔ Literal text.toList n ∧ b.low ≤ n ∧ ∀ high ∈ b.high, n ≤ high) ∧
    (∀ x, (b.read text).mapError (b.message? text) = x ↔ b.Reads text x) ∧
    ∃! x, b.Reads text x := by
  refine ⟨fun n => read_eq_ok_iff, fun x => mapError_read_eq_iff, ?_⟩
  obtain ⟨x, h⟩ := exists_reads b text
  exact ⟨x, h, fun y hy => hy.eq_read.symm.trans h.eq_read⟩

example : Bounds.read ⟨0, some 255⟩ "\u2003+0X_f\u0663" = .ok 0xF3 := by decide

end Bounds

end SmbusPostBox
