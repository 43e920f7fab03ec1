import Mathlib.Data.List.TakeWhile
import Mathlib.Tactic.SplitIfs
import SmbusPostBox.Bounds
import SmbusPostBox.Text.Rendering

/-! Literals behind a mark. Every natural number is read back from its digits in a base of at most sixteen, however many
they are: only decimal literals are bounded. -/

namespace SmbusPostBox
open Text

/-! ### Letters and digits -/

namespace Text
variable {c : Char}

theorem toNat_lt_of_isAlphanum (h : c.isAlphanum = true) : c.toNat < 128 := by
  have hle {d : Char} (hd : d.toNat < 128) (hcd : c.val ≤ d.val) : c.toNat < 128 :=
    Nat.lt_of_le_of_lt (UInt32.le_iff_toNat_le.mp hcd) hd
  have hclasses : (c.isUpper || c.isLower || c.isDigit) = true := h
  rcases Bool.or_eq_true_iff.mp hclasses with hletter | hdigit
  · rcases Bool.or_eq_true_iff.mp hletter with hupper | hlower
    · exact hle (by decide) (of_decide_eq_true hupper).2
    · have hz := (Bool.and_eq_true_iff.mp hlower).2
      exact hle (by decide) (of_decide_eq_true hz)
  · have h9 := (Bool.and_eq_true_iff.mp hdigit).2
    exact hle (by decide) (of_decide_eq_true h9)

/-- What holds of the first letters and digits holds of all: the others lie beyond the first 128 characters. -/
theorem of_isAlphanum {p : Char → Prop} (hp : ∀ n < 128, (Char.ofNat n).isAlphanum = true → p (Char.ofNat n))
    (h : c.isAlphanum = true) : p c := by
  have hc := hp c.toNat (toNat_lt_of_isAlphanum h)
  rw [Char.ofNat_toNat] at hc
  exact hc h

theorem Blank.isBlank_of_isAlphanum (h : c.isAlphanum = true) : isBlank c = false :=
  of_isAlphanum (p := fun c => isBlank c = false) (by decide +kernel) h

theorem DecimalDigit.plain_of_isAlphanum (h : c.isAlphanum = true) : plain c = c :=
  of_isAlphanum (p := fun c => plain c = c) (by decide +kernel) h

theorem Blank.trim_append {before core after : List Char} (hb : ∀ c ∈ before, isBlank c = true)
    (ha : ∀ c ∈ after, isBlank c = true) (hcore : ∀ c ∈ core, isBlank c = false) :
    trim (before ++ core ++ after) = core := by
  rcases core with _ | ⟨c, core⟩
  · have hblank : ∀ d ∈ before ++ [] ++ after, isBlank d = true := by
      intro d hd
      rw [List.append_nil] at hd
      exact (List.mem_append.mp hd).elim (hb d) (ha d)
    rw [trim, List.dropWhile_eq_nil_iff.mpr hblank]
    rfl
  · have hkept (d : Char) (hd : d ∈ c :: core) (l : List Char) : (d :: l).dropWhile isBlank = d :: l :=
      List.dropWhile_cons_of_neg (Bool.not_eq_true _ ▸ hcore d hd)
    obtain ⟨d, l, hlast⟩ := List.exists_cons_of_ne_nil (List.reverse_ne_nil_iff.mpr (List.cons_ne_nil c core))
    have hd : d ∈ c :: core := List.mem_reverse.mp (hlast ▸ List.mem_cons_self)
    have hafter : ∀ d ∈ after.reverse, isBlank d = true := fun d hd => ha d (List.mem_reverse.mp hd)
    rw [trim, List.append_assoc, List.dropWhile_append_of_pos hb, List.cons_append, hkept c List.mem_cons_self,
      ← List.cons_append, List.reverse_append, List.dropWhile_append_of_pos hafter, hlast, hkept d hd, ← hlast,
      List.reverse_reverse]

theorem Blank.trim_eq_self {cs : List Char} (h : ∀ c ∈ cs, isBlank c = false) : trim cs = cs := by
  simpa only [List.nil_append, List.append_nil] using @trim_append [] cs [] nofun nofun h

end Text

namespace Numeral
variable {base : Nat}

/-! ### Digits -/

theorem isAlphanum_of_digit? {c : Char} {d : Nat} (h : digit? base c = some d) : c.isAlphanum = true := by
  rcases hc : c.isAlphanum
  · have hclasses : (c.isUpper || c.isLower || c.isDigit) = false := hc
    obtain ⟨⟨hupper, hlower⟩, hdigit⟩ : (c.isUpper = false ∧ c.isLower = false) ∧ c.isDigit = false := by
      simpa only [Bool.or_eq_false_iff] using hclasses
    simp [digit?, hupper, hlower, hdigit] at h
  · rfl

theorem isAlphanum_of_mapM_digit? {cs : List Char} {ds : List Nat} (h : cs.mapM (digit? base) = some ds) :
    ∀ c ∈ cs, c.isAlphanum = true := by
  induction cs generalizing ds with
  | nil => exact nofun
  | cons c cs ih =>
    rw [List.mapM_cons] at h
    obtain ⟨d, hd, hrest⟩ := Option.bind_eq_some_iff.mp h
    obtain ⟨es, hes, -⟩ := Option.bind_eq_some_iff.mp hrest
    intro x hx
    rcases List.mem_cons.mp hx with rfl | hx
    · exact isAlphanum_of_digit? hd
    · exact ih hes x hx

theorem digit?_digitChar : ∀ base ≤ 16, ∀ d < base, digit? base (Nat.digitChar d) = some d := by decide +kernel

theorem ofDigits_append (base : Nat) (ds es : List Nat) :
    ofDigits base (ds ++ es) = es.foldl (fun n d => n * base + d) (ofDigits base ds) := List.foldl_append ..

theorem mapM_digit?_toDigits (h : 1 < base) (h' : base ≤ 16) (n : Nat) :
    ∃ ds, (Nat.toDigits base n).mapM (digit? base) = some ds ∧ ofDigits base ds = n := by
  induction n using Nat.strongRecOn with
  | ind n ih =>
    rcases Nat.lt_or_ge n base with hn | hn
    · refine ⟨[n], ?_, ?_⟩
      · rw [Nat.toDigits_of_lt_base hn, List.mapM_cons, digit?_digitChar base h' n hn]
        rfl
      · simp only [ofDigits, List.foldl_cons, List.foldl_nil, Nat.zero_mul, Nat.zero_add]
    · have hsmaller : n / base < n := Nat.div_lt_self (by omega) h
      have hlast : n % base < base := Nat.mod_lt n (by omega)
      obtain ⟨ds, hds, hvalue⟩ := ih (n / base) hsmaller
      refine ⟨ds ++ [n % base], ?_, ?_⟩
      · rw [Nat.toDigits_of_base_le h hn, List.mapM_append, hds, List.mapM_cons, digit?_digitChar base h' _ hlast]
        rfl
      · rw [ofDigits_append, hvalue]
        exact Nat.div_add_mod' n base

/-! ### Literals -/

theorem ungroup_eq_self {cs : List Char} (hne : cs ≠ []) (h : '_' ∉ cs) : ungroup cs = some cs := by
  fun_induction ungroup cs with
  | case1 => exact absurd rfl hne
  | case2 | case4 => exact absurd List.mem_cons_self h
  | case3 => rfl
  | case5 => exact absurd (List.mem_cons_of_mem _ List.mem_cons_self) h
  | case6 c d s hc hd ih =>
    have hrest : '_' ∉ d :: s := fun hmem => h (List.mem_cons_of_mem c hmem)
    rw [ih (List.cons_ne_nil _ _) hrest]
    rfl

theorem afterMark_eq_self {cs : List Char} (h : '_' ∉ cs) : afterMark cs = cs := by
  unfold afterMark
  split
  · exact absurd List.mem_cons_self h
  · rfl

theorem isAlphanum_of_base? {c : Char} (h : base? c = some base) : c.isAlphanum = true := by
  unfold base? at h
  split_ifs at h with hx ho hb
  · rcases hx with rfl | rfl <;> rfl
  · rcases ho with rfl | rfl <;> rfl
  · rcases hb with rfl | rfl <;> rfl

theorem int?_marked {c : Char} {cs : List Char} {ds : List Nat} (hc : base? c = some base) (hne : cs ≠ [])
    (hds : cs.mapM (digit? base) = some ds) : int? ('0' :: c :: cs) = some (ofDigits base ds : Int) := by
  have halphanum : ∀ d ∈ '0' :: c :: cs, d.isAlphanum = true := by
    intro d hd
    rcases List.mem_cons.mp hd with rfl | hd
    · rfl
    rcases List.mem_cons.mp hd with rfl | hd
    · exact isAlphanum_of_base? hc
    · exact isAlphanum_of_mapM_digit? hds d hd
  have hungrouped : '_' ∉ cs := fun hmem => nomatch isAlphanum_of_mapM_digit? hds '_' hmem
  have htrim := Blank.trim_eq_self fun d hd => Blank.isBlank_of_isAlphanum (halphanum d hd)
  have hplain : ('0' :: c :: cs).map DecimalDigit.plain = '0' :: c :: cs := by
    rw [List.map_congr_left (g := id), List.map_id]
    intro d hd
    exact DecimalDigit.plain_of_isAlphanum (halphanum d hd)
  have hmagnitude : magnitude? ('0' :: c :: cs) = some (ofDigits base ds) := by
    simp only [magnitude?, hc, digits?, afterMark_eq_self hungrouped, ungroup_eq_self hne hungrouped,
      Option.bind_some, hds, Option.map_some]
  rw [int?, htrim, hplain]
  change (magnitude? ('0' :: c :: cs)).map (fun n => (n : Int)) = _
  rw [hmagnitude]
  rfl

theorem int?_hex (n : Nat) : int? ('0' :: 'x' :: Hex.digits n) = some (n : Int) := by
  obtain ⟨ds, hds, hvalue⟩ : ∃ ds, (Hex.digits n).mapM (digit? 16) = some ds ∧ ofDigits 16 ds = n :=
    mapM_digit?_toDigits (by decide) (by decide) n
  have hne : Hex.digits n ≠ [] := Nat.toDigits_ne_nil
  rw [int?_marked (c := 'x') rfl hne hds, hvalue]

end Numeral

end SmbusPostBox
