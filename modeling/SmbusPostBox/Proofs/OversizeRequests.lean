import Mathlib.Algebra.Group.Nat.Defs
import SmbusPostBox.Proofs.WrittenRequests

/-! Requests for more bytes than a post-box holds. They never reach the hardware, but they are told as such only as
long as the size can be written in decimal, which a literal of another base may exceed. -/

namespace SmbusPostBox
open Text

/-! ### Powers of sixteen -/

namespace Numeral

theorem ofDigits_power (base k : Nat) : ofDigits base (1 :: List.replicate k 0) = base ^ k := by
  induction k with
  | zero => simp [ofDigits]
  | succ k ih =>
    have hlast : 1 :: List.replicate (k + 1) 0 = (1 :: List.replicate k 0) ++ [0] := by
      rw [List.replicate_succ', List.cons_append]
    rw [hlast, ofDigits_append, ih, Nat.pow_succ]
    rfl

def hexPower (k : Nat) : List Char := "0x1".toList ++ List.replicate k '0'

theorem mapM_digit?_zeros (k : Nat) : (List.replicate k '0').mapM (digit? 16) = some (List.replicate k 0) := by
  induction k with
  | zero => rfl
  | succ k ih =>
    rw [List.replicate_succ, List.mapM_cons, ih]
    rfl

theorem int?_hexPower (k : Nat) : int? (hexPower k) = some ((16 ^ k : Nat) : Int) := by
  have hdigits : ('1' :: List.replicate k '0').mapM (digit? 16) = some (1 :: List.replicate k 0) := by
    rw [List.mapM_cons, mapM_digit?_zeros]
    rfl
  have hpower : hexPower k = '0' :: 'x' :: '1' :: List.replicate k '0' := rfl
  rw [hpower, int?_marked rfl (List.cons_ne_nil _ _) hdigits, ofDigits_power]

end Numeral

/-! ### Runs -/

theorem Text.Decimal.not_writable_hex : ¬ Writable ((16 ^ digitLimit : Nat) : Int) := by
  unfold Writable ceiling
  -- With the limit left open, nothing computes its powers.
  generalize digitLimit = k
  rw [Int.natAbs_natCast]
  exact Nat.not_lt.mpr (Nat.pow_le_pow_left (by decide) k)

namespace CommandLine
variable {σ : Type}

def oversizeLines (k n : Int) : List String :=
  ["Error: Unable to read post-box at +" ++ Decimal.text k ++ ", size=" ++ Decimal.text n, "", "Caused by:",
    "    Maximum post-box size is 8 bytes (requested " ++ Decimal.text n ++ ")"]

theorem told_sizeBounds (q : Query) : q.told (.sizeBounds q.size 8) [] = oversizeLines q.offset q.size := by
  have hlimit : "    " ++ "Maximum post-box size is " ++ Decimal.text 8 ++ " bytes (requested " =
      "    Maximum post-box size is 8 bytes (requested " := rfl
  have hmessage : "    " ++ (Problem.sizeBounds q.size 8).message =
      "    Maximum post-box size is 8 bytes (requested " ++ Decimal.text q.size ++ ")" := by
    change "    " ++ ("Maximum post-box size is " ++ Decimal.text 8 ++ " bytes (requested " ++
      Decimal.text q.size ++ ")") = _
    rw [← String.append_assoc, ← String.append_assoc, ← String.append_assoc, ← String.append_assoc, hlimit]
  rw [oversizeLines, ← hmessage]
  rfl

section
variable (controllers : Backend → Controller σ) {argv : List String} {o : Options}

theorem run_of_oversize {q : Query} (hparse : Options.parse argv = .ok o) (hq : o.query? = some q) (h8 : 8 < q.size)
    (s : σ) :
    run controllers argv s =
      (if Decimal.Writable q.size then ⟨.ok 1, "", lines (oversizeLines q.offset q.size)⟩
        else ⟨.error { head := .refused .tooManyDigits }, "", ""⟩, s) := by
  have hrange : q.InRange := (Options.bounded_of_parse hparse).inRange hq
  let r : Reader σ := ⟨controllers (o.backend.getD .linux), o.verbose⟩
  have hread := r.read_of_oversize (s := s) hrange h8
  have hrun : run controllers argv s = (.ofReading (r.read q s).1, (r.read q s).2) := run_eq controllers hparse hq s
  rw [hrun, hread]
  refine Prod.ext ?_ rfl
  dsimp only
  by_cases hw : Decimal.Writable q.size
  · rw [if_pos hw, ← told_sizeBounds]
    apply Report.ofReading_of_postBox
    simp only [Fault.writing, List.forall_mem_singleton, hw, if_true]
    rfl
  · rw [if_neg hw]
    apply Report.ofReading_of_uncaught
    · simp only [Fault.writing, List.forall_mem_singleton, hw, if_false]
      rfl
    · rfl

theorem run_oversize {n : Int} (hparse : Options.parse argv = .ok o) (hn : o.number .size = some n) (h8 : 8 < n)
    (s : σ) :
    let out := run controllers argv s
    out.2 = s ∧ out.1.stdout = "" ∧
    (out.1.status = .ok 1 ↔ (∀ f, o.number f ≠ none) ∧ Decimal.Writable n) ∧
    (∀ k, o.number .offset = some k → out.1.status = .ok 1 → out.1.stderr = lines (oversizeLines k n)) ∧
    ((∀ f, o.number f ≠ none) → ¬ Decimal.Writable n →
      out.1 = ⟨.error { head := .refused .tooManyDigits }, "", ""⟩) ∧
    ((∃ f, o.number f = none) → out.1 = ⟨.error { head := .numberless o.need }, "", ""⟩) := by
  intro out
  rcases hq : o.query? with _ | q
  · have hnot : ¬ ∀ f, o.number f ≠ none := by
      rw [← Options.exists_query?_iff, hq]
      exact nofun
    have hout : out = (⟨.error { head := .numberless o.need }, "", ""⟩, s) := run_of_numberless hparse hq controllers s
    rw [hout]
    refine ⟨rfl, rfl, iff_of_false nofun fun h => hnot h.1, ?_, fun h => absurd h hnot, fun _ => rfl⟩
    intro k _ hstatus
    cases hstatus
  · have hall : ∀ f, o.number f ≠ none := Options.exists_query?_iff.mp ⟨q, hq⟩
    have hgiven : ¬ ∃ f, o.number f = none := fun ⟨f, hf⟩ => hall f hf
    obtain ⟨-, -, hoffset, hsize⟩ := Options.number_of_query? hq
    obtain rfl : q.size = n := Option.some.inj (hsize.symm.trans hn)
    have hout : out = _ := run_of_oversize controllers hparse hq h8 s
    rw [hout]
    by_cases hw : Decimal.Writable q.size
    · simp only [hw, if_true]
      refine ⟨trivial, trivial, iff_of_true trivial ⟨hall, trivial⟩, ?_, ?_, fun h => absurd h hgiven⟩
      · intro k hk _
        obtain rfl := Option.some.inj (hoffset.symm.trans hk)
        rfl
      · intro _ h
        exact absurd trivial h
    · simp only [hw, if_false]
      refine ⟨trivial, trivial, iff_of_false nofun fun h => h.2, ?_, fun _ _ => trivial, fun h => absurd h hgiven⟩
      intro k _ hstatus
      cases hstatus

end

theorem parse_of_size {x : List Char} {n : Int} (h : Field.size.bounds.read (String.ofList x) = .ok n) :
    ∃ o, Options.parse ["read", "--bus=1", "--address=0x50", "--offset=0x10", "--size=" ++ String.ofList x] = .ok o ∧
      o.number .size = some n ∧ ∀ f, o.number f ≠ none := by
  let texts : Field → List Char := Field.pick "1".toList "0x50".toList "0x10".toList x
  have hline : ["read", "--bus=1", "--address=0x50", "--offset=0x10", "--size=" ++ String.ofList x] =
      Occurrence.line (Occurrence.each texts) := by
    have hsize : "--size=" ++ String.ofList x = String.ofList ("--size".toList ++ '=' :: x) := by
      apply String.toList_injective
      simp only [String.toList_append, String.toList_ofList]
      rfl
    rw [hsize]
    rfl
  have hread : ∀ f : Field, f.bounds.read (String.ofList (texts f)) = .ok (Field.of ⟨1, 0x50, 0x10, n⟩ f) := by
    have hbus : Field.bus.bounds.read (String.ofList "1".toList) = .ok 1 := rfl
    have haddress : Field.address.bounds.read (String.ofList "0x50".toList) = .ok 0x50 := rfl
    have hoffset : Field.offset.bounds.read (String.ofList "0x10".toList) = .ok 0x10 := rfl
    intro f
    cases f with
    | bus => exact hbus
    | address => exact haddress
    | offset => exact hoffset
    | size => exact h
  obtain ⟨o, ho, hnumber⟩ := Occurrence.parse_each hread
  refine ⟨o, hline ▸ ho, hnumber .size, fun f hnone => ?_⟩
  cases (hnumber f).symm.trans hnone

theorem read_hexPower (k : Nat) :
    Field.size.bounds.read (String.ofList (Numeral.hexPower k)) = .ok ((16 ^ k : Nat) : Int) := by
  have hbounds : Field.size.bounds = ⟨0, none⟩ := rfl
  have hcontains : Bounds.Contains ⟨0, none⟩ ((16 ^ k : Nat) : Int) := ⟨Int.natCast_nonneg _, nofun⟩
  rw [hbounds, Bounds.read, String.toList_ofList, Numeral.int?_hexPower]
  exact if_pos hcontains

theorem run_oversize_unwritable :
    let n : Int := (16 ^ Decimal.digitLimit : Nat)
    let argv := ["read", "--bus=1", "--address=0x50", "--offset=0x10",
      "--size=" ++ String.ofList (Numeral.hexPower Decimal.digitLimit)]
    let b : Bench := {}
    (∃ o, Options.parse argv = .ok o ∧ o.number .size = some n) ∧ 8 < n ∧
      run (fun _ => Bench.linux) argv b = (⟨.error { head := .refused .tooManyDigits }, "", ""⟩, b) := by
  have hlimit : 1 ≤ Decimal.digitLimit := by decide
  have hn := Decimal.not_writable_hex
  generalize Decimal.digitLimit = k at hn hlimit ⊢
  intro n argv b
  obtain ⟨o, hparse, hsize, hgiven⟩ := parse_of_size (read_hexPower k)
  have h8 : 8 < n := by
    have hle : 16 ^ 1 ≤ 16 ^ k := Nat.pow_le_pow_right (by decide) hlimit
    omega
  obtain ⟨hstate, -, -, -, hrefused, -⟩ := run_oversize (fun _ => Bench.linux) hparse hsize h8 b
  exact ⟨⟨o, hparse, hsize⟩, h8, Prod.ext (hrefused hgiven hn) hstate⟩

end CommandLine

end SmbusPostBox
