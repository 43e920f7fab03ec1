import Mathlib.Tactic.SplitIfs
import SmbusPostBox.Request

/-! Queries whose numbers are in range, and those of them that fit a post-box. Only the latter reach the
hardware; they stand for a device, a request and a context without loss. -/

namespace SmbusPostBox
open Text

namespace Query

/-- The refusals that a query deserves, in the order in which its numbers are looked at. -/
def refusals (q : Query) : List Refusal :=
  (if 0 ≤ q.offset ∧ q.offset ≤ 0xFFFF then [] else [.offset q.offset]) ++
  (if 0 ≤ q.size then [] else [.size q.size]) ++
  (if 0 ≤ q.bus ∧ q.bus ≤ 0xFF then [] else [.busIndex q.bus]) ++
  (if 0 ≤ q.address ∧ q.address ≤ 0xFFFF then [] else [.address q.address])

def InRange (q : Query) : Prop :=
  (0 ≤ q.offset ∧ q.offset ≤ 0xFFFF) ∧ 0 ≤ q.size ∧ (0 ≤ q.bus ∧ q.bus ≤ 0xFF) ∧
    0 ≤ q.address ∧ q.address ≤ 0xFFFF

def Admitted (q : Query) : Prop := q.InRange ∧ q.size ≤ 8

def Writable (q : Query) : Prop := ∀ n ∈ [q.bus, q.address, q.offset, q.size], Decimal.Writable n

instance (q : Query) : Decidable q.InRange := inferInstanceAs (Decidable (_ ∧ _))

instance (q : Query) : Decidable q.Admitted := inferInstanceAs (Decidable (_ ∧ _))

instance (q : Query) : Decidable q.Writable := inferInstanceAs (Decidable (∀ n ∈ _, _))

def device (q : Query) : Device := ⟨UInt8.ofNat q.bus.toNat, UInt16.ofNat q.address.toNat⟩

def request (q : Query) : Request := ⟨UInt16.ofNat q.offset.toNat, q.size.toNat⟩

def context (q : Query) : String :=
  "Unable to read post-box at +" ++ Decimal.text q.offset ++ ", size=" ++ Decimal.text q.size

def openingProblem (q : Query) : Problem := .bus ("Unable to open " ++ q.device.text) q.device none

def transferProblem (q : Query) : Problem :=
  .bus ("Unable to complete i2c transfer with " ++ q.device.text ++ " at +" ++ Decimal.text q.offset) q.device
    (some q.offset)

variable {q : Query}

theorem inRange_iff_refusals_eq_nil : q.InRange ↔ q.refusals = [] := by
  simp only [InRange, refusals, List.append_eq_nil_iff, ite_eq_left_iff, List.cons_ne_nil, imp_false,
    Decidable.not_not, and_assoc]

theorem InRange.bus_toNat (h : q.InRange) : (q.device.bus.toNat : Int) = q.bus := by
  obtain ⟨-, -, hb, -⟩ := h
  simp only [device, UInt8.toNat_ofNat']
  omega

theorem InRange.address_toNat (h : q.InRange) : (q.device.address.toNat : Int) = q.address := by
  obtain ⟨-, -, -, ha⟩ := h
  simp only [device, UInt16.toNat_ofNat']
  omega

theorem InRange.offset_toNat (h : q.InRange) : (q.request.offset.toNat : Int) = q.offset := by
  obtain ⟨ho, -⟩ := h
  simp only [request, UInt16.toNat_ofNat']
  omega

theorem InRange.size_toNat (h : q.InRange) : (q.request.size : Int) = q.size := Int.toNat_of_nonneg h.2.1

theorem InRange.context_request (h : q.InRange) : q.request.context = q.context := by
  unfold Request.context context
  rw [h.offset_toNat, h.size_toNat]

theorem InRange.offset_writable (h : q.InRange) : Decimal.Writable q.offset := by
  have ho : q.offset.natAbs < 100000 := by
    have := h.1
    omega
  exact Decimal.writable_of_natAbs_lt ho

theorem Admitted.size_le (h : q.Admitted) : q.request.size ≤ Request.maxSize := by
  have hs := h.1.size_toNat
  have := h.2
  simp only [Request.maxSize]
  omega

theorem InRange.device_ofInts (h : q.InRange) : Device.ofInts q.bus q.address = .ok q.device := by
  obtain ⟨-, -, hb, ha⟩ := h
  simp only [Device.ofInts, hb, ha, and_self, if_true]
  rfl

theorem InRange.request_ofInts (h : q.InRange) : Request.ofInts q.offset q.size = .ok q.request := by
  obtain ⟨ho, hs, -⟩ := h
  simp only [Request.ofInts, Offset.ofInt, ho, hs, and_self, if_true]
  rfl

theorem check_of_inRange (h : q.InRange) : q.check = .ok (q.device, q.request) := by
  rw [check, h.request_ofInts, h.device_ofInts]
  rfl

theorem check_of_refusals {why : Refusal} (h : q.refusals.head? = some why) :
    ∃ n ∈ [q.bus, q.address, q.offset, q.size], q.check = .error (.refusing n why) := by
  simp only [refusals] at h
  simp only [check, Request.ofInts, Device.ofInts, Offset.ofInt]
  split_ifs at h ⊢ <;> simp_all [bind, Except.bind]

end Query

end SmbusPostBox
