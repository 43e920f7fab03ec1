import SmbusPostBox.Fault

/-! Offsets into a post-box, the address bytes that select one, and what one read asks for. -/

namespace SmbusPostBox

open Text

namespace Offset

def ofInt (n : Int) : Except Failure UInt16 :=
  if 0 ≤ n ∧ n ≤ 0xFFFF then .ok (UInt16.ofNat n.toNat) else .error (.refusing n (.offset n))

def bytes (o : UInt16) : Bytes :=
  if o ≤ 0xFF then [UInt8.ofNat o.toNat] else [UInt8.ofNat (o.toNat / 256), UInt8.ofNat (o.toNat % 256)]

def encode (n : Int) : Except Failure Bytes := (ofInt n).map bytes

@[simp] theorem value_bytes (o : UInt16) : Bytes.value (bytes o) = o.toNat := by
  have ho := o.toNat_lt
  unfold bytes
  split
  · rename_i h
    have h' : o.toNat ≤ 255 := UInt16.le_iff_toNat_le.mp h
    simp only [Bytes.value, List.foldl_cons, List.foldl_nil, UInt8.toNat_ofNat']
    omega
  · simp only [Bytes.value, List.foldl_cons, List.foldl_nil, UInt8.toNat_ofNat']
    omega

end Offset

namespace Device

def ofInts (bus address : Int) : Except Failure Device :=
  if 0 ≤ bus ∧ bus ≤ 255 then
    if 0 ≤ address ∧ address ≤ 0xFFFF then
      .ok ⟨UInt8.ofNat bus.toNat, UInt16.ofNat address.toNat⟩
    else .error (.refusing address (.address address))
  else .error (.refusing bus (.busIndex bus))

end Device

structure Request where
  offset : UInt16
  size : Nat
  deriving DecidableEq, Repr

namespace Request

def maxSize : Nat := 8

/-- The offset is looked at first. A size has no upper bound here. -/
def ofInts (offset size : Int) : Except Failure Request := do
  let offset ← Offset.ofInt offset
  if 0 ≤ size then .ok ⟨offset, size.toNat⟩ else .error (.refusing size (.size size))

def context (r : Request) : String :=
  "Unable to read post-box at +" ++ Decimal.text r.offset.toNat ++ ", size=" ++ Decimal.text r.size

end Request

structure Query where
  bus : Int
  address : Int
  offset : Int
  size : Int
  deriving DecidableEq, Repr

namespace Query

/-- What is asked for is checked before whom it is asked of. -/
def check (q : Query) : Except Failure (Device × Request) := do
  let request ← Request.ofInts q.offset q.size
  let device ← Device.ofInts q.bus q.address
  return (device, request)

end Query

end SmbusPostBox
