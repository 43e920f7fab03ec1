/-! Byte strings, most significant byte first, and the ways a reply is laid into a buffer. -/

namespace SmbusPostBox

abbrev Bytes := List UInt8

namespace Bytes

def value (b : Bytes) : Nat := b.foldl (fun n x => n * 256 + x.toNat) 0

theorem value_append_singleton (b : Bytes) (x : UInt8) :
    value (b ++ [x]) = value b * 256 + x.toNat := by
  simp [value, List.foldl_append]

/-- Exactly `n` bytes of `b`: what is over is cut off, what is missing is zero. -/
def fit (n : Nat) (b : Bytes) : Bytes := b.take n ++ List.replicate (n - b.length) 0

@[simp] theorem length_fit (n : Nat) (b : Bytes) : (fit n b).length = n := by
  simp only [fit, List.length_append, List.length_take, List.length_replicate]
  omega

theorem fit_of_length_eq {n : Nat} {b : Bytes} (h : b.length = n) : fit n b = b := by
  simp [fit, ← h]

def overlay (p b : Bytes) : Bytes := p.take b.length ++ b.drop p.length

@[simp] theorem length_overlay (p b : Bytes) : (overlay p b).length = b.length := by
  simp only [overlay, List.length_append, List.length_take, List.length_drop]
  omega

end Bytes

end SmbusPostBox
