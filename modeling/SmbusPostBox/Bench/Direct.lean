import SmbusPostBox.Bench
import SmbusPostBox.Controller

/-! A controller whose hardware takes a combined transfer as one call. -/

namespace SmbusPostBox.Bench

/-- A payload covers the front of the buffer, also when the transfer then fails. -/
def direct : Controller Bench where
  Handle := Unit
  connect o := do
    log (.connect o.bus)
    match ← nextOpen with
    | some f => return .error f
    | none => return .ok ()
  transfer _ address write buffer := do
    log (.transfer address write buffer.length)
    let e ← nextTransfer
    let filled :=
      match e.payload with
      | .absent => buffer
      | p => Bytes.overlay (p.read address write buffer.length) buffer
    match e.fault with
    | some f => return ⟨.error f, filled⟩
    | none => return ⟨.ok e.completed, filled⟩
  release _ := do
    log .release
    match ← nextClose with
    | some f => return (.error f, ())
    | none => return (.ok (), ())

end SmbusPostBox.Bench
