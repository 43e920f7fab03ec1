import SmbusPostBox.Request

/-! Controllers of an I2C bus: whatever can send address bytes to a device and read its answer in one
combined transfer. A controller acts on a state of its own, the hardware. -/

namespace SmbusPostBox

open Text

/-- How a bus is opened: its index, its clock in Hz, and the milliseconds that one message may take. -/
structure Opening where
  bus : Int := 0
  speed : Int := 100000
  timeout : Int := 20
  deriving DecidableEq, Repr

structure Outcome where
  completed : Int
  expected : Int := 2
  deriving DecidableEq, Repr

namespace Outcome

def complete (o : Outcome) : Bool := o.completed == o.expected

def validate (o : Outcome) : Except Failure Unit :=
  if o.complete then .ok ()
  else .error { head := .writing [o.completed, o.expected] (.postBox (.incomplete o.completed o.expected) none) }

@[simp] theorem complete_iff (o : Outcome) : o.complete = true ↔ o.completed = o.expected := by
  simp [complete]

end Outcome

structure Reply where
  completed : Except Failure Int
  buffer : Bytes

structure Controller (σ : Type) where
  Handle : Type
  connect : Opening → StateM σ (Except Failure Handle)
  transfer : Handle → Int → Bytes → Bytes → StateM σ Reply
  /-- A handle is released also when that fails. -/
  release : Handle → StateM σ (Except Failure Unit × Handle)

namespace Failure

def onBus (problem : Problem) (f : Failure) : Failure :=
  if f.head.isOs then .because (.postBox problem none) f else f

end Failure

namespace Device

def openingFailure (d : Device) (f : Failure) : Failure :=
  f.onBus (.bus ("Unable to open " ++ d.text) d none)

/-- The failure of a transfer. It names the offset that the address bytes write, if that can be written. -/
def transferFailure (d : Device) (offset : Int) (f : Failure) : Failure :=
  if f.head.isOs ∧ ¬ Decimal.Writable offset then { head := .refused .tooManyDigits }
  else f.onBus (.bus ("Unable to complete i2c transfer with " ++ d.text ++ " at +" ++ Decimal.text offset)
    d (some offset))

end Device

namespace Controller

def execute (c : Controller σ) (h : c.Handle) (d : Device) (address buffer : Bytes) :
    StateM σ (Except Failure Outcome × Bytes) := do
  let reply ← c.transfer h d.address.toNat address buffer
  match reply.completed with
  | .ok n => return (.ok { completed := n }, reply.buffer)
  | .error f => return (.error (d.transferFailure (Bytes.value address) f), reply.buffer)

end Controller

end SmbusPostBox
