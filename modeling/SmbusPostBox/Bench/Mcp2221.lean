import SmbusPostBox.Bench
import SmbusPostBox.Controller
import SmbusPostBox.Fault.Message

/-! Buses behind an MCP2221 adapter, which takes the two messages of a transfer as two calls. -/

namespace SmbusPostBox.Bench

open Text

structure Adapter where
  attached : Bool
  timeout : Int
  deriving DecidableEq, Repr

namespace Adapter

def Telling : Signal → Prop
  | .nack | .adapterTimeout | .clockLow | .dataLow | .runtime | .unimplemented => True
  | .value | .key => False

instance : DecidablePred Telling
  | .nack | .adapterTimeout | .clockLow | .dataLow | .runtime | .unimplemented => isTrue trivial
  | .value | .key => isFalse id

def Missing : Signal → Prop
  | .runtime | .unimplemented => True
  | _ => False

instance : DecidablePred Missing
  | .runtime | .unimplemented => isTrue trivial
  | .value | .key | .nack | .adapterTimeout | .clockLow | .dataLow => isFalse id

def unavailable (index : Int) (f : Failure) : Failure :=
  match f.head with
  | .raised signal data =>
    if Missing signal then
      .because (.osNote ("MCP2221 #" ++ Decimal.text index ++ " not available: " ++ signal.message data)) f
    else f
  | _ => f

/-- The failure of a message, after `count` others got through. -/
def interrupted (count : Nat) (f : Failure) : Failure :=
  match f.head with
  | .raised signal data =>
    if Telling signal then
      .because (.osNote ("MCP2221 I2C error after " ++ Decimal.text count ++ " message(s): " ++
        signal.describe data)) f
    else f
  | _ => f

def sevenBitsOnly (address : Int) : Failure :=
  { head := .osNote ("MCP2221 supports 7-bit addresses only, got 0x" ++ Hex.text address.toNat) }

def noSlave : Failure := { head := .raised .value [.text "Slave address not valid."] }

/-- Sends a message. What the script has for the whole transfer is kept for the message that reads. -/
def write (a : Adapter) (address : Int) (data : Bytes) (framing : Framing) :
    StateM Bench (Except Failure Exchange) := do
  log (.write address data framing a.timeout)
  if 0 ≤ address ∧ address ≤ 0x7F then
    let e ← nextTransfer
    match e.writeFault with
    | some f => return .error f
    | none => return .ok e
  else return .error noSlave

def read (a : Adapter) (e : Exchange) (address : Int) (data : Bytes) (size : Nat) (framing : Framing) :
    StateM Bench (Except Failure Bytes) := do
  log (.read address size framing a.timeout)
  match e.fault with
  | some f => return .error f
  | none => return .ok (e.payload.read address data size)

/-- An adapter cannot read nothing, so a transfer into an empty buffer only writes. -/
def transfer (a : Adapter) (address : Int) (data buffer : Bytes) : StateM Bench Reply := do
  if 0x7F < address then return ⟨.error (sevenBitsOnly address), buffer⟩
  if !a.attached then return ⟨.error { head := .detached }, buffer⟩
  if buffer.isEmpty then
    match ← a.write address data .regular with
    | .error f => return ⟨.error (interrupted 0 f), buffer⟩
    | .ok _ => return ⟨.ok 2, buffer⟩
  else
    match ← a.write address data .nonstop with
    | .error f => return ⟨.error (interrupted 0 f), buffer⟩
    | .ok e =>
      match ← a.read e address data buffer.length .restart with
      | .error f => return ⟨.error (interrupted 1 f), buffer⟩
      | .ok payload =>
        if payload.length = buffer.length then return ⟨.ok 2, payload⟩
        else return ⟨.ok 1, buffer⟩

def attach (o : Opening) : StateM Bench (Except Failure Adapter) := do
  log (.attach o.bus)
  match ← nextOpen with
  | some f => return .error (unavailable o.bus f)
  | none =>
    log (.setSpeed o.speed)
    match ← nextSpeed with
    | some f => return .error (unavailable o.bus f)
    | none => return .ok ⟨true, o.timeout⟩

end Adapter

def mcp2221 : Controller Bench where
  Handle := Adapter
  connect := Adapter.attach
  transfer := Adapter.transfer
  release a := return (.ok (), { a with attached := false })

end SmbusPostBox.Bench
