import SmbusPostBox.Bench
import SmbusPostBox.Controller

/-! Buses that the Linux kernel drives, reached through device nodes. A transfer is one request to the
kernel, with two messages whose fields are 16 bits wide. -/

namespace SmbusPostBox.Message

def readFlag : UInt16 := 0x1

def tenBitFlag : UInt16 := 0x10

/-- Addresses above 0x7F need ten bits, which each message says. The address itself is cut to its field. -/
def head (address : Int) (flags : UInt16) (length : Nat) : Message where
  address := UInt16.ofNat (address % 0x10000).toNat
  flags := if 0x7F < address then flags ||| tenBitFlag else flags
  length := UInt16.ofNat length

end SmbusPostBox.Message

namespace SmbusPostBox.Bench

structure Node where
  descriptor : Option Nat
  deriving DecidableEq, Repr

def badDescriptor : Failure := { head := .osCode 9 "Bad file descriptor" }

def noDescriptor : Failure := { head := .numberless .descriptor }

/-- The kernel fills a message of its own, all zero at first, and the buffer is replaced by it. -/
def linux : Controller Bench where
  Handle := Node
  connect o := do
    log (.openNode (Device.node o.bus))
    match ← nextOpen with
    | some f => return .error f
    | none => return .ok ⟨some (← nextDescriptor)⟩
  transfer node address write buffer := do
    let w := Message.head address 0 write.length
    let r := Message.head address Message.readFlag buffer.length
    let data := write.take w.length.toNat
    if node.descriptor.isNone ∧ (← get).gate = .library then return ⟨.error noDescriptor, buffer⟩
    log (.combined node.descriptor w r data)
    if node.descriptor.isNone then return ⟨.error badDescriptor, buffer⟩
    let e ← nextTransfer
    match e.fault with
    | some f => return ⟨.error f, buffer⟩
    | none =>
      let size := r.length.toNat
      return ⟨.ok e.completed, Bytes.fit size (e.payload.read r.address.toNat data size)⟩
  release node := do
    log (.closeNode node.descriptor)
    match ← nextClose with
    | some f => return (.error f, ⟨none⟩)
    | none => return (.ok (), ⟨none⟩)

end SmbusPostBox.Bench
