import SmbusPostBox.Bytes
import SmbusPostBox.Fault

/-! A bench of scripted hardware. It answers each call from a script, with defaults once the script is used
up, and keeps a log of all calls. -/

namespace SmbusPostBox

/-- How an adapter begins or ends a message on the bus. -/
inductive Framing
  | regular
  | nonstop
  | restart
  deriving DecidableEq, Repr

structure Message where
  address : UInt16
  flags : UInt16
  length : UInt16
  deriving DecidableEq, Repr

inductive Call
  | connect (bus : Int)
  | transfer (address : Int) (write : Bytes) (size : Nat)
  | release
  | openNode (path : String)
  | combined (descriptor : Option Nat) (write read : Message) (data : Bytes)
  | closeNode (descriptor : Option Nat)
  | attach (index : Int)
  | setSpeed (hertz : Int)
  | write (address : Int) (data : Bytes) (framing : Framing) (timeout : Int)
  | read (address : Int) (size : Nat) (framing : Framing) (timeout : Int)
  deriving DecidableEq, Repr

inductive Payload
  | absent
  | bytes (content : Bytes)
  | pattern
  deriving DecidableEq, Repr

structure Exchange where
  payload : Payload := .absent
  writeFault : Option Failure := none
  fault : Option Failure := none
  completed : Int := 2
  deriving DecidableEq, Repr

/-- Who turns down a request without a descriptor. The library in front of the system does not pass it on. A stand-in
for both takes it, and answers as the system would, that the descriptor is bad. -/
inductive Gate
  | library
  | system
  deriving DecidableEq, Repr

structure Bench where
  opens : List (Option Failure) := []
  speeds : List (Option Failure) := []
  transfers : List Exchange := []
  closes : List (Option Failure) := []
  descriptors : Nat := 0
  calls : List Call := []
  gate : Gate := .library
  deriving DecidableEq, Repr

namespace Payload

def read (p : Payload) (address : Int) (write : Bytes) (size : Nat) : Bytes :=
  match p with
  | absent => List.replicate size 0
  | bytes content => content
  | pattern =>
    let sum : Nat := write.foldl (fun n x => n + x.toNat) 0
    let seed : Int := sum * 31 + write.length * 17 + address
    (List.range size).map fun i => UInt8.ofNat ((seed + (i * 7 : Nat)) % 256).toNat

end Payload

namespace Bench

def log (c : Call) : StateM Bench Unit := modify fun b => { b with calls := b.calls ++ [c] }

def nextOpen : StateM Bench (Option Failure) :=
  modifyGet fun b => (b.opens.head?.join, { b with opens := b.opens.tail })

def nextSpeed : StateM Bench (Option Failure) :=
  modifyGet fun b => (b.speeds.head?.join, { b with speeds := b.speeds.tail })

def nextTransfer : StateM Bench Exchange :=
  modifyGet fun b => (b.transfers.head?.getD {}, { b with transfers := b.transfers.tail })

def nextClose : StateM Bench (Option Failure) :=
  modifyGet fun b => (b.closes.head?.join, { b with closes := b.closes.tail })

def nextDescriptor : StateM Bench Nat :=
  modifyGet fun b => (101 + b.descriptors, { b with descriptors := b.descriptors + 1 })

/-- Runs an action and tells which calls it made. -/
def observe (act : StateM Bench α) : StateM Bench (α × List Call) := fun b =>
  let (a, b') := act { b with calls := [] }
  ((a, b'.calls), { b' with calls := b.calls ++ b'.calls })

end Bench

end SmbusPostBox
