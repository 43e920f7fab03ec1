import SmbusPostBox.Text.Rendering

/-! Devices on a bus, and everything that can go wrong with them: refused numbers, faults of the operating system,
signals of an adapter or of the code around it, and the problems of a post-box read itself. -/

namespace SmbusPostBox

open Text

structure Device where
  bus : UInt8
  address : UInt16
  deriving DecidableEq, Repr

namespace Device

def node (bus : Int) : String := "/dev/i2c-" ++ Decimal.text bus

def path (d : Device) : String := node d.bus.toNat

def text (d : Device) : String := d.path ++ " @0x" ++ String.ofList (Hex.padded 2 d.address.toNat)

end Device

inductive Refusal
  | offset (got : Int)
  | size (got : Int)
  | busIndex (got : Int)
  | address (got : Int)
  | tooManyDigits
  deriving DecidableEq, Repr

inductive OsClass
  | other
  | notFound
  | alreadyExists
  | directory
  | notDirectory
  | denied
  | noProcess
  | noChild
  | interrupted
  | wouldBlock
  | brokenPipe
  | connectionAborted
  | connectionReset
  | connectionRefused
  | timedOut
  deriving DecidableEq, Repr

inductive OsReport
  | blank
  | note (text : String)
  | code (number : Int) (text : String)
  | codeAt (number : Int) (text file : String)
  deriving DecidableEq, Repr

inductive Signal
  | value
  | key
  | runtime
  | unimplemented
  | nack
  | adapterTimeout
  | clockLow
  | dataLow
  deriving DecidableEq, Repr

inductive Datum
  | text (content : String)
  | number (content : Int)
  deriving DecidableEq, Repr

inductive Problem
  | other (message : String)
  | sizeBounds (size maximum : Int)
  | bus (message : String) (device : Device) (offset : Option Int)
  | incomplete (completed expected : Int)
  deriving DecidableEq, Repr

inductive Need
  | descriptor
  | range
  | sign
  deriving DecidableEq, Repr

inductive Fault
  | refused (why : Refusal)
  | os (family : OsClass) (report : OsReport)
  | raised (signal : Signal) (data : List Datum)
  | detached
  /-- There is nothing in the place of a number. -/
  | numberless (need : Need)
  | postBox (problem : Problem) (context : Option String)
  deriving DecidableEq, Repr

namespace OsClass

def ofCode : Int → OsClass
  | 1 | 13 => denied
  | 2 => notFound
  | 3 => noProcess
  | 4 => interrupted
  | 10 => noChild
  | 11 | 114 | 115 => wouldBlock
  | 17 => alreadyExists
  | 20 => notDirectory
  | 21 => directory
  | 32 | 108 => brokenPipe
  | 103 => connectionAborted
  | 104 => connectionReset
  | 110 => timedOut
  | 111 => connectionRefused
  | _ => other

end OsClass

namespace Fault

def osCode (number : Int) (text : String) : Fault := os (.ofCode number) (.code number text)

def osNote (text : String) : Fault := os .other (.note text)

def isOs : Fault → Bool
  | os .. => true
  | _ => false

def isPostBox : Fault → Bool
  | postBox .. => true
  | _ => false

/-- The fault `f`, whose message writes `numbers`. A number too long to be written is refused instead. -/
def writing (numbers : List Int) (f : Fault) : Fault :=
  if ∀ n ∈ numbers, Decimal.Writable n then f else refused .tooManyDigits

end Fault

/-- A fault and what caused it, the nearest cause first. -/
structure Failure where
  head : Fault
  causes : List Fault := []
  deriving DecidableEq, Repr

namespace Failure

def refusing (n : Int) (why : Refusal) : Failure := { head := .writing [n] (.refused why) }

def because (head : Fault) (cause : Failure) : Failure := ⟨head, cause.head :: cause.causes⟩

/-- Notes on a post-box problem what was being done, in place of any older note. Other faults stay. -/
def inContext (context : String) : Failure → Failure
  | ⟨.postBox problem _, causes⟩ => ⟨.postBox problem (some context), causes⟩
  | f => f

end Failure

end SmbusPostBox
