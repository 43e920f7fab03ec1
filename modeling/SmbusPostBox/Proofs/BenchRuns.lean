import Mathlib.Tactic.SplitIfs
import SmbusPostBox.Bench.Direct
import SmbusPostBox.Bench.Linux
import SmbusPostBox.Bench.Mcp2221
import SmbusPostBox.Proofs.ReadCourse

/-! What each step of the three controllers leaves on a bench: the entries of the script that it takes, the calls
that it logs and its answer. -/

namespace SmbusPostBox

theorem Offset.length_bytes_le (o : UInt16) : (bytes o).length ≤ 2 := by
  unfold bytes
  split_ifs <;> simp

namespace Message
variable {address : Int} {n : Nat}

theorem flags_head (address : Int) (flags : UInt16) (n : Nat) :
    (head address flags n).flags = if 0x7F < address then flags ||| 0x10 else flags := rfl

theorem emod_address_head (address : Int) (flags : UInt16) (n : Nat) :
    ((head address flags n).address.toNat : Int) = address % 0x10000 := by
  simp only [head, UInt16.toNat_ofNat']
  omega

theorem toNat_address_head (h : 0 ≤ address ∧ address ≤ 0xFFFF) (flags : UInt16) (n : Nat) :
    ((head address flags n).address.toNat : Int) = address := by
  rw [emod_address_head]
  omega

theorem toNat_length_head (h : n ≤ 0xFFFF) (address : Int) (flags : UInt16) :
    (head address flags n).length.toNat = n := by
  simp only [head, UInt16.toNat_ofNat']
  omega

end Message

end SmbusPostBox

namespace SmbusPostBox.Bench

def answer {α : Type} (fault : Option Failure) (a : α) : Except Failure α :=
  match fault with
  | some f => .error f
  | none => .ok a

@[simp] theorem answer_none {α : Type} (a : α) : answer none a = .ok a := rfl

@[simp] theorem answer_some {α : Type} (f : Failure) (a : α) : answer (some f) a = .error f := rfl

theorem answer_eq_error_iff {α : Type} {fault : Option Failure} {a : α} {f : Failure} :
    answer fault a = .error f ↔ fault = some f := by
  cases fault <;> simp

theorem answer_eq_ok_iff {α : Type} {fault : Option Failure} {a a' : α} :
    answer fault a = .ok a' ↔ fault = none ∧ a = a' := by
  cases fault <;> simp

theorem mem_of_head?_join {α : Type} {l : List (Option α)} {a : α} (h : l.head?.join = some a) : some a ∈ l :=
  List.mem_of_head? (Option.join_eq_some_iff.mp h)

variable (b : Bench)

def openFault : Option Failure := b.opens.head?.join

def speedFault : Option Failure := b.speeds.head?.join

/-- What the attachment of the next adapter fails with, in the adapter's own words. -/
def attachFault : Option Failure := b.openFault.or b.speedFault

def closeFault : Option Failure := b.closes.head?.join

def exchange : Exchange := b.transfers.head?.getD {}

@[simp] theorem log_run (c : Call) : log c b = ((), { b with calls := b.calls ++ [c] }) := rfl

@[simp] theorem get_run : (get : StateM Bench Bench) b = (b, b) := rfl

@[simp] theorem nextOpen_run : nextOpen b = (b.opens.head?.join, { b with opens := b.opens.tail }) := rfl

@[simp] theorem nextSpeed_run : nextSpeed b = (b.speeds.head?.join, { b with speeds := b.speeds.tail }) := rfl

@[simp] theorem nextTransfer_run :
    nextTransfer b = (b.transfers.head?.getD {}, { b with transfers := b.transfers.tail }) := rfl

@[simp] theorem nextClose_run : nextClose b = (b.closes.head?.join, { b with closes := b.closes.tail }) := rfl

/-! ### Transfers as one call -/

theorem direct_connect_run (o : Opening) :
    direct.connect o b = (answer b.openFault (),
      { b with opens := b.opens.tail, calls := b.calls ++ [.connect o.bus] }) := by
  simp only [direct, bind_run, log_run, nextOpen_run, openFault]
  rcases b.opens.head?.join with _ | f <;> rfl

def directReply (e : Exchange) (address : Int) (write buffer : Bytes) : Reply where
  completed := answer e.fault e.completed
  buffer :=
    match e.payload with
    | .absent => buffer
    | p => Bytes.overlay (p.read address write buffer.length) buffer

theorem direct_transfer_run (h : Unit) (address : Int) (write buffer : Bytes) :
    direct.transfer h address write buffer b = (directReply b.exchange address write buffer,
      { b with
        transfers := b.transfers.tail
        calls := b.calls ++ [.transfer address write buffer.length] }) := by
  simp only [direct, bind_run, log_run, nextTransfer_run, exchange, directReply]
  generalize b.transfers.head?.getD {} = e
  rcases e.fault with _ | f <;> rfl

theorem direct_release_run (h : Unit) :
    direct.release h b = ((answer b.closeFault (), ()),
      { b with closes := b.closes.tail, calls := b.calls ++ [.release] }) := by
  simp only [direct, bind_run, log_run, nextClose_run, closeFault]
  rcases b.closes.head?.join with _ | f <;> rfl

/-! ### Device nodes -/

theorem linux_connect_run (o : Opening) :
    linux.connect o b =
      match b.openFault with
      | some f => (.error f,
          { b with opens := b.opens.tail, calls := b.calls ++ [.openNode (Device.node o.bus)] })
      | none => (.ok ⟨some (101 + b.descriptors)⟩,
          { b with
            opens := b.opens.tail
            descriptors := b.descriptors + 1
            calls := b.calls ++ [.openNode (Device.node o.bus)] }) := by
  simp only [linux, bind_run, log_run, nextOpen_run, openFault]
  rcases b.opens.head?.join with _ | f <;> rfl

def combinedCall (fd : Option Nat) (address : Int) (write : Bytes) (size : Nat) : Call :=
  let w := Message.head address 0 write.length
  .combined fd w (Message.head address Message.readFlag size) (write.take w.length.toNat)

def nodeReply (e : Exchange) (address : Int) (write buffer : Bytes) : Reply :=
  match e.fault with
  | some f => ⟨.error f, buffer⟩
  | none =>
    let r := Message.head address Message.readFlag buffer.length
    let data := write.take (Message.head address 0 write.length).length.toNat
    ⟨.ok e.completed, Bytes.fit r.length.toNat (e.payload.read r.address.toNat data r.length.toNat)⟩

theorem nodeReply_of_answered {e : Exchange} {data buffer : Bytes} (h : e.fault = none) (address : Int)
    (hd : data.length ≤ 0xFFFF) (hs : buffer.length ≤ 0xFFFF) :
    nodeReply e address data buffer =
      ⟨.ok e.completed, Bytes.fit buffer.length (e.payload.read (address % 0x10000) data buffer.length)⟩ := by
  simp only [nodeReply, h, Message.emod_address_head, Message.toNat_length_head hd, Message.toNat_length_head hs,
    List.take_length]

theorem nodeReply_of_passed {e : Exchange} {address : Int} {data : Bytes} {size : Nat} (h : e.fault = none)
    (ha : 0 ≤ address ∧ address ≤ 0xFFFF) (hd : data.length ≤ 0xFFFF) (hs : size ≤ 0xFFFF) :
    nodeReply e address data (List.replicate size 0) =
      ⟨.ok e.completed, Bytes.fit size (e.payload.read address data size)⟩ := by
  have hcut : address % 0x10000 = address := by omega
  have hlength : (List.replicate size (0 : UInt8)).length ≤ 0xFFFF := by simpa using hs
  rw [nodeReply_of_answered h address hd hlength, List.length_replicate, hcut]

theorem linux_transfer_run (fd : Nat) (address : Int) (write buffer : Bytes) :
    linux.transfer ⟨some fd⟩ address write buffer b = (nodeReply b.exchange address write buffer,
      { b with
        transfers := b.transfers.tail
        calls := b.calls ++ [combinedCall (some fd) address write buffer.length] }) := by
  simp only [linux, bind_run, get_run, log_run, nextTransfer_run, exchange, nodeReply, combinedCall,
    Option.isNone_some, Bool.false_eq_true, false_and, if_false]
  generalize b.transfers.head?.getD {} = e
  rcases e.fault with _ | f <;> rfl

theorem linux_release_run (n : Node) :
    linux.release n b = ((answer b.closeFault (), ⟨none⟩),
      { b with closes := b.closes.tail, calls := b.calls ++ [.closeNode n.descriptor] }) := by
  simp only [linux, bind_run, log_run, nextClose_run, closeFault]
  rcases b.closes.head?.join with _ | f <;> rfl

/-! ### Adapters -/

namespace Adapter

section
variable {f : Failure}

theorem unavailable_of_isOs (hf : f.head.isOs = true) (index : Int) : unavailable index f = f := by
  unfold unavailable
  split
  · next h =>
    rw [h] at hf
    cases hf
  · rfl

theorem interrupted_of_not (hf : ∀ signal data, f.head = .raised signal data → ¬ Telling signal) (count : Nat) :
    interrupted count f = f := by
  unfold interrupted
  split
  · next signal data heq => rw [if_neg (hf signal data heq)]
  · rfl

theorem interrupted_of_isOs (hf : f.head.isOs = true) (count : Nat) : interrupted count f = f := by
  refine interrupted_of_not (fun signal data h => ?_) count
  rw [h] at hf
  cases hf

end

theorem attach_run (o : Opening) :
    attach o b =
      match b.openFault with
      | some f => (.error (unavailable o.bus f),
          { b with opens := b.opens.tail, calls := b.calls ++ [.attach o.bus] })
      | none => (answer (b.speedFault.map (unavailable o.bus)) ⟨true, o.timeout⟩,
          { b with
            opens := b.opens.tail
            speeds := b.speeds.tail
            calls := b.calls ++ [.attach o.bus, .setSpeed o.speed] }) := by
  simp only [attach, bind_run, log_run, nextOpen_run, openFault]
  rcases b.opens.head?.join with _ | f
  · simp only [bind_run, log_run, nextSpeed_run, speedFault, List.append_assoc, List.singleton_append]
    rcases b.speeds.head?.join with _ | f <;> rfl
  · rfl

theorem attach_answer (o : Opening) :
    (attach o b).1 = answer (b.attachFault.map (unavailable o.bus)) ⟨true, o.timeout⟩ := by
  unfold attachFault
  rw [attach_run]
  rcases b.openFault with _ | f <;> rfl

theorem write_run (a : Adapter) {address : Int} (ha : 0 ≤ address ∧ address ≤ 0x7F) (data : Bytes)
    (framing : Framing) :
    a.write address data framing b = (answer b.exchange.writeFault b.exchange,
      { b with
        transfers := b.transfers.tail
        calls := b.calls ++ [.write address data framing a.timeout] }) := by
  simp only [write, bind_run, log_run, ha, and_self, if_true, nextTransfer_run, exchange]
  generalize b.transfers.head?.getD {} = e
  rcases e.writeFault with _ | f <;> rfl

theorem read_run (a : Adapter) (e : Exchange) (address : Int) (data : Bytes) (size : Nat)
    (framing : Framing) :
    a.read e address data size framing b = (answer e.fault (e.payload.read address data size),
      { b with calls := b.calls ++ [.read address size framing a.timeout] }) := by
  simp only [read, bind_run, log_run]
  rcases e.fault with _ | f <;> rfl

/-- What is left of the message that reads. Only a payload of just the size asked for completes it. -/
def received (e : Exchange) (address : Int) (data buffer : Bytes) : Reply :=
  match e.fault with
  | some f => ⟨.error (interrupted 1 f), buffer⟩
  | none =>
    let payload := e.payload.read address data buffer.length
    if payload.length = buffer.length then ⟨.ok 2, payload⟩ else ⟨.ok 1, buffer⟩

def reply (e : Exchange) (address : Int) (data buffer : Bytes) : Reply :=
  match e.writeFault with
  | some f => ⟨.error (interrupted 0 f), buffer⟩
  | none => if buffer.isEmpty then ⟨.ok 2, buffer⟩ else received e address data buffer

theorem reply_of_unsent {e : Exchange} {f : Failure} (hw : e.writeFault = some f) (address : Int)
    (data buffer : Bytes) : reply e address data buffer = ⟨.error (interrupted 0 f), buffer⟩ := by
  simp only [reply, hw]

theorem reply_of_unread {e : Exchange} {f : Failure} {buffer : Bytes} (hw : e.writeFault = none)
    (hb : buffer ≠ []) (hr : e.fault = some f) (address : Int) (data : Bytes) :
    reply e address data buffer = ⟨.error (interrupted 1 f), buffer⟩ := by
  simp only [reply, hw, List.isEmpty_iff, hb, if_false, received, hr]

theorem length_reply (e : Exchange) (address : Int) (data buffer : Bytes) :
    (reply e address data buffer).buffer.length = buffer.length := by
  unfold reply received
  rcases e.writeFault with _ | f
  · rcases e.fault with _ | f <;> dsimp only <;> split_ifs <;> first | rfl | assumption
  · rfl

def transferCalls (e : Exchange) (address : Int) (data : Bytes) (size : Nat) (timeout : Int) : List Call :=
  if size = 0 then [.write address data .regular timeout]
  else
    match e.writeFault with
    | some _ => [.write address data .nonstop timeout]
    | none => [.write address data .nonstop timeout, .read address size .restart timeout]

theorem transfer_run_of_lt (a : Adapter) {address : Int} (ha : 0x7F < address) (data buffer : Bytes) :
    a.transfer address data buffer b = (⟨.error (sevenBitsOnly address), buffer⟩, b) := by
  simp only [transfer, ha, if_true]
  rfl

theorem transfer_run (timeout : Int) {address : Int} (ha : 0 ≤ address ∧ address ≤ 0x7F)
    (data buffer : Bytes) :
    Adapter.transfer ⟨true, timeout⟩ address data buffer b = (reply b.exchange address data buffer,
      { b with
        transfers := b.transfers.tail
        calls := b.calls ++ transferCalls b.exchange address data buffer.length timeout }) := by
  simp only [transfer, Int.not_lt.mpr ha.2, if_false, Bool.not_true, Bool.false_eq_true, reply, transferCalls]
  -- With nothing to read the write stands alone; else the read answers from the entry that the write took.
  rcases buffer with _ | ⟨x, xs⟩
  · simp only [List.isEmpty_nil, List.length_nil, if_true, bind_run, write_run b _ ha]
    rcases b.exchange.writeFault with _ | f <;> rfl
  · simp only [List.isEmpty_cons, Bool.false_eq_true, if_false, List.length_cons, Nat.add_one_ne_zero, bind_run,
      write_run b _ ha]
    rcases b.exchange.writeFault with _ | f
    · simp only [answer_none, bind_run, read_run, received, List.append_assoc, List.singleton_append,
        List.length_cons]
      rcases b.exchange.fault with _ | f
      · simp only [answer_none]
        split_ifs <;> rfl
      · rfl
    · rfl

end Adapter

end SmbusPostBox.Bench
