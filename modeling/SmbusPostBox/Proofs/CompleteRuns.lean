import SmbusPostBox.Proofs.HexArrayReading
import SmbusPostBox.Proofs.RunReports

/-! Runs whose one transfer goes through a device node and is complete. They print the bytes that were asked for, after
one combined transfer to the device that was named; only without a number for one of the options is nothing done. -/

namespace SmbusPostBox
open Text

namespace Message

structure Asks (write read : Message) (data : Bytes) (address offset : Int) (size : Nat) : Prop where
  value : (Bytes.value data : Int) = offset
  address_write : (write.address.toNat : Int) = address
  address_read : (read.address.toNat : Int) = address
  length_write : write.length.toNat = data.length
  length_read : read.length.toNat = size
  flags_write : write.flags = if 0x7F < address then 0x10 else 0
  flags_read : read.flags = if 0x7F < address then 0x11 else 0x1

end Message

namespace Query
variable {q : Query}

def data (q : Query) : Bytes := Offset.bytes q.request.offset

theorem Admitted.address_bounds (h : q.Admitted) : 0 ≤ q.address ∧ q.address ≤ 0xFFFF := h.1.2.2.2

theorem Admitted.size_toNat_le (h : q.Admitted) : q.size.toNat ≤ 8 := by
  have := h.2
  omega

theorem length_data_le (q : Query) : q.data.length ≤ 2 := Offset.length_bytes_le _

theorem InRange.value_data (h : q.InRange) : (Bytes.value q.data : Int) = q.offset := by
  rw [data, Offset.value_bytes, h.offset_toNat]

theorem Admitted.asks (h : q.Admitted) :
    Message.Asks (.head q.address 0 q.data.length) (.head q.address Message.readFlag q.size.toNat) q.data q.address
      q.offset q.size.toNat where
  value := h.1.value_data
  address_write := Message.toNat_address_head h.address_bounds _ _
  address_read := Message.toNat_address_head h.address_bounds _ _
  length_write := Message.toNat_length_head (Nat.le_trans q.length_data_le (by decide)) _ _
  length_read := Message.toNat_length_head (Nat.le_trans h.size_toNat_le (by decide)) _ _
  flags_write := Message.flags_head _ _ _
  flags_read := Message.flags_head _ _ _

end Query

namespace Bench
variable {q : Query} {b : Bench}

structure Complete (b : Bench) : Prop where
  opening : b.openFault = none
  transfer : b.exchange.fault = none
  completed : b.exchange.completed = 2
  closing : b.closeFault = none

theorem combinedCall_eq (fd : Nat) (hq : q.Admitted) :
    combinedCall (some fd) q.address q.data q.size.toNat =
      .combined (some fd) (.head q.address 0 q.data.length) (.head q.address Message.readFlag q.size.toNat) q.data := by
  have hlength := hq.asks.length_write
  simp only [combinedCall, hlength, List.take_length]

/-- The bytes that the device answers, cut off or filled up with zeros to just as many as were asked for. -/
def answered (q : Query) (b : Bench) : Bytes :=
  Bytes.fit q.size.toNat (b.exchange.payload.read q.address q.data q.size.toNat)

theorem linux_course_of_complete (hq : q.Admitted) (h : b.Complete) :
    linux.course q b =
      (.closed ⟨.ok 2, answered q b⟩ (.ok ()),
      { b with
        opens := b.opens.tail
        transfers := b.transfers.tail
        closes := b.closes.tail
        descriptors := b.descriptors + 1
        calls := b.calls ++ [.openNode (Device.node q.bus),
          .combined (some (101 + b.descriptors)) (.head q.address 0 q.data.length)
            (.head q.address Message.readFlag q.size.toNat) q.data,
          .closeNode (some (101 + b.descriptors))] }) := by
  have hdata : q.data.length ≤ 0xFFFF := Nat.le_trans q.length_data_le (by decide)
  have hsize : q.size.toNat ≤ 0xFFFF := Nat.le_trans hq.size_toNat_le (by decide)
  have hreply : nodeReply b.exchange q.address q.data (List.replicate q.size.toNat 0) = ⟨.ok 2, answered q b⟩ := by
    rw [nodeReply_of_passed h.transfer hq.address_bounds hdata hsize, h.completed, answered]
  have hclosing : answer b.closeFault () = .ok () := congrArg (answer · ()) h.closing
  have hcall := combinedCall_eq (101 + b.descriptors) hq
  have hcourse := linux_course_of_opened (q := q) h.opening
  rw [← Query.data, hreply, hclosing, hcall] at hcourse
  exact hcourse

theorem linux_read_of_complete (verbose : Bool) (hq : q.Admitted) (h : b.Complete) :
    (Reader.read ⟨linux, verbose⟩ q b).1.result = .ok (answered q b) ∧
      (Reader.read ⟨linux, verbose⟩ q b).2 = (linux.course q b).2 := by
  have hcourse : (linux.course q b).1 = .closed ⟨.ok 2, answered q b⟩ (.ok ()) :=
    congrArg Prod.fst (linux_course_of_complete hq h)
  have hclosed := Controller.course_eq_closed_iff.mp hcourse
  refine ⟨(Reader.result_eq_ok_iff _).mpr ⟨hq, hclosed⟩, ?_⟩
  rw [Reader.read_of_admitted _ hq]

end Bench

namespace CommandLine

theorem run_of_complete {controllers : Backend → Controller Bench} {argv : List String} {o : Options} {q : Query}
    {b : Bench} (hparse : Options.parse argv = .ok o) (hlinux : controllers (o.backend.getD .linux) = Bench.linux)
    (hquery : o.query? = some q) (h8 : q.size ≤ 8) (hb : b.Complete) :
    ∃ notes, run controllers argv b =
      (⟨.ok 0, HexArray.text (Bench.answered q b) ++ "\n", lines notes⟩, (Bench.linux.course q b).2) := by
  have hadmitted : q.Admitted := ⟨(Options.bounded_of_parse hparse).inRange hquery, h8⟩
  obtain ⟨hresult, hstate⟩ := Bench.linux_read_of_complete o.verbose hadmitted hb
  have hreport := Report.ofReading_of_ok hresult
  have hrun := run_eq controllers hparse hquery b
  rw [hlinux, hstate, hreport] at hrun
  exact ⟨_, hrun⟩

theorem run_complete (controllers : Backend → Controller Bench) {argv : List String} {o : Options} {n : Int}
    {b : Bench} (hparse : Options.parse argv = .ok o) (hlinux : controllers (o.backend.getD .linux) = Bench.linux)
    (hsize : o.number .size = some n) (h8 : n ≤ 8) (hb : b.Complete) :
    let out := run controllers argv b
    (out.1.status = .ok 0 ↔ ∀ f, o.number f ≠ none) ∧
    (∀ bus address offset, o.number .bus = some bus → o.number .address = some address →
      o.number .offset = some offset → ∃ array write read data d,
        let payload := b.exchange.payload.read address data n.toNat
        out.1.stdout = array ++ "\n" ∧
        HexArray.read? array = some (payload.take n.toNat ++ List.replicate (n.toNat - payload.length) 0) ∧
        out.2.calls = b.calls ++ [.openNode ("/dev/i2c-" ++ Decimal.text bus), .combined (some d) write read data,
          .closeNode (some d)] ∧
        Message.Asks write read data address offset n.toNat) ∧
    ((∃ f, o.number f = none) → out = (⟨.error { head := .numberless o.need }, "", ""⟩, b)) := by
  intro out
  have hmissing (hq : o.query? = none) : out = (⟨.error { head := .numberless o.need }, "", ""⟩, b) :=
    run_of_numberless hparse hq controllers b
  have hgiven {q : Query} (hq : o.query? = some q) : q.size = n :=
    Option.some.inj ((Options.number_of_query? hq).2.2.2.symm.trans hsize)
  refine ⟨?_, ?_, ?_⟩
  · rw [← Options.exists_query?_iff]
    rcases hq : o.query? with _ | q
    · rw [hmissing hq]
      exact iff_of_false nofun nofun
    · obtain ⟨notes, hrun⟩ := run_of_complete hparse hlinux hq (hgiven hq ▸ h8) hb
      have hstatus : out.1.status = .ok 0 := congrArg (·.1.status) hrun
      exact iff_of_true hstatus ⟨q, rfl⟩
  · intro bus address offset hbus haddress hoffset
    have hq := Options.query?_of_number hbus haddress hoffset hsize
    have hadmitted : (⟨bus, address, offset, n⟩ : Query).Admitted :=
      ⟨(Options.bounded_of_parse hparse).inRange hq, h8⟩
    obtain ⟨notes, hrun⟩ := run_of_complete hparse hlinux hq h8 hb
    rw [Bench.linux_course_of_complete hadmitted hb] at hrun
    have hout : out = _ := hrun
    rw [hout]
    exact ⟨_, _, _, _, _, rfl, HexArray.read?_text _, rfl, hadmitted.asks⟩
  · intro hnone
    exact hmissing (Options.query?_eq_none_iff.mpr hnone)

theorem run_complete_short :
    let argv := ["read", "--siz", "0b11", "--bus=7", "-v", "--address=0x3FF", "--offset", "4_660", "--backend=linux"]
    let argv' := ["read", "--bus=--", "--address", "0x50", "--offset", "0x10", "--size", "4"]
    let b : Bench := { transfers := [{ payload := .bytes [1, 2] }] }
    (run (fun _ => Bench.linux) argv b).1.status = .ok 0 ∧
    (∃ array, (run (fun _ => Bench.linux) argv b).1.stdout = array ++ "\n" ∧
      HexArray.read? array = some [1, 2, 0]) ∧
    (∃ write read data d, Message.Asks write read data 0x3FF 4660 3 ∧
      (run (fun _ => Bench.linux) argv b).2.calls =
        [.openNode "/dev/i2c-7", .combined (some d) write read data, .closeNode (some d)]) ∧
    run (fun _ => Bench.linux) argv' b = (⟨.error { head := .numberless .range }, "", ""⟩, b) := by
  intro argv argv' b
  have hb : b.Complete := ⟨rfl, rfl, rfl, rfl⟩
  obtain ⟨o, hparse, hquery⟩ : ∃ o, Options.parse argv = .ok o ∧ o.query? = some ⟨7, 0x3FF, 4660, 3⟩ :=
    exists_of_map_toOption (by decide +kernel)
  obtain ⟨o', hparse', hgiven⟩ : ∃ o, Options.parse argv' = .ok o ∧
      (o.number .bus, o.number .size, o.need) = (none, some 4, .range) := exists_of_map_toOption (by decide +kernel)
  obtain ⟨hbus, hmore⟩ := Prod.mk.inj hgiven
  obtain ⟨hsize, hneed⟩ := Prod.mk.inj hmore
  obtain ⟨hbus₇, haddress, hoffset, hsize₃⟩ := Options.number_of_query? hquery
  obtain ⟨hstatus, hcalls, -⟩ := run_complete (fun _ => Bench.linux) hparse rfl hsize₃ (by decide) hb
  obtain ⟨-, -, hnothing⟩ := run_complete (fun _ => Bench.linux) hparse' rfl hsize (by decide) hb
  rw [hneed] at hnothing
  obtain ⟨array, write, read, data, d, hstdout, harray, hlog, hasks⟩ := hcalls _ _ _ hbus₇ haddress hoffset
  have hnode : "/dev/i2c-" ++ Decimal.text 7 = "/dev/i2c-7" := by decide +kernel
  rw [hnode] at hlog
  refine ⟨hstatus.mpr ?_, ⟨array, hstdout, harray⟩, ⟨write, read, data, d, hasks, hlog⟩, hnothing ⟨_, hbus⟩⟩
  exact Options.exists_query?_iff.mp ⟨_, hquery⟩

end CommandLine

end SmbusPostBox
