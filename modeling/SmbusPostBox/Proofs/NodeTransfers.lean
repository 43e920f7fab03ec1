import SmbusPostBox.Proofs.BenchRuns

/-! Transfers through a device node. Each is one call of the kernel with two messages for one and the same address,
and the answer takes the place of all that the buffer held. -/

namespace SmbusPostBox

namespace Message

def TenBit (m : Message) : Prop := m.flags &&& tenBitFlag ≠ 0

def Reading (m : Message) : Prop := m.flags &&& readFlag ≠ 0

/-- The messages of a combined transfer, which sends `data` and reads `size` bytes. -/
structure Combines (write read : Message) (address : Int) (data : Bytes) (size : Nat) : Prop where
  length_write : write.length.toNat = data.length
  length_read : read.length.toNat = size
  address_write : (write.address.toNat : Int) = address % 0x10000
  address_read : read.address = write.address
  flags_write : write.flags = if 0x7F < address then 0x10 else 0
  flags_read : read.flags = if 0x7F < address then 0x11 else 0x1
  not_reading_write : ¬ write.Reading
  reading_read : read.Reading
  tenBit_write : write.TenBit ↔ 0x7F < address
  tenBit_read : read.TenBit ↔ 0x7F < address
  tenBit_device : ∀ d : Device, address = d.address.toNat →
    (write.TenBit ↔ 0x7F < write.address.toNat) ∧ (read.TenBit ↔ 0x7F < read.address.toNat)

theorem tenBit_head_iff (address : Int) {flags : UInt16} (hf : flags = 0 ∨ flags = readFlag) (n : Nat) :
    (head address flags n).TenBit ↔ 0x7F < address := by
  unfold TenBit
  rw [flags_head]
  split_ifs with h
  · refine iff_of_true ?_ h
    rcases hf with rfl | rfl <;> decide
  · refine iff_of_false ?_ h
    rcases hf with rfl | rfl <;> decide

theorem reading_head_iff (address : Int) {flags : UInt16} (hf : flags = 0 ∨ flags = readFlag) (n : Nat) :
    (head address flags n).Reading ↔ flags = readFlag := by
  unfold Reading
  rw [flags_head]
  split_ifs <;> rcases hf with rfl | rfl <;> decide

theorem combines_head (address : Int) {data : Bytes} {size : Nat} (hd : data.length ≤ 0xFFFF) (hs : size ≤ 0xFFFF) :
    Combines (head address 0 data.length) (head address readFlag size) address data size where
  length_write := toNat_length_head hd _ _
  length_read := toNat_length_head hs _ _
  address_write := emod_address_head address _ _
  address_read := rfl
  flags_write := flags_head address _ _
  flags_read := flags_head address _ _
  not_reading_write h := nomatch (reading_head_iff address (.inl rfl) _).mp h
  reading_read := (reading_head_iff address (.inr rfl) _).mpr rfl
  tenBit_write := tenBit_head_iff address (.inl rfl) _
  tenBit_read := tenBit_head_iff address (.inr rfl) _
  tenBit_device d h := by
    have hd := d.address.toNat_lt
    have hwire := emod_address_head address 0 data.length
    have hwire' := emod_address_head address readFlag size
    rw [tenBit_head_iff address (.inl rfl), tenBit_head_iff address (.inr rfl)]
    omega

end Message

namespace Bench

theorem linux_transfer_combined (fd : Nat) (address : Int) {write buffer : Bytes} (hw : write.length ≤ 65535)
    (hb : buffer.length ≤ 65535) (b : Bench) :
    let out := linux.transfer ⟨some fd⟩ address write buffer b
    (∃ w r, out.2.calls = b.calls ++ [.combined (some fd) w r write] ∧
      Message.Combines w r address write buffer.length) ∧
    (∀ f, b.exchange.fault = some f → out.1 = ⟨.error f, buffer⟩) ∧
    (b.exchange.fault = none →
      let payload := b.exchange.payload.read (address % 65536) write buffer.length
      out.1.completed = .ok b.exchange.completed ∧
      out.1.buffer = payload.take buffer.length ++ List.replicate (buffer.length - payload.length) 0 ∧
      out.1.buffer.length = buffer.length ∧
      ∀ earlier : Bytes, earlier.length = buffer.length → linux.transfer ⟨some fd⟩ address write earlier b = out) := by
  intro out
  have hout : out = _ := linux_transfer_run b fd address write buffer
  have hcall : combinedCall (some fd) address write buffer.length =
      .combined (some fd) (.head address 0 write.length) (.head address Message.readFlag buffer.length) write := by
    simp only [combinedCall, Message.toNat_length_head hw, List.take_length]
  refine ⟨⟨_, _, ?_, Message.combines_head address hw hb⟩, fun f hf => ?_, fun hf => ?_⟩
  · rw [hout, hcall]
  · rw [hout]
    simp only [nodeReply, hf]
  · have hreply := nodeReply_of_answered hf address hw hb
    refine ⟨?_, ?_, ?_, fun earlier hlength => ?_⟩
    · rw [hout, hreply]
    · rw [hout, hreply]
      rfl
    · rw [hout, hreply, Bytes.length_fit]
    · have hsize : earlier.length ≤ 65535 := hlength ▸ hb
      rw [hout, hreply, linux_transfer_run, nodeReply_of_answered hf address hw hsize, hlength]

theorem linux_transfer_combined_short :
    let b : Bench := { transfers := [{ payload := .bytes [1, 2], completed := 1 }] }
    let out := linux.transfer ⟨some 101⟩ 0x10050 [0x12, 0x34] [9, 9, 9, 9] b
    out.1.completed = .ok 1 ∧ out.1.buffer = [1, 2, 0, 0] ∧
      ∃ w r, out.2.calls = [.combined (some 101) w r [0x12, 0x34]] ∧ w.address = 0x50 ∧ r.address = 0x50 ∧
        w.TenBit ∧ r.TenBit := by
  intro b out
  obtain ⟨⟨w, r, hcalls, hmessages⟩, -, hanswered⟩ := linux_transfer_combined 101 0x10050
    (by decide : ([0x12, 0x34] : Bytes).length ≤ 65535) (by decide : ([9, 9, 9, 9] : Bytes).length ≤ 65535) b
  obtain ⟨hcompleted, hbuffer, -⟩ := hanswered rfl
  have haddress : w.address = 0x50 := by
    apply UInt16.toNat_inj.mp
    have := hmessages.address_write
    simp at this ⊢
    omega
  exact ⟨hcompleted, hbuffer, w, r, hcalls, haddress, hmessages.address_read.trans haddress,
    hmessages.tenBit_write.mpr (by decide), hmessages.tenBit_read.mpr (by decide)⟩

end Bench

end SmbusPostBox
