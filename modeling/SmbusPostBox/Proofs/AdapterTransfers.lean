import SmbusPostBox.Proofs.BenchRuns

/-! Transfers through an adapter are all or nothing. Both messages count only if both got through with an answer
that fills the buffer; else the buffer stays as it was, whatever the calls came to. -/

namespace SmbusPostBox.Bench.Adapter

def Sends (a : Adapter) (address : Int) (data : Bytes) (framing : Framing) (b : Bench) : Prop :=
  ∃ e, (a.write address data framing b).1 = .ok e

def Answers (a : Adapter) (address : Int) (data : Bytes) (size : Nat) (b : Bench) (payload : Bytes) : Prop :=
  let sent := a.write address data .nonstop b
  ∃ e, sent.1 = .ok e ∧ (a.read e address data size .restart sent.2).1 = .ok payload

section
variable {a : Adapter} {address : Int} {data : Bytes} {framing : Framing} {size : Nat} {b : Bench} {payload : Bytes}

theorem write_run_of_not (ha : ¬ (0 ≤ address ∧ address ≤ 0x7F)) :
    a.write address data framing b =
      (.error noSlave, { b with calls := b.calls ++ [.write address data framing a.timeout] }) := by
  simp only [write, bind_run, log_run, ha, if_false]
  rfl

theorem sends_iff :
    a.Sends address data framing b ↔ (0 ≤ address ∧ address ≤ 0x7F) ∧ b.exchange.writeFault = none := by
  unfold Sends
  by_cases ha : 0 ≤ address ∧ address ≤ 0x7F
  · simp only [write_run b a ha, answer_eq_ok_iff, exists_and_left, exists_eq', and_true, ha, true_and]
  · rw [write_run_of_not ha]
    exact iff_of_false (fun ⟨_, h⟩ => nomatch h) fun h => ha h.1

theorem answers_iff :
    a.Answers address data size b payload ↔ (0 ≤ address ∧ address ≤ 0x7F) ∧ b.exchange.writeFault = none ∧
      b.exchange.fault = none ∧ b.exchange.payload.read address data size = payload := by
  unfold Answers
  by_cases ha : 0 ≤ address ∧ address ≤ 0x7F
  · simp only [ha, and_self, true_and, write_run b a ha, answer_eq_ok_iff, read_run]
    constructor
    · rintro ⟨e, ⟨hw, rfl⟩, hr⟩
      exact ⟨hw, hr⟩
    · rintro ⟨hw, hr⟩
      exact ⟨_, ⟨hw, rfl⟩, hr⟩
  · rw [write_run_of_not ha]
    exact iff_of_false (fun ⟨_, h, _⟩ => nomatch h) fun h => ha h.1

theorem transfer_run_of_neg (timeout : Int) (ha : address < 0) (data buffer : Bytes) (b : Bench) :
    Adapter.transfer ⟨true, timeout⟩ address data buffer b = (⟨.error noSlave, buffer⟩,
      { b with
        calls := b.calls ++ [.write address data (if buffer = [] then .regular else .nonstop) timeout] }) := by
  have hwide : ¬ 0x7F < address := by omega
  have hslave : ¬ (0 ≤ address ∧ address ≤ 0x7F) := by omega
  rcases buffer with _ | ⟨x, xs⟩ <;>
    simp only [transfer, hwide, if_false, Bool.not_true, Bool.false_eq_true, List.isEmpty_nil, List.isEmpty_cons,
      if_true, bind_run, write_run_of_not hslave, reduceCtorEq] <;> rfl

end

/-- How a transfer ends that an attached adapter makes of the entry `e`. The first message to fail decides, and the
length of the answer if none does. -/
inductive Ends (e : Exchange) (address : Int) (data buffer : Bytes) : Reply → Prop
  | unsent {f : Failure} (hw : e.writeFault = some f) :
    Ends e address data buffer ⟨.error (interrupted 0 f), buffer⟩
  | sent (hw : e.writeFault = none) (hb : buffer = []) : Ends e address data buffer ⟨.ok 2, buffer⟩
  | unread {f : Failure} (hw : e.writeFault = none) (hb : buffer ≠ []) (hr : e.fault = some f) :
    Ends e address data buffer ⟨.error (interrupted 1 f), buffer⟩
  | misfit (hw : e.writeFault = none) (hb : buffer ≠ []) (hr : e.fault = none)
    (hl : (e.payload.read address data buffer.length).length ≠ buffer.length) :
    Ends e address data buffer ⟨.ok 1, buffer⟩
  | filled (hw : e.writeFault = none) (hb : buffer ≠ []) (hr : e.fault = none)
    (hl : (e.payload.read address data buffer.length).length = buffer.length) :
    Ends e address data buffer ⟨.ok 2, e.payload.read address data buffer.length⟩

theorem ends_reply (e : Exchange) (address : Int) (data buffer : Bytes) :
    Ends e address data buffer (reply e address data buffer) := by
  unfold reply
  rcases hw : e.writeFault with _ | f
  · rcases buffer with _ | ⟨x, xs⟩
    · exact .sent hw rfl
    · have hb : x :: xs ≠ [] := List.cons_ne_nil x xs
      simp only [List.isEmpty_cons, Bool.false_eq_true, if_false]
      unfold received
      rcases hr : e.fault with _ | f
      · dsimp only
        split_ifs with hl
        · exact .filled hw hb hr hl
        · exact .misfit hw hb hr hl
      · exact .unread hw hb hr
  · exact .unsent hw

namespace Ends
variable {e : Exchange} {address : Int} {data buffer : Bytes} {r : Reply}

theorem completed_eq_two_iff (h : Ends e address data buffer r) :
    r.completed = .ok 2 ↔ e.writeFault = none ∧
      (buffer = [] ∨ buffer ≠ [] ∧ e.fault = none ∧
        (e.payload.read address data buffer.length).length = buffer.length) := by
  cases h with
  | unsent hw => simp [hw]
  | sent hw hb => simp [hw, hb]
  | unread hw hb hr => simp [hb, hr]
  | misfit hw hb hr hl => simp [hb, hl]
  | filled hw hb hr hl => simp [hw, hb, hr, hl]

theorem completed_eq_one_iff (h : Ends e address data buffer r) :
    r.completed = .ok 1 ↔ e.writeFault = none ∧ buffer ≠ [] ∧ e.fault = none ∧
      (e.payload.read address data buffer.length).length ≠ buffer.length := by
  cases h with
  | unsent hw => simp [hw]
  | sent hw hb => simp [hb]
  | unread hw hb hr => simp [hr]
  | misfit hw hb hr hl => simp [hw, hb, hr, hl]
  | filled hw hb hr hl => simp [hl]

theorem completed_cases (h : Ends e address data buffer r) :
    r.completed = .ok 1 ∨ r.completed = .ok 2 ∨ ∃ f, r.completed = .error f := by
  cases h with
  | misfit => exact .inl rfl
  | sent | filled => exact .inr (.inl rfl)
  | unsent | unread => exact .inr (.inr ⟨_, rfl⟩)

theorem buffer_of_filled (h : Ends e address data buffer r) (hr : r.completed = .ok 2) (hb : buffer ≠ []) :
    r.buffer = e.payload.read address data buffer.length := by
  cases h with
  | sent _ hnil => exact absurd hnil hb
  | filled => rfl
  | unsent | unread | misfit => cases hr

theorem buffer_of_unfilled (h : Ends e address data buffer r) (hr : r.completed ≠ .ok 2 ∨ buffer = []) :
    r.buffer = buffer := by
  cases h with
  | filled _ hb => exact absurd rfl (hr.resolve_right hb)
  | unsent | sent | unread | misfit => rfl

end Ends

theorem transfer_run_of_not (timeout : Int) {address : Int} (ha : ¬ (0 ≤ address ∧ address ≤ 0x7F))
    (data buffer : Bytes) (b : Bench) :
    ∃ f, (Adapter.transfer ⟨true, timeout⟩ address data buffer b).1 = ⟨.error f, buffer⟩ := by
  by_cases hwide : 0x7F < address
  · exact ⟨_, congrArg Prod.fst (transfer_run_of_lt b ⟨true, timeout⟩ hwide data buffer)⟩
  · exact ⟨_, congrArg Prod.fst (transfer_run_of_neg timeout (by omega) data buffer b)⟩

theorem transfer_all_or_nothing (timeout address : Int) (data buffer : Bytes) (b : Bench) :
    let a : Adapter := ⟨true, timeout⟩
    let reply := (a.transfer address data buffer b).1
    (reply.completed = .ok 2 ↔ (0 ≤ address ∧ address ≤ 127) ∧
      (buffer = [] ∧ a.Sends address data .regular b ∨
        buffer ≠ [] ∧ ∃ payload, a.Answers address data buffer.length b payload ∧
          payload.length = buffer.length)) ∧
    (reply.completed = .ok 1 ↔ (0 ≤ address ∧ address ≤ 127) ∧ buffer ≠ [] ∧
      ∃ payload, a.Answers address data buffer.length b payload ∧ payload.length ≠ buffer.length) ∧
    (reply.completed = .ok 1 ∨ reply.completed = .ok 2 ∨ ∃ f, reply.completed = .error f) ∧
    reply.buffer.length = buffer.length ∧
    (reply.completed = .ok 2 → buffer ≠ [] → a.Answers address data buffer.length b reply.buffer) ∧
    (reply.completed ≠ .ok 2 ∨ buffer = [] → reply.buffer = buffer) ∧
    (127 < address → a.transfer address data buffer b = (⟨.error (sevenBitsOnly address), buffer⟩, b)) := by
  intro a reply
  have hwide : 127 < address → a.transfer address data buffer b = (⟨.error (sevenBitsOnly address), buffer⟩, b) :=
    fun h => transfer_run_of_lt b a h data buffer
  by_cases ha : 0 ≤ address ∧ address ≤ 127
  · have hreply : reply = Adapter.reply b.exchange address data buffer :=
      congrArg Prod.fst (transfer_run b timeout ha data buffer)
    have hends : Ends b.exchange address data buffer reply := hreply ▸ ends_reply b.exchange address data buffer
    simp only [sends_iff, answers_iff]
    refine ⟨?_, ?_, hends.completed_cases, ?_, ?_, hends.buffer_of_unfilled, hwide⟩
    · rw [hends.completed_eq_two_iff]
      constructor
      · rintro ⟨hw, hb | ⟨hb, hr, hl⟩⟩
        · exact ⟨ha, .inl ⟨hb, ha, hw⟩⟩
        · exact ⟨ha, .inr ⟨hb, _, ⟨ha, hw, hr, rfl⟩, hl⟩⟩
      · rintro ⟨-, ⟨hb, -, hw⟩ | ⟨hb, _, ⟨-, hw, hr, rfl⟩, hl⟩⟩
        · exact ⟨hw, .inl hb⟩
        · exact ⟨hw, .inr ⟨hb, hr, hl⟩⟩
    · rw [hends.completed_eq_one_iff]
      constructor
      · rintro ⟨hw, hb, hr, hl⟩
        exact ⟨ha, hb, _, ⟨ha, hw, hr, rfl⟩, hl⟩
      · rintro ⟨-, hb, _, ⟨-, hw, hr, rfl⟩, hl⟩
        exact ⟨hw, hb, hr, hl⟩
    · rw [hreply, length_reply]
    · intro h2 hb
      obtain ⟨hw, hnil | ⟨-, hr, -⟩⟩ := hends.completed_eq_two_iff.mp h2
      · exact absurd hnil hb
      · exact ⟨ha, hw, hr, (hends.buffer_of_filled h2 hb).symm⟩
  · obtain ⟨f, hf⟩ : ∃ f, reply = ⟨.error f, buffer⟩ := transfer_run_of_not timeout ha data buffer b
    rw [hf]
    refine ⟨iff_of_false nofun fun h => ha h.1, iff_of_false nofun fun h => ha h.1, .inr (.inr ⟨f, rfl⟩), rfl, nofun,
      fun _ => rfl, hwide⟩

example : (Adapter.transfer ⟨true, 20⟩ 0x50 [0x10] [1, 2] { transfers := [{ payload := .bytes [7, 8, 9] }] }).1 =
    ⟨.ok 1, [1, 2]⟩ := rfl

end SmbusPostBox.Bench.Adapter
