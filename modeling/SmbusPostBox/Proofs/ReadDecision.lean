import SmbusPostBox.Proofs.BenchCourses

/-! What decides a read. Its conditions are looked at in one order, the first that fails settles what is raised,
and there are bytes to return only if none fails. -/

namespace SmbusPostBox
open Text

/-- What a read must come to if its release succeeds. -/
inductive Settled {σ : Type} (c : Controller σ) (q : Query) (s : σ) : Except Failure Bytes → Prop
  | refused {why : Refusal} (h : q.refusals.head? = some why) : Settled c q s (.error { head := .refused why })
  | oversize (hq : q.InRange) (hs : 8 < q.size) :
    Settled c q s (.error { head := .postBox (.sizeBounds q.size 8) (some q.context) })
  | unopened {f : Failure} (hq : q.Admitted) (h : c.Unopened q s f) (hf : f.head.isOs = true) :
    Settled c q s (.error ⟨.postBox q.openingProblem (some q.context), f.head :: f.causes⟩)
  | unopenedOtherwise {f : Failure} (hq : q.Admitted) (h : c.Unopened q s f) (hf : f.head.isOs = false) :
    Settled c q s (.error (f.inContext q.context))
  | failed {f : Failure} {b : Bytes} (hq : q.Admitted) (h : c.Replies q s ⟨.error f, b⟩)
    (hf : f.head.isOs = true) :
    Settled c q s (.error ⟨.postBox q.transferProblem (some q.context), f.head :: f.causes⟩)
  | failedOtherwise {f : Failure} {b : Bytes} (hq : q.Admitted) (h : c.Replies q s ⟨.error f, b⟩)
    (hf : f.head.isOs = false) : Settled c q s (.error (f.inContext q.context))
  | incomplete {n : Int} {b : Bytes} (hq : q.Admitted) (h : c.Replies q s ⟨.ok n, b⟩) (hn : n ≠ 2) :
    Settled c q s (.error { head := .postBox (.incomplete n 2) (some q.context) })
  | complete {b : Bytes} (hq : q.Admitted) (h : c.Replies q s ⟨.ok 2, b⟩) : Settled c q s (.ok b)

namespace Device
variable {d : Device} {f : Failure}

theorem openingFailure_of_isOs (hf : f.head.isOs = true) :
    d.openingFailure f = ⟨.postBox (.bus ("Unable to open " ++ d.text) d none) none, f.head :: f.causes⟩ := by
  simp only [openingFailure, Failure.onBus, hf, if_true, Failure.because]

theorem openingFailure_of_not_isOs (hf : f.head.isOs = false) : d.openingFailure f = f := by
  simp only [openingFailure, Failure.onBus, hf, Bool.false_eq_true, if_false]

theorem transferFailure_of_isOs {offset : Int} (ho : Decimal.Writable offset) (hf : f.head.isOs = true) :
    d.transferFailure offset f =
      ⟨.postBox (.bus ("Unable to complete i2c transfer with " ++ d.text ++ " at +" ++ Decimal.text offset)
        d (some offset)) none, f.head :: f.causes⟩ := by
  simp only [transferFailure, hf, ho, not_true_eq_false, and_false, if_false, Failure.onBus, if_true,
    Failure.because]

theorem transferFailure_of_not_isOs {offset : Int} (hf : f.head.isOs = false) :
    d.transferFailure offset f = f := by
  simp only [transferFailure, hf, Bool.false_eq_true, false_and, if_false, Failure.onBus]

end Device

namespace Reply

theorem verdict_error {q : Query} {f : Failure} {b : Bytes} :
    verdict ⟨.error f, b⟩ q = .error (q.device.transferFailure q.offset f) := rfl

theorem verdict_ok {q : Query} {n : Int} {b : Bytes} (hn : Decimal.Writable n) :
    verdict ⟨.ok n, b⟩ q =
      if n = 2 then .ok b else .error { head := .postBox (.incomplete n 2) none } := by
  have h2 : Decimal.Writable 2 := Decimal.writable_of_natAbs_lt (by decide)
  simp only [verdict, hn, if_true, Outcome.validate, Outcome.complete_iff, Fault.writing, List.mem_cons,
    List.not_mem_nil, or_false, forall_eq_or_imp, forall_eq, h2, and_self]
  split_ifs <;> rfl

theorem verdict_eq_ok_iff {q : Query} {reply : Reply} {b : Bytes} :
    reply.verdict q = .ok b ↔ reply = ⟨.ok 2, b⟩ := by
  obtain ⟨f | n, buffer⟩ := reply
  · simp [verdict]
  · by_cases hn : Decimal.Writable n
    · rw [verdict_ok hn]
      split_ifs with h2 <;> simp [h2]
    · have h2 : n ≠ 2 := by
        rintro rfl
        exact hn (Decimal.writable_of_natAbs_lt (by decide))
      simp [verdict, hn, h2]

end Reply

namespace Reader
variable {σ : Type} (r : Reader σ) {q : Query} {s : σ}

theorem result_of_unopened {f : Failure} (hq : q.Admitted) (h : r.controller.Unopened q s f) :
    (r.read q s).1.result = .error ((q.device.openingFailure f).inContext q.context) := by
  rw [read_of_admitted r hq, Controller.unopened_iff.mp h]
  rfl

theorem result_of_released {reply : Reply} (hq : q.Admitted) (h : r.controller.Replies q s reply)
    (hc : r.controller.Closes q s (.ok ())) :
    (r.read q s).1.result = (reply.verdict q).mapError (·.inContext q.context) := by
  rw [read_of_admitted r hq, Controller.course_eq_closed_iff.mpr ⟨h, hc⟩]
  rfl

theorem result_of_unopened_of_isOs {f : Failure} (hq : q.Admitted) (h : r.controller.Unopened q s f)
    (hf : f.head.isOs = true) :
    (r.read q s).1.result = .error ⟨.postBox q.openingProblem (some q.context), f.head :: f.causes⟩ := by
  rw [result_of_unopened r hq h, Device.openingFailure_of_isOs hf]
  rfl

theorem result_of_failed {f : Failure} {b : Bytes} (hq : q.Admitted) (h : r.controller.Replies q s ⟨.error f, b⟩)
    (hf : f.head.isOs = true) (hc : r.controller.Closes q s (.ok ())) :
    (r.read q s).1.result = .error ⟨.postBox q.transferProblem (some q.context), f.head :: f.causes⟩ := by
  rw [result_of_released r hq h hc, Reply.verdict_error,
    Device.transferFailure_of_isOs hq.1.offset_writable hf]
  rfl

theorem result_of_incomplete {n : Int} {b : Bytes} (hq : q.Admitted) (h : r.controller.Replies q s ⟨.ok n, b⟩)
    (hn : n ≠ 2) (hw : Decimal.Writable n) (hc : r.controller.Closes q s (.ok ())) :
    (r.read q s).1.result = .error { head := .postBox (.incomplete n 2) (some q.context) } := by
  rw [result_of_released r hq h hc, Reply.verdict_ok hw, if_neg hn]
  rfl

theorem result_of_unreleased {f : Failure} (hq : q.Admitted) (hc : r.controller.Closes q s (.error f)) :
    (r.read q s).1.result = .error (f.inContext q.context) := by
  obtain ⟨reply, h⟩ := hc.replies
  rw [read_of_admitted r hq, Controller.course_eq_closed_iff.mpr ⟨h, hc⟩]
  rfl

/-- A value is returned exactly if the one transfer completed both messages and the release succeeded. -/
theorem result_eq_ok_iff {b : Bytes} :
    (r.read q s).1.result = .ok b ↔
      q.Admitted ∧ r.controller.Replies q s ⟨.ok 2, b⟩ ∧ r.controller.Closes q s (.ok ()) := by
  constructor
  · intro hb
    -- All but one of the ways that a read can go end in a failure.
    by_cases hq : q.Admitted
    · obtain ⟨f, h⟩ | ⟨reply, f | _, h, hc⟩ := r.controller.course_cases q s
      · rw [result_of_unopened r hq h] at hb
        cases hb
      · rw [result_of_unreleased r hq hc] at hb
        cases hb
      · rw [result_of_released r hq h hc] at hb
        rcases hv : reply.verdict q with _ | b'
        · rw [hv] at hb
          cases hb
        · rw [hv] at hb
          obtain rfl := Except.ok.inj hb
          exact ⟨hq, Reply.verdict_eq_ok_iff.mp hv ▸ h, hc⟩
    · obtain ⟨f, h⟩ := read_of_not_admitted r (s := s) hq
      rw [h] at hb
      cases hb
  · rintro ⟨hq, h, hc⟩
    rw [result_of_released r hq h hc, Reply.verdict_eq_ok_iff.mpr rfl]
    rfl

theorem exists_settled (c : Controller σ) (q : Query) (s : σ) : ∃ x, Settled c q s x := by
  by_cases hq : q.Admitted
  · obtain ⟨f, h⟩ | ⟨⟨f | n, b⟩, -, h, -⟩ := c.course_cases q s
    · rcases hf : f.head.isOs
      · exact ⟨_, .unopenedOtherwise hq h hf⟩
      · exact ⟨_, .unopened hq h hf⟩
    · rcases hf : f.head.isOs
      · exact ⟨_, .failedOtherwise hq h hf⟩
      · exact ⟨_, .failed hq h hf⟩
    · by_cases hn : n = 2
      · exact ⟨_, .complete hq (hn ▸ h)⟩
      · exact ⟨_, .incomplete hq h hn⟩
  · by_cases hr : q.InRange
    · exact ⟨_, .oversize hr (by simpa [Query.Admitted, hr] using hq)⟩
    · rw [Query.inRange_iff_refusals_eq_nil] at hr
      exact ⟨_, .refused (List.head?_eq_some_head hr)⟩

theorem writing_of_writable {n : Int} (h : Decimal.Writable n) (f : Fault) : Fault.writing [n] f = f := by
  simp [Fault.writing, h]

theorem result_of_settled {x : Except Failure Bytes} (h : Settled r.controller q s x) (hq : q.Writable)
    (hcount : ∀ n b, r.controller.Replies q s ⟨.ok n, b⟩ → Decimal.Writable n)
    (hclose : ∀ y, r.controller.Closes q s y → y = .ok ()) : (r.read q s).1.result = x := by
  have released {reply : Reply} (h : r.controller.Replies q s reply) : r.controller.Closes q s (.ok ()) := by
    obtain ⟨y, hy⟩ := h.closes
    exact hclose y hy ▸ hy
  cases h with
  | refused h =>
    obtain ⟨n, hn, hread⟩ := read_of_refusals r (s := s) h
    rw [hread, Failure.refusing, writing_of_writable (hq n hn)]
  | oversize hr hs =>
    rw [read_of_oversize r hr hs, writing_of_writable (hq _ (by simp))]
    rfl
  | unopened ha h hf => exact result_of_unopened_of_isOs r ha h hf
  | unopenedOtherwise ha h hf => rw [result_of_unopened r ha h, Device.openingFailure_of_not_isOs hf]
  | failed ha h hf => exact result_of_failed r ha h hf (released h)
  | failedOtherwise ha h hf =>
    rw [result_of_released r ha h (released h), Reply.verdict_error,
      Device.transferFailure_of_not_isOs hf]
    rfl
  | incomplete ha h hn => exact result_of_incomplete r ha h hn (hcount _ _ h) (released h)
  | complete ha h =>
    rw [result_of_released r ha h (released h), Reply.verdict_eq_ok_iff.mpr rfl]
    rfl

end Reader

namespace Bench
variable {q : Query} {b : Bench} {reply : Reply}

theorem direct_replies_length (h : direct.Replies q b reply) : reply.buffer.length = q.size.toNat := by
  obtain rfl := h.unique (direct_replies (openFault_of_direct_replies h))
  simp only [directReply]
  rcases b.exchange.payload with _ | p | _ <;> simp

theorem linux_replies_length (hq : q.Admitted) (h : linux.Replies q b reply) :
    reply.buffer.length = q.size.toNat := by
  obtain rfl := h.unique (linux_replies (openFault_of_linux_replies h))
  have hs : q.size.toNat < 2 ^ 16 := by
    have := hq.2
    omega
  simp only [nodeReply]
  rcases b.exchange.fault with _ | f
  · simp only [Bytes.length_fit, Message.head, List.length_replicate, UInt16.toNat_ofNat', Nat.mod_eq_of_lt hs]
  · simp

theorem mcp2221_replies_length (hq : q.Admitted) (h : mcp2221.Replies q b reply) :
    reply.buffer.length = q.size.toNat := by
  have hb := attachFault_of_replies h
  by_cases ha : q.address ≤ 0x7F
  · obtain rfl := h.unique (mcp2221_replies hq hb ha)
    rw [Adapter.length_reply, List.length_replicate]
  · obtain rfl := h.unique (mcp2221_replies_of_wide hb (Int.not_le.mp ha))
    exact List.length_replicate

end Bench

namespace Reader
variable {σ : Type}

theorem read_decision (r : Reader σ) {q : Query} {s : σ} (hq : q.Writable)
    (hcount : ∀ n b, r.controller.Replies q s ⟨.ok n, b⟩ → Decimal.Writable n)
    (hclose : ∀ y, r.controller.Closes q s y → y = .ok ()) :
    (∀ x, (r.read q s).1.result = x ↔ Settled r.controller q s x) ∧
    ((∃ b, (r.read q s).1.result = .ok b) ↔
      (0 ≤ q.offset ∧ q.offset ≤ 65535) ∧ (0 ≤ q.size ∧ q.size ≤ 8) ∧ (0 ≤ q.bus ∧ q.bus ≤ 255) ∧
        (0 ≤ q.address ∧ q.address ≤ 65535) ∧ ∃ b, r.controller.Replies q s ⟨.ok 2, b⟩) ∧
    ∀ c ∈ [Bench.direct, Bench.linux, Bench.mcp2221], ∀ (verbose : Bool) (q : Query) (start : Bench) (b : Bytes),
      (Reader.read ⟨c, verbose⟩ q start).1.result = .ok b →
        (b.length : Int) = q.size ∧ c.Replies q start ⟨.ok 2, b⟩ := by
  refine ⟨fun x => ⟨?_, fun h => result_of_settled r h hq hcount hclose⟩, ⟨?_, ?_⟩, ?_⟩
  · rintro rfl
    obtain ⟨y, hy⟩ := exists_settled r.controller q s
    exact result_of_settled r hy hq hcount hclose ▸ hy
  · rintro ⟨b, hb⟩
    obtain ⟨⟨⟨ho, hs, hbus, ha⟩, h8⟩, h, -⟩ := (result_eq_ok_iff r).mp hb
    exact ⟨ho, ⟨hs, h8⟩, hbus, ha, b, h⟩
  · rintro ⟨ho, ⟨hs, h8⟩, hbus, ha, b, h⟩
    obtain ⟨y, hy⟩ := h.closes
    exact ⟨b, (result_eq_ok_iff r).mpr ⟨⟨⟨ho, hs, hbus, ha⟩, h8⟩, h, hclose y hy ▸ hy⟩⟩
  · intro c hc verbose q start b hb
    obtain ⟨hq, h, -⟩ := (result_eq_ok_iff _).mp hb
    refine ⟨?_, h⟩
    have hlen : b.length = q.size.toNat := by
      simp only [List.mem_cons, List.not_mem_nil, or_false] at hc
      rcases hc with rfl | rfl | rfl
      · exact Bench.direct_replies_length h
      · exact Bench.linux_replies_length hq h
      · exact Bench.mcp2221_replies_length hq h
    have := hq.1.2.1
    omega

theorem read_decision_partial :
    let q : Query := ⟨1, 0x50, 0x10, 4⟩
    let b : Bench := { transfers := [{ completed := 1 }] }
    (Reader.read ⟨Bench.linux, false⟩ q b).1.result =
      .error { head := .postBox (.incomplete 1 2) (some "Unable to read post-box at +16, size=4") } := by
  intro q b
  have hq : q.Writable := by
    intro n hn
    refine Decimal.writable_of_natAbs_lt ?_
    revert n
    decide
  have hr : Bench.linux.Replies q b ⟨.ok 1, [0, 0, 0, 0]⟩ := ⟨_, _, rfl, rfl⟩
  have hcount (n : Int) (x : Bytes) (h : Bench.linux.Replies q b ⟨.ok n, x⟩) : Decimal.Writable n := by
    obtain ⟨⟨⟩, -⟩ := Reply.mk.inj (hr.unique h)
    exact Decimal.writable_of_natAbs_lt (by decide)
  have hclose (y : Except Failure Unit) (h : Bench.linux.Closes q b y) : y = .ok () := h.unique ⟨_, _, rfl, rfl⟩
  have hs : Settled Bench.linux q b _ := .incomplete (by decide) hr (by decide)
  exact ((read_decision ⟨Bench.linux, false⟩ hq hcount hclose).1 _).mpr hs

end Reader

end SmbusPostBox
