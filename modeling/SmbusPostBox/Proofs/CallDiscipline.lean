import Mathlib.Tactic.ByContra
import Mathlib.Tactic.SplitIfs
import SmbusPostBox.Proofs.BenchCourses
import SmbusPostBox.Proofs.ReadRuns

/-! Which calls a read makes. Nothing is called twice, whatever fails; and the descriptors that a run of reads
opens are closed again one by one, each by the read that opened it. -/

namespace SmbusPostBox

namespace Call

inductive Phase
  | opening
  | tuning
  | transferring
  | sending
  | receiving
  | closing
  deriving DecidableEq, Repr

def phase : Call → Phase
  | connect .. | openNode .. | attach .. => .opening
  | setSpeed .. => .tuning
  | transfer .. | combined .. => .transferring
  | write .. => .sending
  | read .. => .receiving
  | release | closeNode .. => .closing

@[simp] theorem phase_attach (index : Int) : (attach index).phase = .opening := rfl

@[simp] theorem phase_setSpeed (hertz : Int) : (setSpeed hertz).phase = .tuning := rfl

def descriptor : Call → Option Nat
  | combined d .. | closeNode d => d
  | _ => none

end Call

namespace Bench

/-- A descriptor that was given out and is not closed. -/
def Outstanding (b : Bench) (d : Nat) : Prop :=
  101 ≤ d ∧ d < 101 + b.descriptors ∧ Call.closeNode (some d) ∉ b.calls

structure DirectRead (q : Query) (b : Bench) (calls : List Call) : Prop where
  refused : ¬ q.Admitted → calls = []
  unopened : q.Admitted → ∀ f, direct.Unopened q b f → calls = [.connect q.bus]
  opened : q.Admitted → ∀ h, direct.Opened q b h →
    calls = [.connect q.bus, .transfer q.address (Offset.bytes q.request.offset) q.size.toNat, .release]

structure NodeRead (q : Query) (b : Bench) (calls : List Call) : Prop where
  refused : ¬ q.Admitted → calls = []
  unopened : q.Admitted → ∀ f, linux.Unopened q b f → calls = [.openNode (Device.node q.bus)]
  opened : q.Admitted → ∀ n, linux.Opened q b n → ∃ d, n.descriptor = some d ∧
    calls = [.openNode (Device.node q.bus),
      combinedCall (some d) q.address (Offset.bytes q.request.offset) q.size.toNat, .closeNode (some d)]

structure AdapterRead (q : Query) (b : Bench) (calls : List Call) : Prop where
  refused : ¬ q.Admitted → calls = []
  ordered : calls <+: [.attach q.bus, .setSpeed 100000,
    .write q.address (Offset.bytes q.request.offset) (if q.size = 0 then .regular else .nonstop) 20,
    .read q.address q.size.toNat .restart 20]
  sends : (∃ call ∈ calls, call.phase = .sending) ↔
    q.Admitted ∧ q.address ≤ 0x7F ∧ ∃ a, mcp2221.Opened q b a
  receives : (∃ call ∈ calls, call.phase = .receiving) ↔
    q.Admitted ∧ q.address ≤ 0x7F ∧ (∃ a, mcp2221.Opened q b a) ∧ q.size ≠ 0 ∧ b.exchange.writeFault = none

variable {q : Query} {b : Bench} {f : Failure}

@[simp] theorem openFault_unlogged : b.unlogged.openFault = b.openFault := rfl

@[simp] theorem speedFault_unlogged : b.unlogged.speedFault = b.speedFault := rfl

@[simp] theorem attachFault_unlogged : b.unlogged.attachFault = b.attachFault := rfl

theorem directRead (verbose : Bool) (q : Query) (b : Bench) :
    DirectRead q b (Reader.callsOf ⟨direct, verbose⟩ q b) where
  refused hq := Reader.callsOf_of_not_admitted _ b hq
  unopened hq f hf := by
    have ho := openFault_unlogged.trans (direct_unopened_iff.mp hf)
    rw [Reader.callsOf_of_admitted _ b hq, direct_course_of_unopened ho]
    rfl
  opened hq h hh := by
    have ho := openFault_unlogged.trans (direct_opened_iff.mp hh)
    rw [Reader.callsOf_of_admitted _ b hq, direct_course_of_opened ho]
    rfl

theorem nodeRead (verbose : Bool) (q : Query) (b : Bench) :
    NodeRead q b (Reader.callsOf ⟨linux, verbose⟩ q b) where
  refused hq := Reader.callsOf_of_not_admitted _ b hq
  unopened hq f hf := by
    have ho := openFault_unlogged.trans (linux_unopened_iff.mp hf)
    rw [Reader.callsOf_of_admitted _ b hq, linux_course_of_unopened ho]
    rfl
  opened hq n hn := by
    obtain ⟨ho, rfl⟩ := linux_opened_iff.mp hn
    refine ⟨101 + b.descriptors, rfl, ?_⟩
    rw [Reader.callsOf_of_admitted _ b hq, linux_course_of_opened (openFault_unlogged.trans ho)]
    rfl

namespace Adapter
variable (e : Exchange) (address : Int) (data : Bytes) (size : Nat) (timeout : Int)

theorem transferCalls_prefix :
    transferCalls e address data size timeout <+:
      [.write address data (if size = 0 then .regular else .nonstop) timeout,
        .read address size .restart timeout] := by
  unfold transferCalls
  split_ifs
  · exact ⟨_, rfl⟩
  · rcases e.writeFault with _ | f
    · exact ⟨[], rfl⟩
    · exact ⟨_, rfl⟩

theorem exists_sending_transferCalls :
    ∃ call ∈ transferCalls e address data size timeout, call.phase = .sending := by
  unfold transferCalls
  split_ifs
  · exact ⟨_, List.mem_cons_self, rfl⟩
  · rcases e.writeFault with _ | f <;> exact ⟨_, List.mem_cons_self, rfl⟩

theorem exists_receiving_transferCalls_iff :
    (∃ call ∈ transferCalls e address data size timeout, call.phase = .receiving) ↔
      size ≠ 0 ∧ e.writeFault = none := by
  unfold transferCalls
  split_ifs with h
  · simp [h, Call.phase]
  · rcases e.writeFault with _ | f <;> simp [h, Call.phase]

end Adapter

theorem mcp2221_callsOf_of_unsent (verbose : Bool) (hq : q.Admitted)
    (h : q.address ≤ 0x7F → ¬ ∃ a, mcp2221.Opened q b a) :
    Reader.callsOf ⟨mcp2221, verbose⟩ q b <+: [.attach q.bus, .setSpeed 100000] := by
  rw [Reader.callsOf_of_admitted _ b hq]
  rcases ho : b.openFault with _ | f
  · rcases hs : b.speedFault with _ | f
    · have hattach : b.attachFault = none := attachFault_eq_none_iff.mpr ⟨ho, hs⟩
      have ha : 0x7F < q.address := by
        by_contra ha
        exact h (Int.not_lt.mp ha) (exists_mcp2221_opened_iff.mpr hattach)
      rw [mcp2221_course_of_wide (attachFault_unlogged.trans hattach) ha]
      exact ⟨[], rfl⟩
    · rw [mcp2221_course_of_untuned (openFault_unlogged.trans ho) (speedFault_unlogged.trans hs)]
      exact ⟨[], rfl⟩
  · rw [mcp2221_course_of_unattached (openFault_unlogged.trans ho)]
    exact ⟨_, rfl⟩

theorem mcp2221_callsOf_of_sent (verbose : Bool) (hq : q.Admitted) (ha : q.address ≤ 0x7F)
    (h : ∃ a, mcp2221.Opened q b a) :
    Reader.callsOf ⟨mcp2221, verbose⟩ q b = .attach q.bus :: .setSpeed 100000 ::
      Adapter.transferCalls b.exchange q.address (Offset.bytes q.request.offset) q.size.toNat 20 := by
  have hattach := attachFault_unlogged.trans (exists_mcp2221_opened_iff.mp h)
  rw [Reader.callsOf_of_admitted _ b hq, mcp2221_course_of_opened hattach ⟨hq.1.2.2.2.1, ha⟩]
  rfl

theorem adapterRead_of_sent (verbose : Bool) (hq : q.Admitted) (ha : q.address ≤ 0x7F)
    (h : ∃ a, mcp2221.Opened q b a) : AdapterRead q b (Reader.callsOf ⟨mcp2221, verbose⟩ q b) := by
  have hsize : q.size.toNat = 0 ↔ q.size = 0 := by
    have := hq.1.2.1
    omega
  obtain ⟨call, hcall, hphase⟩ := Adapter.exists_sending_transferCalls b.exchange q.address
    (Offset.bytes q.request.offset) q.size.toNat 20
  have hprefix := Adapter.transferCalls_prefix b.exchange q.address (Offset.bytes q.request.offset) q.size.toNat 20
  have hreceives := Adapter.exists_receiving_transferCalls_iff b.exchange q.address
    (Offset.bytes q.request.offset) q.size.toNat 20
  rw [mcp2221_callsOf_of_sent verbose hq ha h]
  constructor
  case refused => exact fun hn => absurd hq hn
  case ordered =>
    simp only [hsize] at hprefix
    exact (List.prefix_cons_inj _).mpr ((List.prefix_cons_inj _).mpr hprefix)
  case sends => exact iff_of_true ⟨call, by simp [hcall], hphase⟩ ⟨hq, ha, h⟩
  case receives =>
    simp only [List.mem_cons, exists_eq_or_imp, Call.phase_attach, Call.phase_setSpeed, reduceCtorEq,
      false_or, hreceives, hq, ha, h, true_and, ne_eq, hsize]

theorem adapterRead_of_unsent (verbose : Bool) (hq : q.Admitted)
    (h : q.address ≤ 0x7F → ¬ ∃ a, mcp2221.Opened q b a) :
    AdapterRead q b (Reader.callsOf ⟨mcp2221, verbose⟩ q b) := by
  have hprefix := mcp2221_callsOf_of_unsent verbose hq h
  have hunsent {phase : Call.Phase} (ho : phase ≠ .opening) (ht : phase ≠ .tuning) :
      ¬ ∃ call ∈ Reader.callsOf ⟨mcp2221, verbose⟩ q b, call.phase = phase := by
    rintro ⟨call, hc, rfl⟩
    have := hprefix.subset hc
    simp only [List.mem_cons, List.not_mem_nil, or_false] at this
    rcases this with rfl | rfl
    · exact ho rfl
    · exact ht rfl
  constructor
  case refused => exact fun hn => absurd hq hn
  case ordered => exact hprefix.trans ⟨_, rfl⟩
  case sends => exact iff_of_false (hunsent nofun nofun) fun ⟨_, ha, ho⟩ => h ha ho
  case receives => exact iff_of_false (hunsent nofun nofun) fun ⟨_, ha, ho, _⟩ => h ha ho

theorem adapterRead (verbose : Bool) (q : Query) (b : Bench) :
    AdapterRead q b (Reader.callsOf ⟨mcp2221, verbose⟩ q b) := by
  by_cases hq : q.Admitted
  · by_cases h : q.address ≤ 0x7F ∧ ∃ a, mcp2221.Opened q b a
    · exact adapterRead_of_sent verbose hq h.1 h.2
    · exact adapterRead_of_unsent verbose hq fun ha ho => h ⟨ha, ho⟩
  · rw [Reader.callsOf_of_not_admitted _ b hq]
    constructor <;> simp [hq]

/-! ### No phase comes twice -/

theorem DirectRead.nodup {calls : List Call} (h : DirectRead q b calls) : (calls.map Call.phase).Nodup := by
  by_cases hq : q.Admitted
  · obtain ⟨f, hf⟩ | ⟨n, hn⟩ := direct.unopened_or_opened q b
    · rw [h.unopened hq f hf]
      simp
    · rw [h.opened hq n hn]
      simp [Call.phase]
  · rw [h.refused hq]
    exact List.nodup_nil

theorem NodeRead.nodup {calls : List Call} (h : NodeRead q b calls) : (calls.map Call.phase).Nodup := by
  by_cases hq : q.Admitted
  · obtain ⟨f, hf⟩ | ⟨n, hn⟩ := linux.unopened_or_opened q b
    · rw [h.unopened hq f hf]
      simp
    · obtain ⟨d, -, hc⟩ := h.opened hq n hn
      rw [hc]
      simp [Call.phase, combinedCall]
  · rw [h.refused hq]
    exact List.nodup_nil

theorem AdapterRead.nodup {calls : List Call} (h : AdapterRead q b calls) : (calls.map Call.phase).Nodup := by
  refine (h.ordered.map Call.phase).sublist.nodup ?_
  simp [Call.phase]

/-! ### Descriptors -/

/-- In a log of calls, the descriptors from `first` up to `last` are the ones used, each until it is closed. -/
structure Ledger (first last : Nat) (log : List Call) : Prop where
  le : first ≤ last
  within : ∀ call ∈ log, ∀ d, call.descriptor = some d → first ≤ d ∧ d < last
  closed : ∀ d, first ≤ d → d < last → log.count (.closeNode (some d)) = 1
  unused : log.Pairwise fun x y => ∀ d, x = .closeNode (some d) → y.descriptor ≠ some d

namespace Ledger
variable {first middle last : Nat} {log log' : List Call}

theorem of_descriptor_eq_none (n : Nat) (h : ∀ call ∈ log, call.descriptor = none) : Ledger n n log where
  le := Nat.le_refl n
  within call hc d hd := by simp [h call hc] at hd
  closed d hn hd := absurd hd (Nat.not_lt.mpr hn)
  unused := List.pairwise_of_forall_mem_list fun x _ y hy d _ => by simp [h y hy]

theorem of_opened (n : Nat) (path : String) (address : Int) (data : Bytes) (size : Nat) :
    Ledger n (n + 1)
      [.openNode path, combinedCall (some n) address data size, .closeNode (some n)] where
  le := n.le_succ
  within call hc d hd := by
    simp only [List.mem_cons, List.not_mem_nil, or_false] at hc
    rcases hc with rfl | rfl | rfl <;> simp [Call.descriptor, combinedCall] at hd <;> omega
  closed d hn hd := by
    obtain rfl : d = n := by omega
    simp [combinedCall]
  unused := by simp [combinedCall]

theorem count_eq_zero (h : Ledger first last log) {d : Nat} (hd : d < first ∨ last ≤ d) :
    log.count (.closeNode (some d)) = 0 := by
  refine List.count_eq_zero.mpr fun hmem => ?_
  have := h.within _ hmem d rfl
  omega

theorem append (h : Ledger first middle log) (h' : Ledger middle last log') : Ledger first last (log ++ log') where
  le := Nat.le_trans h.le h'.le
  within call hc d hd := by
    have hle := h.le
    have hle' := h'.le
    rcases List.mem_append.mp hc with hc | hc
    · have := h.within call hc d hd
      omega
    · have := h'.within call hc d hd
      omega
  closed d hf hl := by
    rw [List.count_append]
    rcases Nat.lt_or_ge d middle with hd | hd
    · rw [h.closed d hf hd, h'.count_eq_zero (.inl hd)]
    · rw [h.count_eq_zero (.inr hd), h'.closed d hd hl]
  unused := by
    refine List.pairwise_append.mpr ⟨h.unused, h'.unused, ?_⟩
    -- What is closed in the first log lies below all that the second uses.
    rintro x hx y hy d rfl hd
    have hbelow := h.within _ hx d rfl
    have habove := h'.within y hy d hd
    omega

end Ledger

theorem ledger_callsOf (verbose : Bool) (q : Query) (b : Bench) :
    Ledger (101 + b.descriptors) (101 + (Reader.benchAfter ⟨linux, verbose⟩ q b).descriptors)
      (Reader.callsOf ⟨linux, verbose⟩ q b) := by
  by_cases hq : q.Admitted
  · rw [Reader.descriptors_of_admitted _ b hq]
    obtain ⟨f, hf⟩ | ⟨n, hn⟩ := linux.unopened_or_opened q b
    · rw [linux_course_of_unopened (openFault_unlogged.trans (linux_unopened_iff.mp hf)),
        (nodeRead verbose q b).unopened hq f hf]
      exact .of_descriptor_eq_none _ (by simp [Call.descriptor])
    · obtain ⟨ho, rfl⟩ := linux_opened_iff.mp hn
      obtain ⟨d, ⟨⟩, hc⟩ := (nodeRead verbose q b).opened hq _ hn
      rw [linux_course_of_opened (openFault_unlogged.trans ho), hc]
      exact .of_opened ..
  · rw [Reader.benchAfter_of_not_admitted _ b hq, Reader.callsOf_of_not_admitted _ b hq]
    exact .of_descriptor_eq_none _ (by simp)

theorem ledger_log (verbose : Bool) (qs : List Query) (b : Bench) :
    Ledger (101 + b.descriptors) (101 + (Reader.readAll ⟨linux, verbose⟩ qs b).2.descriptors)
      (Reader.log ⟨linux, verbose⟩ qs b) := by
  -- On the reads: the ledger of the rest begins where that of the first read ends.
  induction qs generalizing b with
  | nil => exact .of_descriptor_eq_none _ (by simp [Reader.log_nil])
  | cons q qs ih =>
    rw [Reader.readAll_cons, Reader.log_cons]
    exact (ledger_callsOf verbose q b).append (ih _)

def OpensAt (verbose : Bool) (qs : List Query) (b : Bench) (i d : Nat) : Prop :=
  ∃ q, qs[i]? = some q ∧ q.Admitted ∧
    linux.Opened q (Reader.benchAt ⟨linux, verbose⟩ qs b i) (⟨some d⟩ : Node)

section
variable {verbose : Bool} {qs : List Query} {i d : Nat}

theorem closeNode_mem_of_opensAt (h : OpensAt verbose qs b i d) :
    Call.closeNode (some d) ∈ Reader.callsAt ⟨linux, verbose⟩ qs b i := by
  obtain ⟨q, hi, hq, ho⟩ := h
  obtain ⟨d', hd, hc⟩ := (nodeRead verbose q _).opened hq _ ho
  obtain rfl : d = d' := Option.some.inj hd
  rw [Reader.callsAt_of_getElem? _ qs b hi, hc]
  simp

theorem opensAt_of_descriptor {call : Call} (h : call ∈ Reader.callsAt ⟨linux, verbose⟩ qs b i)
    (hd : call.descriptor = some d) : OpensAt verbose qs b i d := by
  obtain ⟨q, hi⟩ := Reader.exists_getElem?_of_mem_callsAt _ qs b h
  rw [Reader.callsAt_of_getElem? _ qs b hi] at h
  have hrule := nodeRead verbose q (Reader.benchAt ⟨linux, verbose⟩ qs b i)
  by_cases hq : q.Admitted
  · obtain ⟨f, hf⟩ | ⟨n, hn⟩ := linux.unopened_or_opened q (Reader.benchAt ⟨linux, verbose⟩ qs b i)
    · rw [hrule.unopened hq f hf] at h
      obtain rfl := List.mem_singleton.mp h
      cases hd
    · obtain ⟨d', hd', hc⟩ := hrule.opened hq n hn
      obtain rfl : n = (⟨some d'⟩ : Node) := congrArg Node.mk hd'
      rw [hc] at h
      simp only [List.mem_cons, List.not_mem_nil, or_false] at h
      rcases h with rfl | rfl | rfl
      · cases hd
      · exact ⟨q, hi, hq, Option.some.inj hd ▸ hn⟩
      · exact ⟨q, hi, hq, Option.some.inj hd ▸ hn⟩
  · rw [hrule.refused hq] at h
    cases h

theorem outstanding_of_readAll (h : (Reader.readAll ⟨linux, verbose⟩ qs b).2.Outstanding d) :
    b.Outstanding d := by
  obtain ⟨hlow, hhigh, hopen⟩ := h
  rw [Reader.calls_readAll, List.mem_append, not_or] at hopen
  refine ⟨hlow, ?_, hopen.1⟩
  -- A descriptor given out by the run itself would be closed in its log.
  by_contra hd
  have hclosed := (ledger_log verbose qs b).closed d (Nat.not_lt.mp hd) hhigh
  rw [List.count_eq_zero.mpr hopen.2] at hclosed
  cases hclosed

end

theorem readAll_discipline (verbose : Bool) (qs : List Query) (b : Bench) :
    Reader.Keeps ⟨direct, verbose⟩ qs b DirectRead ∧
    Reader.Keeps ⟨linux, verbose⟩ qs b NodeRead ∧
    Reader.Keeps ⟨mcp2221, verbose⟩ qs b AdapterRead ∧
    (∀ c ∈ [direct, linux, mcp2221],
      Reader.Keeps ⟨c, verbose⟩ qs b fun _ _ calls => (calls.map Call.phase).Nodup) ∧
    let r : Reader Bench := ⟨linux, verbose⟩
    (∀ i d, OpensAt verbose qs b i d →
      .closeNode (some d) ∈ r.callsAt qs b i ∧ (r.log qs b).count (.closeNode (some d)) = 1) ∧
    (∀ i, ∀ call ∈ r.callsAt qs b i, ∀ d, call.descriptor = some d → OpensAt verbose qs b i d) ∧
    (r.log qs b).Pairwise (fun x y => ∀ d, x = .closeNode (some d) → y.descriptor ≠ some d) ∧
    ∀ d, (r.readAll qs b).2.Outstanding d → b.Outstanding d := by
  have hdirect := directRead verbose
  have hlinux := nodeRead verbose
  have hmcp2221 := adapterRead verbose
  have hledger := ledger_log verbose qs b
  refine ⟨Reader.keeps_of_callsOf _ qs b hdirect, Reader.keeps_of_callsOf _ qs b hlinux,
    Reader.keeps_of_callsOf _ qs b hmcp2221, ?_, ?_, ?_, hledger.unused, ?_⟩
  · intro c hc
    refine Reader.keeps_of_callsOf _ qs b fun q b => ?_
    simp only [List.mem_cons, List.not_mem_nil, or_false] at hc
    rcases hc with rfl | rfl | rfl
    · exact (hdirect q b).nodup
    · exact (hlinux q b).nodup
    · exact (hmcp2221 q b).nodup
  · intro i d h
    have hclose := closeNode_mem_of_opensAt h
    have hrange := hledger.within _ (Reader.callsAt_subset_log _ qs b i hclose) d rfl
    exact ⟨hclose, hledger.closed d hrange.1 hrange.2⟩
  · exact fun i call hcall d hd => opensAt_of_descriptor hcall hd
  · exact fun d hd => outstanding_of_readAll hd

end Bench

end SmbusPostBox
