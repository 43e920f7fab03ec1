import Mathlib.Data.List.Forall2
import SmbusPostBox.Proofs.CallDiscipline

/-! Device nodes and adapters under scripts that say the same. Although one sends a transfer as one call and the
other as two, reads over them come to the same and take the entries of their scripts in step. -/

namespace SmbusPostBox

def Payload.Fits (size : Nat) : Payload → Prop
  | bytes content => content.length = size
  | _ => True

def Call.begun (calls : List Call) : Nat := calls.countP fun c => c.phase = .transferring ∨ c.phase = .sending

inductive Exchange.Matches (e e' : Exchange) : Prop
  | failed {f : Failure} (hf : f.head.isOs = true) (h : e.fault = some f) (h' : e'.writeFault = some f)
  | passed (hp : e.payload = e'.payload) (hc : e.completed = 2) (h : e.fault = none) (hw : e'.writeFault = none)
    (hr : e'.fault = none)

namespace Payload
variable {size : Nat}

instance (p : Payload) : Decidable (p.Fits size) :=
  match p with
  | bytes content => inferInstanceAs (Decidable (content.length = size))
  | absent | pattern => isTrue trivial

theorem Fits.length_read {p : Payload} (h : p.Fits size) (address : Int) (data : Bytes) :
    (p.read address data size).length = size := by
  cases p with
  | absent => exact List.length_replicate
  | bytes content => exact h
  | pattern => simp only [read, List.length_map, List.length_range]

end Payload

namespace Bench

/-- Scripts that say the same of openings and transfers, and nothing of clocks and releases. -/
structure Matches (b b' : Bench) : Prop where
  opens : b.opens = b'.opens
  os : ∀ f, some f ∈ b.opens → f.head.isOs = true
  transfers : List.Forall₂ Exchange.Matches b.transfers b'.transfers
  tuned : ∀ x ∈ b'.speeds, x = none
  released : ∀ x ∈ b.closes, x = none

/-- Each payload that a run over device nodes takes fits the read that takes it. -/
def Fitting (verbose : Bool) : List Query → Bench → Prop
  | [], _ => True
  | q :: qs, b =>
    (q.Admitted → b.openFault = none → b.exchange.fault = none → b.exchange.payload.Fits q.size.toNat) ∧
      Fitting verbose qs (Reader.benchAfter ⟨linux, verbose⟩ q b)

instance Fitting.decidable (verbose : Bool) : (qs : List Query) → (b : Bench) → Decidable (Fitting verbose qs b)
  | [], _ => isTrue trivial
  | _ :: qs, _ =>
    have := Fitting.decidable verbose qs
    inferInstanceAs (Decidable (_ ∧ _))

/-! ### Transfers -/

theorem nodeReply_of_fits {e : Exchange} {address : Int} {data : Bytes} {size : Nat} (h : e.fault = none)
    (ha : 0 ≤ address ∧ address ≤ 0x7F) (hd : data.length ≤ 2) (hs : size ≤ 8) (hp : e.payload.Fits size) :
    nodeReply e address data (List.replicate size 0) = ⟨.ok e.completed, e.payload.read address data size⟩ := by
  have hwide : 0 ≤ address ∧ address ≤ 0xFFFF := by omega
  have hread : (e.payload.read address data size).length = size := hp.length_read address data
  rw [nodeReply_of_passed h hwide (by omega) (by omega), Bytes.fit_of_length_eq hread]

theorem reply_of_passed {e : Exchange} {address : Int} {data : Bytes} {size : Nat} (hw : e.writeFault = none)
    (hr : e.fault = none) (hp : e.payload.Fits size) :
    Adapter.reply e address data (List.replicate size 0) = ⟨.ok 2, e.payload.read address data size⟩ := by
  have hread := hp.length_read address data
  cases size with
  | zero =>
    -- Nothing is read, and nothing is what would fit.
    have hnil : e.payload.read address data 0 = [] := List.eq_nil_of_length_eq_zero hread
    simp only [Adapter.reply, hw, List.replicate_zero, List.isEmpty_nil, if_true, hnil]
  | succ size =>
    simp only [Adapter.reply, hw, List.replicate_succ, List.isEmpty_cons, Bool.false_eq_true, if_false,
      Adapter.received, hr, List.length_cons, List.length_replicate, hread, if_true]

theorem nodeReply_eq_reply {e e' : Exchange} (h : e.Matches e') {address : Int} {data : Bytes} {size : Nat}
    (ha : 0 ≤ address ∧ address ≤ 0x7F) (hd : data.length ≤ 2) (hs : size ≤ 8)
    (hp : e.fault = none → e.payload.Fits size) :
    nodeReply e address data (List.replicate size 0) = Adapter.reply e' address data (List.replicate size 0) := by
  cases h with
  | failed hf hfault hfault' =>
    simp only [nodeReply, hfault, Adapter.reply, hfault', Adapter.interrupted_of_isOs hf]
  | passed hpayload hc hfault hw hr =>
    have hfits := hp hfault
    rw [nodeReply_of_fits hfault ha hd hs hfits, reply_of_passed hw hr (hpayload ▸ hfits), hc, hpayload]

/-! ### Scripts in step -/

structure Follows (b c : Bench) (n k : Nat) : Prop where
  opens : c.opens = b.opens.drop n
  transfers : c.transfers = b.transfers.drop k
  speeds : c.speeds ⊆ b.speeds
  closes : c.closes ⊆ b.closes

theorem Follows.refl (b : Bench) : b.Follows b 0 0 := ⟨rfl, rfl, List.Subset.refl _, List.Subset.refl _⟩

theorem head?_join_eq_none {α : Type} {l : List (Option α)} (h : ∀ x ∈ l, x = none) : l.head?.join = none := by
  rcases l with _ | ⟨x, l⟩
  · rfl
  · exact h x List.mem_cons_self

namespace Matches
variable {b b' : Bench}

theorem openFault (h : b.Matches b') : b.openFault = b'.openFault := by
  unfold Bench.openFault
  rw [h.opens]

theorem isOs_openFault (h : b.Matches b') {f : Failure} (hf : b.openFault = some f) : f.head.isOs = true := by
  apply h.os
  exact mem_of_head?_join hf

theorem speedFault (h : b.Matches b') : b'.speedFault = none := head?_join_eq_none h.tuned

theorem closeFault (h : b.Matches b') : b.closeFault = none := head?_join_eq_none h.released

theorem exchange (h : b.Matches b') : b.exchange.Matches b'.exchange := by
  have hentries := h.transfers
  unfold Bench.exchange
  generalize b.transfers = es at hentries ⊢
  generalize b'.transfers = es' at hentries ⊢
  cases hentries with
  | nil => exact .passed rfl rfl rfl rfl rfl
  | cons he _ => exact he

theorem follow (h : b.Matches b') {c c' : Bench} {n k : Nat} (hb : b.Follows c n k) (hb' : b'.Follows c' n k) :
    c.Matches c' where
  opens := by rw [hb.opens, hb'.opens, h.opens]
  os f hf := by
    rw [hb.opens] at hf
    exact h.os f (List.mem_of_mem_drop hf)
  transfers := by
    rw [hb.transfers, hb'.transfers]
    exact List.forall₂_drop k h.transfers
  tuned x hx := h.tuned x (hb'.speeds hx)
  released x hx := h.released x (hb.closes hx)

theorem unlogged (h : b.Matches b') : b.unlogged.Matches b'.unlogged :=
  ⟨h.opens, h.os, h.transfers, h.tuned, h.released⟩

end Matches

/-! ### Reads in step -/

section
variable {q : Query} {b b' : Bench} {verbose : Bool}

structure InStep (verbose : Bool) (q : Query) (b b' : Bench) (n k : Nat) : Prop where
  reading : (Reader.read ⟨linux, verbose⟩ q b.unlogged).1 = (Reader.read ⟨mcp2221, verbose⟩ q b'.unlogged).1
  follows : b.Follows (Reader.benchAfter ⟨linux, verbose⟩ q b) n k
  follows' : b'.Follows (Reader.benchAfter ⟨mcp2221, verbose⟩ q b') n k
  begun : Call.begun (Reader.callsOf ⟨linux, verbose⟩ q b) = k
  begun' : Call.begun (Reader.callsOf ⟨mcp2221, verbose⟩ q b') = k

theorem inStep_of_not_admitted (hq : ¬ q.Admitted) : InStep verbose q b b' 0 0 := by
  constructor
  case reading => exact Reader.reading_of_not_admitted ⟨linux, verbose⟩ ⟨mcp2221, verbose⟩ b.unlogged b'.unlogged hq
  case follows =>
    rw [Reader.benchAfter_of_not_admitted _ b hq]
    exact .refl b
  case follows' =>
    rw [Reader.benchAfter_of_not_admitted _ b' hq]
    exact .refl b'
  case begun =>
    rw [Reader.callsOf_of_not_admitted _ b hq]
    rfl
  case begun' =>
    rw [Reader.callsOf_of_not_admitted _ b' hq]
    rfl

theorem inStep_of_unopened (hq : q.Admitted) (h : b.Matches b') {f : Failure} (hf : b.openFault = some f) :
    InStep verbose q b b' 1 0 := by
  have hcourse := linux_course_of_unopened (q := q) (openFault_unlogged.trans hf)
  have hcourse' := mcp2221_course_of_unattached (q := q) (openFault_unlogged.trans (h.openFault.symm.trans hf))
  rw [Adapter.unavailable_of_isOs (h.isOs_openFault hf)] at hcourse'
  constructor
  case reading =>
    rw [Reader.read_of_admitted _ hq, Reader.read_of_admitted _ hq, hcourse, hcourse']
    rfl
  case follows =>
    rw [Reader.benchAfter_of_admitted _ b hq, hcourse]
    exact ⟨List.drop_one.symm, rfl, List.Subset.refl _, List.Subset.refl _⟩
  case follows' =>
    rw [Reader.benchAfter_of_admitted _ b' hq, hcourse']
    exact ⟨List.drop_one.symm, rfl, List.Subset.refl _, List.Subset.refl _⟩
  case begun =>
    rw [Reader.callsOf_of_admitted _ b hq, hcourse]
    rfl
  case begun' =>
    rw [Reader.callsOf_of_admitted _ b' hq, hcourse']
    rfl

theorem begun_transferCalls (e : Exchange) (address : Int) (data : Bytes) (size : Nat) (timeout : Int) :
    Call.begun (Adapter.transferCalls e address data size timeout) = 1 := by
  unfold Adapter.transferCalls
  split_ifs
  · rfl
  · rcases e.writeFault with _ | f <;> rfl

theorem inStep_of_opened (hq : q.Admitted) (ha : q.address ≤ 0x7F) (h : b.Matches b') (ho : b.openFault = none)
    (hfits : b.exchange.fault = none → b.exchange.payload.Fits q.size.toNat) : InStep verbose q b b' 1 1 := by
  have haddress : 0 ≤ q.address ∧ q.address ≤ 0x7F := ⟨hq.1.2.2.2.1, ha⟩
  have hsize : q.size.toNat ≤ 8 := by
    have := hq.2
    omega
  have hattach : b'.attachFault = none := attachFault_eq_none_iff.mpr ⟨h.openFault.symm.trans ho, h.speedFault⟩
  have hcourse := linux_course_of_opened (q := q) (openFault_unlogged.trans ho)
  have hcourse' := mcp2221_course_of_opened (attachFault_unlogged.trans hattach) haddress
  have hreply := nodeReply_eq_reply h.unlogged.exchange haddress (Offset.length_bytes_le q.request.offset) hsize hfits
  have hclosing : answer b.unlogged.closeFault () = .ok () := congrArg (answer · ()) h.closeFault
  rw [hreply, hclosing] at hcourse
  constructor
  case reading =>
    rw [Reader.read_of_admitted _ hq, Reader.read_of_admitted _ hq, hcourse, hcourse']
    rfl
  case follows =>
    rw [Reader.benchAfter_of_admitted _ b hq, hcourse]
    exact ⟨List.drop_one.symm, List.drop_one.symm, List.Subset.refl _, (List.tail_sublist _).subset⟩
  case follows' =>
    rw [Reader.benchAfter_of_admitted _ b' hq, hcourse']
    exact ⟨List.drop_one.symm, List.drop_one.symm, (List.tail_sublist _).subset, List.Subset.refl _⟩
  case begun =>
    rw [Reader.callsOf_of_admitted _ b hq, hcourse]
    rfl
  case begun' =>
    rw [Reader.callsOf_of_admitted _ b' hq, hcourse']
    exact begun_transferCalls ..

theorem exists_inStep (h : b.Matches b') (ha : 0 ≤ q.address → q.address ≤ 0xFFFF → q.address ≤ 0x7F)
    (hfits : q.Admitted → b.openFault = none → b.exchange.fault = none → b.exchange.payload.Fits q.size.toNat) :
    ∃ n k, InStep verbose q b b' n k := by
  by_cases hq : q.Admitted
  · obtain ⟨-, -, -, hlow, hhigh⟩ := hq.1
    rcases ho : b.openFault with _ | f
    · exact ⟨1, 1, inStep_of_opened hq (ha hlow hhigh) h ho (hfits hq ho)⟩
    · exact ⟨1, 0, inStep_of_unopened hq h ho⟩
  · exact ⟨0, 0, inStep_of_not_admitted hq⟩

end

theorem begun_append (calls calls' : List Call) :
    Call.begun (calls ++ calls') = Call.begun calls + Call.begun calls' := List.countP_append

theorem readAll_agree {verbose : Bool} {qs : List Query} {b b' : Bench} (h : b.Matches b')
    (ha : ∀ q ∈ qs, 0 ≤ q.address → q.address ≤ 0xFFFF → q.address ≤ 0x7F) (hfits : Fitting verbose qs b) :
    let r : Reader Bench := ⟨linux, verbose⟩
    let r' : Reader Bench := ⟨mcp2221, verbose⟩
    (r.readAll qs b).1.map Prod.fst = (r'.readAll qs b').1.map Prod.fst ∧
    (∀ i, Call.begun (r.callsAt qs b i) = Call.begun (r'.callsAt qs b' i)) ∧
    ∃ k, Call.begun (r.log qs b) = k ∧ Call.begun (r'.log qs b') = k ∧
      (r.readAll qs b).2.transfers = b.transfers.drop k ∧ (r'.readAll qs b').2.transfers = b'.transfers.drop k := by
  intro r r'
  -- On the reads: a read leaves matching scripts for the rest of the run.
  induction qs generalizing b b' with
  | nil => exact ⟨rfl, fun i => rfl, 0, rfl, rfl, rfl, rfl⟩
  | cons q qs ih =>
    obtain ⟨hfirst, hrest⟩ := hfits
    obtain ⟨n, k, hstep⟩ : ∃ n k, InStep verbose q b b' n k :=
      exists_inStep h (ha q List.mem_cons_self) hfirst
    have hmatches := h.follow hstep.follows hstep.follows'
    obtain ⟨hreadings, hcounts, l, hlog, hlog', hleft, hleft'⟩ :=
      ih hmatches (fun p hp => ha p (List.mem_cons_of_mem q hp)) hrest
    have hbegun : Call.begun (r.callsOf q b) = k := hstep.begun
    have hbegun' : Call.begun (r'.callsOf q b') = k := hstep.begun'
    refine ⟨?_, ?_, k + l, ?_, ?_, ?_, ?_⟩
    · rw [Reader.readAll_cons, Reader.readAll_cons, List.map_cons, List.map_cons, hreadings]
      exact congrArg (· :: _) hstep.reading
    · intro i
      cases i with
      | zero => rw [Reader.callsAt_zero, Reader.callsAt_zero, hbegun, hbegun']
      | succ i =>
        rw [Reader.callsAt_succ, Reader.callsAt_succ]
        exact hcounts i
    · rw [Reader.log_cons, begun_append, hbegun, hlog]
    · rw [Reader.log_cons, begun_append, hbegun', hlog']
    · rw [Reader.readAll_cons, hleft, hstep.follows.transfers, List.drop_drop]
    · rw [Reader.readAll_cons, hleft', hstep.follows'.transfers, List.drop_drop]

theorem readAll_agree_seven :
    let qs : List Query := [⟨1, 0x50, 0x10, 4⟩, ⟨0, 0x50, 0x1234, 0⟩, ⟨300, 0x50, 0, 1⟩, ⟨1, 0x50, 0, 9⟩,
      ⟨2, 0x20, 0, 2⟩, ⟨1, 0x50, 0x10, 4⟩, ⟨1, 0x7F, 0xFFFF, 3⟩]
    let absent : Failure := { head := .osCode 2 "No such file or directory" }
    let remote : Failure := { head := .osCode 121 "Remote I/O error" }
    let b : Bench :=
      { opens := [none, none, some absent]
        transfers := [{ payload := .pattern }, {}, { fault := some remote }, { payload := .bytes [1, 2, 3] }] }
    let b' : Bench := { b with
      transfers := [{ payload := .pattern }, {}, { writeFault := some remote }, { payload := .bytes [1, 2, 3] }] }
    (Reader.readAll ⟨linux, true⟩ qs b).1.map Prod.fst = (Reader.readAll ⟨mcp2221, true⟩ qs b').1.map Prod.fst ∧
      (Reader.readAll ⟨linux, true⟩ qs b).2.transfers = [] ∧
      (Reader.readAll ⟨mcp2221, true⟩ qs b').2.transfers = [] := by
  intro qs absent remote b b'
  have hmatches : b.Matches b' := by
    constructor
    case opens => rfl
    case os =>
      intro f hf
      obtain rfl : f = absent := by simpa [b] using hf
      rfl
    case transfers =>
      refine .cons ?_ (.cons ?_ (.cons ?_ (.cons ?_ .nil)))
      · exact .passed rfl rfl rfl rfl rfl
      · exact .passed rfl rfl rfl rfl rfl
      · exact .failed (f := remote) rfl rfl rfl
      · exact .passed rfl rfl rfl rfl rfl
    case tuned => exact nofun
    case released => exact nofun
  have haddresses : ∀ q ∈ qs, 0 ≤ q.address → q.address ≤ 0xFFFF → q.address ≤ 0x7F := by decide
  have hfits : Fitting true qs b := by decide +kernel
  obtain ⟨hreadings, -, k, hbegun, -, hleft, hleft'⟩ := readAll_agree hmatches haddresses hfits
  obtain rfl : 4 = k := by
    rw [← hbegun]
    decide +kernel
  have hnone : b.transfers.drop 4 = [] := rfl
  have hnone' : b'.transfers.drop 4 = [] := rfl
  rw [hnone] at hleft
  rw [hnone'] at hleft'
  exact ⟨hreadings, hleft, hleft'⟩

end Bench

end SmbusPostBox
