import SmbusPostBox.Proofs.AdapterFaults
import SmbusPostBox.Proofs.CompleteRuns
import SmbusPostBox.Proofs.HexLiterals
import SmbusPostBox.Proofs.OptionLanguage

/-! Requests in writing. A line writes just the requests that are in range, of any size, so that no number is refused
once it was parsed: a refusal that leaves a run is one of the hardware's own, or tells of a number too long to be
written. -/

namespace SmbusPostBox
open Text

namespace CommandLine

def Field.pick {α : Type} (bus address offset size : α) : Field → α
  | .bus => bus
  | .address => address
  | .offset => offset
  | .size => size

def Field.of (q : Query) : Field → Int := pick q.bus q.address q.offset q.size

def Occurrence.each (x : Field → List Char) : List Occurrence :=
  Field.all.map fun f => .attached (.whole (.number f) rfl) (x f)

namespace Occurrence
variable {x : Field → List Char}

theorem values_each (x : Field → List Char) (f : Field) : values (.number f) (each x) = [x f] := by
  cases f <;> rfl

theorem taken_of_mem_each {n : Field → Int} (h : ∀ f : Field, f.bounds.read (String.ofList (x f)) = .ok (n f)) :
    ∀ s, ∀ y ∈ values s (each x), s.Takes y := by
  intro s y hy
  obtain ⟨o, ho, hset⟩ := mem_values_iff.mp hy
  obtain ⟨f, -, rfl⟩ := List.mem_map.mp ho
  obtain ⟨rfl, rfl⟩ := Prod.mk.inj (Option.some.inj hset)
  exact .number (h f)

theorem parse_each {n : Field → Int} (h : ∀ f : Field, f.bounds.read (String.ofList (x f)) = .ok (n f)) :
    ∃ o, Options.parse (line (each x)) = .ok o ∧ ∀ f, o.number f = some (n f) := by
  have hgiven (f : Field) : values (.number f) (each x) ≠ [] := by
    rw [values_each]
    exact List.cons_ne_nil _ _
  obtain ⟨o, ho⟩ := exists_parse_line_eq_ok_iff.mpr ⟨taken_of_mem_each h, hgiven⟩
  obtain ⟨hmissing, rfl⟩ := options_of_parse_line ho
  refine ⟨_, ho, fun f => ?_⟩
  obtain ⟨y, hy, hnumber⟩ := (options_foldl hmissing).1 f
  rw [values_each, List.getLast?_singleton] at hy
  obtain rfl := Option.some.inj hy
  -- The divider is no literal, so it is none of these numbers.
  have hx : x f ≠ Word.dividerText := by
    intro hx
    have hmalformed : f.bounds.read (String.ofList Word.dividerText) = .error .malformed := by cases f <;> rfl
    have hread := h f
    rw [hx, hmalformed] at hread
    cases hread
  rw [hnumber, Field.number?, if_neg hx, h f]
  rfl

end Occurrence

theorem read_hex {f : Field} {n : Int} (h : f.bounds.Contains n) (h0 : 0 ≤ n) :
    f.bounds.read (String.ofList ('0' :: 'x' :: Hex.digits n.toNat)) = .ok n := by
  rw [Bounds.read, String.toList_ofList, Numeral.int?_hex, Int.toNat_of_nonneg h0]
  exact if_pos h

end CommandLine

namespace Query
variable {q : Query}

theorem InRange.encode_offset (h : q.InRange) : Offset.encode q.offset = .ok q.data := by
  simp only [Offset.encode, Offset.ofInt, h.1, and_self, if_true]
  rfl

theorem inRange_of_ofInts {d : Device} {r : Request} (hd : Device.ofInts q.bus q.address = .ok d)
    (hr : Request.ofInts q.offset q.size = .ok r) : q.InRange := by
  obtain ⟨o, hoffset, hsize⟩ := CommandLine.exists_of_bind_eq_ok hr
  unfold Device.ofInts at hd
  unfold Offset.ofInt at hoffset
  split_ifs at hd hoffset hsize with hb ha ho hs
  exact ⟨ho, hs, hb, ha⟩

theorem InRange.contains (h : q.InRange) (f : CommandLine.Field) : f.bounds.Contains (f.of q) := by
  obtain ⟨ho, hs, hb, ha⟩ := h
  cases f with
  | bus => exact ⟨hb.1, fun _ hn => Option.some.inj hn ▸ hb.2⟩
  | address => exact ⟨ha.1, fun _ hn => Option.some.inj hn ▸ ha.2⟩
  | offset => exact ⟨ho.1, fun _ hn => Option.some.inj hn ▸ ho.2⟩
  | size => exact ⟨hs, nofun⟩

theorem InRange.exists_parse (h : q.InRange) :
    ∃ argv o, CommandLine.Options.parse argv = .ok o ∧ o.query? = some q := by
  have hread (f : CommandLine.Field) :
      f.bounds.read (String.ofList ('0' :: 'x' :: Hex.digits (f.of q).toNat)) = .ok (f.of q) := by
    have hlow : f.bounds.low = 0 := by cases f <;> rfl
    exact CommandLine.read_hex (h.contains f) (hlow ▸ (h.contains f).1)
  obtain ⟨o, ho, hnumber⟩ := CommandLine.Occurrence.parse_each hread
  exact ⟨_, o, ho, CommandLine.Options.query?_of_number (hnumber .bus) (hnumber .address) (hnumber .offset)
    (hnumber .size)⟩

end Query

/-! ### Refusals -/

/-- A number that a read has to write is too long for that: its size, if that is out of bounds, or a count. -/
inductive Controller.Overlong {σ : Type} (c : Controller σ) (q : Query) (s : σ) : Prop
  | size (h8 : 8 < q.size) (hn : ¬ Decimal.Writable q.size)
  | count {n : Int} {b : Bytes} (h : c.Replies q s ⟨.ok n, b⟩) (hn : ¬ Decimal.Writable n)

namespace Failure
variable {f g : Failure} {problem : Problem} {why : Refusal}

theorem eq_of_onBus_refused (h : g.onBus problem = f) (hf : f.head = .refused why) : g = f := by
  unfold onBus at h
  split_ifs at h
  · rw [← h] at hf
    cases hf
  · exact h

end Failure

namespace Reply
variable {q : Query} {reply : Reply} {f : Failure} {why : Refusal}

theorem refused_verdict (hq : q.InRange) (h : reply.verdict q = .error f) (hf : f.head = .refused why) :
    reply.completed = .error f ∨
      f = { head := .refused .tooManyDigits } ∧ ∃ n, reply.completed = .ok n ∧ ¬ Decimal.Writable n := by
  obtain ⟨g | n, b⟩ := reply
  · rw [verdict_error] at h
    have hw := hq.offset_writable
    have hon : g.onBus q.transferProblem = f := by
      simp only [Device.transferFailure, hw, not_true_eq_false, and_false, if_false] at h
      exact Except.error.inj h
    exact .inl (congrArg Except.error (Failure.eq_of_onBus_refused hon hf))
  · by_cases hn : Decimal.Writable n
    · rw [verdict_ok hn] at h
      split_ifs at h
      obtain rfl := Except.error.inj h
      cases hf
    · simp only [verdict, hn, if_false] at h
      exact .inr ⟨(Except.error.inj h).symm, n, rfl, hn⟩

end Reply

namespace Query
variable {σ : Type} {c : Controller σ} {q : Query} {s : σ} {f : Failure} {why : Refusal}

theorem refused_verdict (hq : q.InRange) (h : q.verdict c s = .error f) (hf : f.head = .refused why) :
    q.Admitted ∧ c.Raises q s f ∨ f = { head := .refused .tooManyDigits } ∧ c.Overlong q s := by
  unfold verdict at h
  split_ifs at h with hs
  · have hadmitted : q.Admitted := ⟨hq, hs⟩
    obtain ⟨g, hg⟩ | ⟨reply, g | u, hr, hc⟩ := c.course_cases q s
    · rw [Controller.unopened_iff.mp hg] at h
      obtain rfl : g = f := Failure.eq_of_onBus_refused (Except.error.inj h) hf
      exact .inl ⟨hadmitted, .opening hg⟩
    · rw [Controller.course_eq_closed_iff.mpr ⟨hr, hc⟩] at h
      obtain rfl := Except.error.inj h
      exact .inl ⟨hadmitted, .closing hc⟩
    · rw [Controller.course_eq_closed_iff.mpr ⟨hr, hc⟩] at h
      obtain ⟨completed, b⟩ := reply
      rcases Reply.refused_verdict hq h hf with rfl | ⟨hdigits, n, rfl, hn⟩
      · exact .inl ⟨hadmitted, .transfer hr hc⟩
      · exact .inr ⟨hdigits, .count hr hn⟩
  · obtain rfl := Except.error.inj h
    simp only [Fault.writing, List.forall_mem_singleton] at hf
    split_ifs at hf with hw
    refine .inr ⟨?_, .size (Int.not_le.mp hs) hw⟩
    simp only [Fault.writing, List.forall_mem_singleton, hw, if_false]

end Query

namespace Bench

inductive Scripts (b : Bench) (f : Failure) : Prop
  | opening (h : some f ∈ b.opens)
  | speed (h : some f ∈ b.speeds)
  | writing {e : Exchange} (he : e ∈ b.transfers) (h : e.writeFault = some f)
  | transfer {e : Exchange} (he : e ∈ b.transfers) (h : e.fault = some f)
  | closing (h : some f ∈ b.closes)

variable {q : Query} {b : Bench} {f : Failure} {why : Refusal}

theorem exchange_mem (h : b.exchange ≠ {}) : b.exchange ∈ b.transfers := by
  unfold exchange at h ⊢
  generalize b.transfers = es at h ⊢
  rcases es with _ | ⟨e, es⟩
  · exact absurd rfl h
  · exact List.mem_cons_self

theorem scripts_of_writeFault (h : b.exchange.writeFault = some f) : b.Scripts f := by
  refine .writing (exchange_mem fun hdefault => ?_) h
  rw [hdefault] at h
  cases h

theorem scripts_of_fault (h : b.exchange.fault = some f) : b.Scripts f := by
  refine .transfer (exchange_mem fun hdefault => ?_) h
  rw [hdefault] at h
  cases h

theorem scripts_of_linux_raises (h : linux.Raises q b f) : b.Scripts f := by
  cases h with
  | opening h => exact .opening (mem_of_head?_join (linux_unopened_iff.mp h))
  | transfer h hc =>
    have hreply := (linux_replies (openFault_of_linux_replies h)).unique h
    unfold nodeReply at hreply
    rcases hfault : b.exchange.fault with _ | g
    · rw [hfault] at hreply
      cases hreply
    · rw [hfault] at hreply
      cases hreply
      exact scripts_of_fault hfault
  | closing h =>
    obtain ⟨reply, hr⟩ := h.replies
    have hcourse := congrArg Prod.fst (linux_course_of_opened (q := q) (openFault_of_linux_replies hr))
    have hanswer := (Controller.course_eq_closed_iff.mp hcourse).2.unique h
    exact .closing (mem_of_head?_join (answer_eq_error_iff.mp hanswer))

theorem scripts_of_mcp2221_raises (hq : q.Admitted) (h : mcp2221.Raises q b f) (hf : f.head = .refused why) :
    b.Scripts f := by
  cases h with
  | opening h =>
    obtain ⟨g, hg, rfl⟩ := mcp2221_unopened_iff.mp h
    rw [Adapter.eq_of_cases_refused (Adapter.unavailable_cases q.bus g) hf]
    rcases Option.or_eq_some_iff.mp hg with hopen | ⟨-, hspeed⟩
    · exact .opening (mem_of_head?_join hopen)
    · exact .speed (mem_of_head?_join hspeed)
  | transfer h hc =>
    have hattach := attachFault_of_replies h
    by_cases ha : 0x7F < q.address
    · obtain ⟨⟨⟩, -⟩ := Reply.mk.inj (h.unique (mcp2221_replies_of_wide hattach ha))
      cases hf
    · have hreply := (mcp2221_replies hq hattach (Int.not_lt.mp ha)).unique h
      obtain ⟨g, hg, rfl⟩ | ⟨g, hg, rfl⟩ := Adapter.error_reply hreply
      · rw [Adapter.eq_of_cases_refused (Adapter.interrupted_cases 0 g) hf]
        exact scripts_of_writeFault hg
      · rw [Adapter.eq_of_cases_refused (Adapter.interrupted_cases 1 g) hf]
        exact scripts_of_fault hg
  | closing h => cases mcp2221_closes h

end Bench

namespace CommandLine
variable {σ : Type} {controllers : Backend → Controller σ} {argv : List String} {s : σ} {f : Failure} {why : Refusal}

theorem Report.result_of_status {reading : Reading} (h : (ofReading reading).status = .error f) :
    reading.result = .error f ∧ f.head.isPostBox = false := by
  rcases hr : reading.result with g | b
  · rcases hg : g.head.isPostBox
    · rw [ofReading_of_uncaught hr hg] at h
      obtain rfl := Except.error.inj h
      exact ⟨rfl, hg⟩
    · simp only [ofReading, hr, hg, if_true] at h
      cases h
  · rw [ofReading_of_ok hr] at h
    cases h

theorem refused_run (h : (run controllers argv s).1.status = .error f) (hf : f.head = .refused why) :
    ∃ o q, Options.parse argv = .ok o ∧ o.query? = some q ∧
      let c := controllers (o.backend.getD .linux)
      (q.Admitted ∧ c.Raises q s f ∨ f = { head := .refused .tooManyDigits } ∧ c.Overlong q s) := by
  rcases hparse : Options.parse argv with stop | o
  · rw [run_of_stop hparse] at h
    cases h
  · rcases hquery : o.query? with _ | q
    · rw [run_of_numberless hparse hquery] at h
      obtain rfl := Except.error.inj h
      cases hf
    · refine ⟨o, q, rfl, hquery, ?_⟩
      have hq : q.InRange := (Options.bounded_of_parse hparse).inRange hquery
      rw [run_of_query? hparse hquery] at h
      obtain ⟨hresult, hhead⟩ := Report.result_of_status h
      rw [Reader.result_of_inRange _ hq] at hresult
      rcases hverdict : q.verdict (controllers (o.backend.getD .linux)) s with g | b
      · rw [hverdict] at hresult
        have hg : g.inContext q.context = f := Except.error.inj hresult
        have hgf : g = f := by
          rw [← hg, Failure.isPostBox_inContext] at hhead
          rw [← hg, g.inContext_of_not_isPostBox hhead]
        exact Query.refused_verdict hq (hgf ▸ hverdict) hf
      · rw [hverdict] at hresult
        cases hresult

def Backend.bench : Backend → Controller Bench
  | linux => Bench.linux
  | mcp2221 => Bench.mcp2221

theorem Backend.scripts_of_raises (backend : Backend) {q : Query} {b : Bench} (hq : q.Admitted)
    (h : backend.bench.Raises q b f) (hf : f.head = .refused why) : b.Scripts f := by
  cases backend with
  | linux => exact Bench.scripts_of_linux_raises h
  | mcp2221 => exact Bench.scripts_of_mcp2221_raises hq h hf

theorem requests_agree (argv : List String) :
    (∀ o, Options.parse argv = .ok o →
      ((∃ q, o.query? = some q) ↔ ∀ f, o.number f ≠ none) ∧
      (∀ q, o.query? = some q →
        Request.ofInts q.offset q.size = .ok q.request ∧ Device.ofInts q.bus q.address = .ok q.device ∧
        Offset.encode q.offset = .ok q.data) ∧
      ((∃ f, o.number f = none) → ∀ {σ : Type} (controllers : Backend → Controller σ) (s : σ),
        run controllers argv s = (⟨.error { head := .numberless o.need }, "", ""⟩, s))) ∧
    (∀ (b : Bench) f why, (run Backend.bench argv b).1.status = .error f → f.head = .refused why →
      b.Scripts f ∨ f = { head := .refused .tooManyDigits } ∧
        ∃ o q, Options.parse argv = .ok o ∧ o.query? = some q ∧ (o.backend.getD .linux).bench.Overlong q b) ∧
    ∀ (q : Query) d r, Device.ofInts q.bus q.address = .ok d → Request.ofInts q.offset q.size = .ok r →
      ∃ argv' o, Options.parse argv' = .ok o ∧ o.query? = some q := by
  refine ⟨fun o hparse => ⟨Options.exists_query?_iff, ?_, ?_⟩, ?_, ?_⟩
  · intro q hquery
    have hq : q.InRange := (Options.bounded_of_parse hparse).inRange hquery
    exact ⟨hq.request_ofInts, hq.device_ofInts, hq.encode_offset⟩
  · intro hmissing σ controllers s
    exact run_of_numberless hparse (Options.query?_eq_none_iff.mpr hmissing) controllers s
  · intro b f why hstatus hf
    obtain ⟨o, q, hparse, hquery, ⟨hq, hraised⟩ | ⟨hdigits, hlong⟩⟩ := refused_run hstatus hf
    · exact .inl (Backend.scripts_of_raises _ hq hraised hf)
    · exact .inr ⟨hdigits, o, q, hparse, hquery, hlong⟩
  · intro q d r hd hr
    exact (Query.inRange_of_ofInts hd hr).exists_parse

theorem requests_agree_divider :
    let argv := ["read", "--bus=--", "--address", "0x50", "--offset", "0x10", "--size", "4"]
    (∃ o, Options.parse argv = .ok o ∧ o.number .bus = none) ∧
      ∀ b, run Backend.bench argv b = (⟨.error { head := .numberless .range }, "", ""⟩, b) := by
  intro argv
  obtain ⟨o, hparse, hgiven⟩ : ∃ o, Options.parse argv = .ok o ∧ (o.number .bus, o.need) = (none, .range) :=
    exists_of_map_toOption (by decide +kernel)
  obtain ⟨hbus, hneed⟩ := Prod.mk.inj hgiven
  obtain ⟨-, -, hnumberless⟩ := (requests_agree argv).1 o hparse
  rw [hneed] at hnumberless
  exact ⟨⟨o, hparse, hbus⟩, fun b => hnumberless ⟨.bus, hbus⟩ Backend.bench b⟩

end CommandLine

end SmbusPostBox
