import SmbusPostBox.Proofs.AdapterFaults
import SmbusPostBox.Proofs.RunReports

/-! What becomes of a failure in one of the two messages that an attached adapter sends for a read. The adapter's
signals are told with the count of the messages that got through, faults of the operating system as they are, and
nothing is told of any other failure. -/

namespace SmbusPostBox
open Text

namespace Bench

/-- In a read, whose opening succeeds, the message after the first `count` ones fails with `f`. -/
inductive Interrupts (q : Query) (b : Bench) (f : Failure) : Nat → Prop
  | writing {a : Adapter} {b' : Bench} (hc : mcp2221.connect { bus := q.bus } b = (.ok a, b'))
    (hw : (a.write q.address (Offset.bytes q.request.offset) (if q.size = 0 then .regular else .nonstop) b').1 =
      .error f) : Interrupts q b f 0
  | reading {a : Adapter} {b' b'' : Bench} {e : Exchange} (hs : q.size ≠ 0)
    (hc : mcp2221.connect { bus := q.bus } b = (.ok a, b'))
    (hw : a.write q.address (Offset.bytes q.request.offset) .nonstop b' = (.ok e, b''))
    (hr : (a.read e q.address (Offset.bytes q.request.offset) q.size.toNat .restart b'').1 = .error f) :
    Interrupts q b f 1

variable {q : Query} {b : Bench} {f : Failure} {count : Nat}

theorem exchange_of_connected {a : Adapter} {b' : Bench} (hc : mcp2221.connect { bus := q.bus } b = (.ok a, b')) :
    b.attachFault = none ∧ b'.exchange = b.exchange := by
  have hattach := exists_mcp2221_opened_iff.mp ⟨a, congrArg Prod.fst hc⟩
  have hbench : b' = _ := congrArg Prod.snd (hc.symm.trans (mcp2221_connect_run hattach))
  refine ⟨hattach, ?_⟩
  rw [hbench]
  rfl

theorem Interrupts.replies (h : Interrupts q b f count) (hq : q.Admitted) (ha : q.address ≤ 0x7F) :
    mcp2221.Replies q b ⟨.error (Adapter.interrupted count f), List.replicate q.size.toNat 0⟩ := by
  have haddress : 0 ≤ q.address ∧ q.address ≤ 0x7F := ⟨hq.1.2.2.2.1, ha⟩
  cases h with
  | writing hc hw =>
    obtain ⟨hattach, he⟩ := exchange_of_connected hc
    rw [Adapter.write_run _ _ haddress, answer_eq_error_iff, he] at hw
    exact mcp2221_replies_of_unsent hq hattach ha hw
  | reading hs hc hw hr =>
    obtain ⟨hattach, he⟩ := exchange_of_connected hc
    have hsent := congrArg Prod.fst hw
    rw [Adapter.write_run _ _ haddress, answer_eq_ok_iff, he] at hsent
    obtain ⟨hnone, rfl⟩ := hsent
    rw [Adapter.read_run, answer_eq_error_iff] at hr
    exact mcp2221_replies_of_unread hq hattach ha hs hnone hr

end Bench

namespace CommandLine
open Bench
variable {q : Query} {b : Bench} {f : Failure} {count : Nat}

structure Diagnosed (q : Query) (b : Bench) (causes : List Fault) : Prop where
  read : ∀ verbose, (Reader.read ⟨mcp2221, verbose⟩ q b).1.result =
    .error ⟨.postBox q.transferProblem (some q.context), causes⟩
  report : ∀ (controllers : Backend → Controller Bench) (argv : List String) (o : Options),
    Options.parse argv = .ok o → o.query? = some q → controllers (o.backend.getD .linux) = mcp2221 →
      ∃ notes, Reader.Debugs ⟨mcp2221, o.verbose⟩ notes ∧
        (run controllers argv b).1 = ⟨.ok 1, "", lines (notes ++ q.told q.transferProblem causes)⟩

/-- A failure goes beyond the reader, and beyond the program if it is no problem of the post-box. -/
structure Escapes (q : Query) (b : Bench) (f : Failure) : Prop where
  read : f.head.isPostBox = false → ∀ verbose, (Reader.read ⟨mcp2221, verbose⟩ q b).1.result = .error f
  noted : ∀ p old causes, f = ⟨.postBox p old, causes⟩ → ∀ verbose,
    (Reader.read ⟨mcp2221, verbose⟩ q b).1.result = .error ⟨.postBox p (some q.context), causes⟩
  report : f.head.isPostBox = false →
    ∀ (controllers : Backend → Controller Bench) (argv : List String) (o : Options),
    Options.parse argv = .ok o → o.query? = some q → controllers (o.backend.getD .linux) = mcp2221 →
      ∃ notes, Reader.Debugs ⟨mcp2221, o.verbose⟩ notes ∧
        (run controllers argv b).1 = ⟨.error f, "", lines notes⟩

theorem diagnosed_of_read {causes : List Fault} (h : ∀ verbose, (Reader.read ⟨mcp2221, verbose⟩ q b).1.result =
    .error ⟨.postBox q.transferProblem (some q.context), causes⟩) : Diagnosed q b causes where
  read := h
  report controllers argv o hparse hquery hc := by
    refine ⟨_, Reader.debugs_read ⟨mcp2221, o.verbose⟩ q b, ?_⟩
    rw [run_of_query? hparse hquery, hc]
    exact Report.ofReading_of_postBox (h o.verbose)

theorem escapes_of_read (h : ∀ verbose, (Reader.read ⟨mcp2221, verbose⟩ q b).1.result =
    .error (f.inContext q.context)) : Escapes q b f where
  read hf verbose := by rw [h, f.inContext_of_not_isPostBox hf]
  noted p old causes hf verbose := by rw [h, hf, Failure.inContext]
  report hf controllers argv o hparse hquery hc := by
    refine ⟨_, Reader.debugs_read ⟨mcp2221, o.verbose⟩ q b, ?_⟩
    rw [run_of_query? hparse hquery, hc]
    refine Report.ofReading_of_uncaught ?_ hf
    rw [h, f.inContext_of_not_isPostBox hf]

theorem adapter_diagnosis (hq : q.Admitted) (ha : q.address ≤ 0x7F) (h : Interrupts q b f count) :
    (∀ signal data, f.head = .raised signal data → Adapter.Telling signal →
      Diagnosed q b (.osNote ("MCP2221 I2C error after " ++ Decimal.text count ++ " message(s): " ++
        signal.describe data) :: f.head :: f.causes)) ∧
    (f.head.isOs = true → Diagnosed q b (f.head :: f.causes)) ∧
    (f.head.isOs = false → (∀ signal data, f.head = .raised signal data → ¬ Adapter.Telling signal) →
      Escapes q b f) := by
  have hreply := h.replies hq ha
  -- The release of an adapter never fails, so what remains of the read is the failure of the message.
  have hreleased : mcp2221.Closes q b (.ok ()) := by
    obtain ⟨closing, hc⟩ := hreply.closes
    exact mcp2221_closes hc ▸ hc
  refine ⟨fun signal data hf ht => ?_, fun hos => ?_, fun hos hf => ?_⟩
  · rw [Adapter.interrupted_of_telling hf ht] at hreply
    exact diagnosed_of_read fun verbose => Reader.result_of_failed ⟨mcp2221, verbose⟩ hq hreply rfl hreleased
  · rw [Adapter.interrupted_of_isOs hos] at hreply
    exact diagnosed_of_read fun verbose => Reader.result_of_failed ⟨mcp2221, verbose⟩ hq hreply hos hreleased
  · rw [Adapter.interrupted_of_not hf] at hreply
    refine escapes_of_read fun verbose => ?_
    rw [Reader.result_of_released _ hq hreply hreleased, Reply.verdict_error, Device.transferFailure_of_not_isOs hos]
    rfl

theorem adapter_diagnosis_timeout :
    let f : Failure := ⟨.raised .adapterTimeout [.text "bus busy", .number 7],
      [.raised .value [.text "deep"], .osCode 5 "Input/output error"]⟩
    let b : Bench := { transfers := [{ fault := some f }] }
    let argv := ["read", "--backend=mcp2221", "--bus=0", "--address", "80", "--offset=16", "--size=4"]
    (run (fun _ => mcp2221) argv b).1 = ⟨.ok 1, "", lines
      ["Error: Unable to read post-box at +16, size=4", "", "Caused by:",
        "    Unable to complete i2c transfer with /dev/i2c-0 @0x50 at +16",
        "    MCP2221 I2C error after 1 message(s): TimeoutError('bus busy', 7)", "    ('bus busy', 7)", "    deep",
        "    [Errno 5] Input/output error"]⟩ := by
  intro f b argv
  let q : Query := ⟨0, 80, 16, 4⟩
  obtain ⟨o, hparse, hgiven⟩ : ∃ o, Options.parse argv = .ok o ∧
      (o.query?, o.verbose) = (some q, false) := exists_of_map_toOption (by decide +kernel)
  obtain ⟨hquery, hquiet⟩ := Prod.mk.inj hgiven
  have hinterrupts : Interrupts q b f 1 := .reading (by decide) rfl rfl rfl
  obtain ⟨htelling, -, -⟩ := adapter_diagnosis (by decide : q.Admitted) (by decide) hinterrupts
  obtain ⟨notes, ⟨-, hnone⟩, hreport⟩ :=
    (htelling _ _ rfl trivial).report (fun _ => mcp2221) argv o hparse hquery rfl
  rw [hnone hquiet, List.nil_append] at hreport
  refine hreport.trans (congrArg (fun ls => (⟨.ok 1, "", lines ls⟩ : Report)) ?_)
  decide +kernel

end CommandLine

end SmbusPostBox
