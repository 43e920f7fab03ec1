import SmbusPostBox.Proofs.AdapterTransfers
import SmbusPostBox.Proofs.FaultConversion

/-! Faults and signals of an adapter. In a transfer all of them become faults of the operating system; while the
adapter is attached only those do that tell of a missing one, and the others pass the reader as they are. -/

namespace SmbusPostBox
open Text

namespace Bench

namespace Adapter

def Fails (f : Failure) : Prop :=
  f.head.isOs = true ∨ ∃ signal, Telling signal ∧ ∃ texts : List String, f.head = .raised signal (texts.map .text)

/-- A signal that does not tell of a missing adapter. -/
def Stray (f : Failure) : Prop := ∃ signal data, f.head = .raised signal data ∧ ¬ Missing signal

variable {f : Failure}

theorem not_stray_of_isOs (h : f.head.isOs = true) : ¬ Stray f := by
  rintro ⟨signal, data, hs, -⟩
  rw [hs] at h
  cases h

theorem unavailable_cases (index : Int) (f : Failure) :
    unavailable index f = f ∨ ∃ text, unavailable index f = .because (.osNote text) f := by
  unfold unavailable
  split
  · split_ifs
    · exact .inr ⟨_, rfl⟩
    · exact .inl rfl
  · exact .inl rfl

theorem interrupted_cases (count : Nat) (f : Failure) :
    interrupted count f = f ∨ ∃ text, interrupted count f = .because (.osNote text) f := by
  unfold interrupted
  split
  · split_ifs
    · exact .inr ⟨_, rfl⟩
    · exact .inl rfl
  · exact .inl rfl

theorem interrupted_of_telling {signal : Signal} {data : List Datum} (hf : f.head = .raised signal data)
    (ht : Telling signal) (count : Nat) :
    interrupted count f = .because (.osNote ("MCP2221 I2C error after " ++ Decimal.text count ++ " message(s): " ++
      signal.describe data)) f := by
  simp only [interrupted, hf, ht, if_true]

theorem suffix_of_cases {g : Failure} (h : g = f ∨ ∃ text, g = .because (.osNote text) f) :
    f.head :: f.causes <:+ g.head :: g.causes := by
  rcases h with rfl | ⟨text, rfl⟩
  · exact List.suffix_refl _
  · exact List.suffix_cons _ _

theorem suffix_unavailable (index : Int) :
    f.head :: f.causes <:+ (unavailable index f).head :: (unavailable index f).causes :=
  suffix_of_cases (unavailable_cases index f)

theorem suffix_interrupted (count : Nat) :
    f.head :: f.causes <:+ (interrupted count f).head :: (interrupted count f).causes :=
  suffix_of_cases (interrupted_cases count f)

theorem eq_of_cases_refused {g : Failure} {why : Refusal} (h : g = f ∨ ∃ text, g = .because (.osNote text) f)
    (hg : g.head = .refused why) : g = f := by
  rcases h with h | ⟨text, rfl⟩
  · exact h
  · cases hg

theorem unavailable_of_stray {index : Int} (h : Stray f) : unavailable index f = f := by
  obtain ⟨signal, data, hs, hm⟩ := h
  simp only [unavailable, hs, hm, if_false]

theorem isOs_unavailable_iff {index : Int} (h : Fails f) :
    (unavailable index f).head.isOs = true ↔ ¬ Stray f := by
  by_cases hs : Stray f
  · rw [unavailable_of_stray hs]
    exact iff_of_false (fun hos => not_stray_of_isOs hos hs) (not_not_intro hs)
  · refine iff_of_true ?_ hs
    rcases h with h | ⟨signal, -, texts, h⟩
    -- A fault of the operating system is left as it is.
    · unfold unavailable
      split
      · next heq =>
        rw [heq] at h
        cases h
      · exact h
    · have hm : Missing signal := Decidable.byContradiction fun hm => hs ⟨signal, _, h, hm⟩
      simp only [unavailable, h, hm, if_true]
      rfl

theorem isOs_interrupted (count : Nat) (h : Fails f) : (interrupted count f).head.isOs = true := by
  rcases h with h | ⟨signal, ht, texts, h⟩
  · rw [interrupted_of_isOs h]
    exact h
  · rw [interrupted_of_telling h ht]
    rfl

theorem error_reply {e : Exchange} {address : Int} {data buffer x : Bytes}
    (h : reply e address data buffer = ⟨.error f, x⟩) :
    (∃ g, e.writeFault = some g ∧ f = interrupted 0 g) ∨
      ∃ g, e.fault = some g ∧ f = interrupted 1 g := by
  have hends := ends_reply e address data buffer
  rw [h] at hends
  cases hends with
  | unsent hw => exact .inl ⟨_, hw, rfl⟩
  | unread _ _ hr => exact .inr ⟨_, hr, rfl⟩

theorem ok_reply {e : Exchange} {address n : Int} {data buffer x : Bytes}
    (h : reply e address data buffer = ⟨.ok n, x⟩) : n = 1 ∨ n = 2 := by
  have hends := (ends_reply e address data buffer).completed_cases
  rw [h] at hends
  obtain h1 | h2 | ⟨f, hf⟩ := hends
  · exact .inl (Except.ok.inj h1)
  · exact .inr (Except.ok.inj h2)
  · cases hf

end Adapter

variable (q : Query) (b : Bench)

def messageFault : Option Failure := b.exchange.writeFault.or (if q.size = 0 then none else b.exchange.fault)

/-- What the first of the adapter's calls to fail in a read fails with. -/
def adapterFault : Option Failure := b.attachFault.or (if q.address ≤ 0x7F then b.messageFault q else none)

structure AdapterScript : Prop where
  attaching : ∀ f, b.attachFault = some f → Adapter.Fails f
  writing : ∀ f, b.exchange.writeFault = some f → Adapter.Fails f
  reading : ∀ f, b.exchange.fault = some f → Adapter.Fails f

def Strayless : Prop := ∀ f, b.attachFault = some f → ¬ Adapter.Stray f

variable {q b}

theorem mcp2221_replies_of_unsent {f : Failure} (hq : q.Admitted) (hb : b.attachFault = none)
    (ha : q.address ≤ 0x7F) (hw : b.exchange.writeFault = some f) :
    mcp2221.Replies q b ⟨.error (Adapter.interrupted 0 f), List.replicate q.size.toNat 0⟩ := by
  rw [← Adapter.reply_of_unsent hw]
  exact mcp2221_replies hq hb ha

theorem mcp2221_replies_of_unread {f : Failure} (hq : q.Admitted) (hb : b.attachFault = none)
    (ha : q.address ≤ 0x7F) (hs : q.size ≠ 0) (hw : b.exchange.writeFault = none)
    (hr : b.exchange.fault = some f) :
    mcp2221.Replies q b ⟨.error (Adapter.interrupted 1 f), List.replicate q.size.toNat 0⟩ := by
  have hbuffer : List.replicate q.size.toNat (0 : UInt8) ≠ [] := by
    have := hq.1.2.1
    rw [Ne, List.replicate_eq_nil_iff]
    omega
  rw [← Adapter.reply_of_unread hw hbuffer hr]
  exact mcp2221_replies hq hb ha

theorem mcp2221_replies_interrupted {f : Failure} (hq : q.Admitted) (hb : b.attachFault = none)
    (ha : q.address ≤ 0x7F) (hf : b.messageFault q = some f) :
    ∃ count x, mcp2221.Replies q b ⟨.error (Adapter.interrupted count f), x⟩ := by
  unfold messageFault at hf
  rcases hw : b.exchange.writeFault with _ | g
  · rw [hw, Option.none_or] at hf
    split_ifs at hf with hs
    exact ⟨1, _, mcp2221_replies_of_unread hq hb ha hs hw hf⟩
  · rw [hw, Option.some_or] at hf
    cases hf
    exact ⟨0, _, mcp2221_replies_of_unsent hq hb ha hw⟩

theorem isOs_of_mcp2221_replies (hq : q.Admitted) (hb : b.AdapterScript) {f : Failure} {x : Bytes}
    (h : mcp2221.Replies q b ⟨.error f, x⟩) : f.head.isOs = true := by
  have hattach := attachFault_of_replies h
  by_cases ha : 0x7F < q.address
  · obtain ⟨⟨⟩, -⟩ := Reply.mk.inj (h.unique (mcp2221_replies_of_wide hattach ha))
    rfl
  · have hr := (mcp2221_replies hq hattach (Int.not_lt.mp ha)).unique h
    obtain ⟨g, hg, rfl⟩ | ⟨g, hg, rfl⟩ := Adapter.error_reply hr
    · exact Adapter.isOs_interrupted 0 (hb.writing g hg)
    · exact Adapter.isOs_interrupted 1 (hb.reading g hg)

theorem mcp2221_settles (hq : q.Admitted) : mcp2221.Settles q b where
  closes f h := nomatch mcp2221_closes h
  countable n x h := by
    have hattach := attachFault_of_replies h
    by_cases ha : 0x7F < q.address
    · cases (Reply.mk.inj (h.unique (mcp2221_replies_of_wide hattach ha))).1
    · have hr := (mcp2221_replies hq hattach (Int.not_lt.mp ha)).unique h
      rcases Adapter.ok_reply hr with rfl | rfl <;> exact Decimal.writable_of_natAbs_lt (by decide)

theorem isOs_of_unopened_iff (hb : b.AdapterScript) :
    (∀ f, mcp2221.Unopened q b f → f.head.isOs = true) ↔ b.Strayless := by
  constructor
  · intro h f hf
    exact (Adapter.isOs_unavailable_iff (hb.attaching f hf)).mp (h _ (mcp2221_unopened_iff.mpr ⟨f, hf, rfl⟩))
  · intro h f hf
    obtain ⟨g, hg, rfl⟩ := mcp2221_unopened_iff.mp hf
    exact (Adapter.isOs_unavailable_iff (hb.attaching g hg)).mpr (h g hg)

theorem mcp2221_plain (hq : q.Admitted) (hb : b.AdapterScript) (h : b.Strayless) : mcp2221.Plain q b where
  opening := (isOs_of_unopened_iff hb).mpr h
  transfer _ _ hr := isOs_of_mcp2221_replies hq hb hr
  closing _ hc := nomatch mcp2221_closes hc

end Bench

namespace Reader
open Bench
variable {q : Query} {b : Bench} {verbose : Bool}

theorem result_of_stray {f : Failure} (hq : q.Admitted) (hf : b.attachFault = some f) (hs : Adapter.Stray f) :
    (Reader.read ⟨mcp2221, verbose⟩ q b).1.result = .error f := by
  have h : mcp2221.Unopened q b f := mcp2221_unopened_iff.mpr ⟨f, hf, Adapter.unavailable_of_stray hs⟩
  have hos : f.head.isOs = false := by
    rw [← Bool.not_eq_true]
    exact fun hos => Adapter.not_stray_of_isOs hos hs
  rw [result_of_unopened _ hq h, Device.openingFailure_of_not_isOs hos]
  obtain ⟨signal, data, hhead, -⟩ := hs
  obtain ⟨head, causes⟩ := f
  cases hhead
  rfl

theorem told_mcp2221_iff (hq : q.Admitted) (hb : b.AdapterScript) :
    Told q (Reader.read ⟨mcp2221, verbose⟩ q b).1.result ↔ b.Strayless := by
  constructor
  · intro ht f hf hs
    rw [result_of_stray hq hf hs] at ht
    obtain ⟨signal, data, hhead, -⟩ := hs
    cases ht
    cases hhead
  · intro h
    exact (told_iff verbose hq (mcp2221_plain hq hb h)).mpr (mcp2221_settles hq)

theorem result_of_adapterFault {f : Failure} (hq : q.Admitted) (hb : b.AdapterScript) (hs : b.Strayless)
    (hf : b.adapterFault q = some f) :
    ∃ causes, (Reader.read ⟨mcp2221, verbose⟩ q b).1.result =
      .error ⟨.postBox (if b.attachFault.isSome then q.openingProblem else q.transferProblem)
        (some q.context), causes⟩ ∧ f.head :: f.causes <:+ causes := by
  unfold adapterFault at hf
  rcases hattach : b.attachFault with _ | g
  · rw [hattach, Option.none_or] at hf
    split_ifs at hf with ha
    obtain ⟨count, x, h⟩ := mcp2221_replies_interrupted hq hattach ha hf
    have hos := isOs_of_mcp2221_replies hq hb h
    obtain ⟨closing, hc⟩ := h.closes
    obtain rfl := mcp2221_closes hc
    exact ⟨_, result_of_failed _ hq h hos hc, Adapter.suffix_interrupted count⟩
  · rw [hattach, Option.some_or] at hf
    cases hf
    have h : mcp2221.Unopened q b (Adapter.unavailable q.bus f) := mcp2221_unopened_iff.mpr ⟨f, hattach, rfl⟩
    have hos := (isOs_of_unopened_iff hb).mpr hs _ h
    exact ⟨_, result_of_unopened_of_isOs _ hq h hos, Adapter.suffix_unavailable q.bus⟩

theorem adapter_faults_told (verbose : Bool) {q : Query} {b : Bench} (hq : q.Admitted) (hb : b.AdapterScript) :
    let result := (Reader.read ⟨mcp2221, verbose⟩ q b).1.result
    ((∀ f, mcp2221.Unopened q b f → f.head.isOs = true) ↔ b.Strayless) ∧
    (∀ f x, mcp2221.Replies q b ⟨.error f, x⟩ → f.head.isOs = true) ∧
    (Told q result ↔ b.Strayless) ∧
    (∀ f, b.attachFault = some f → Adapter.Stray f → result = .error f) ∧
    (b.Strayless → ∀ f, b.adapterFault q = some f → ∃ causes,
      result = .error ⟨.postBox (if b.attachFault.isSome then q.openingProblem else q.transferProblem)
        (some q.context), causes⟩ ∧ f.head :: f.causes <:+ causes) := by
  refine ⟨isOs_of_unopened_iff hb, ?_, told_mcp2221_iff hq hb, ?_, ?_⟩
  · exact fun f x h => isOs_of_mcp2221_replies hq hb h
  · exact fun f hf hs => result_of_stray hq hf hs
  · exact fun hs f hf => result_of_adapterFault hq hb hs hf

theorem adapter_faults_told_unless_stray :
    let q : Query := ⟨0, 0x50, 0x10, 4⟩
    let f : Failure := { head := .raised .nack [.text "I2C slave address was not acknowledged"] }
    let b : Bench := { opens := [some f] }
    let result := (Reader.read ⟨mcp2221, false⟩ q b).1.result
    result = .error f ∧ ¬ Told q result := by
  intro q f b result
  have hstray : Adapter.Stray f := ⟨.nack, _, rfl, id⟩
  have hb : b.AdapterScript := by
    refine ⟨?_, nofun, nofun⟩
    rintro _ ⟨⟩
    exact .inr ⟨.nack, trivial, ["I2C slave address was not acknowledged"], rfl⟩
  obtain ⟨-, -, htold, hescape, -⟩ := adapter_faults_told false (by decide : q.Admitted) hb
  exact ⟨hescape f rfl hstray, fun ht => htold.mp ht f rfl hstray⟩

end Reader

end SmbusPostBox
