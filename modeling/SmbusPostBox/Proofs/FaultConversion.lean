import SmbusPostBox.CommandLine.Run
import SmbusPostBox.Proofs.ReadDecision

/-! Hardware that fails only with faults of the operating system. They come to the user as problems of the
post-box, except those of the release: these remain as they are, and hide what the transfer came to. -/

namespace SmbusPostBox
open Text

/-- A read returns bytes, or a problem of the post-box that says which read it befell. -/
inductive Told (q : Query) : Except Failure Bytes → Prop
  | bytes (b : Bytes) : Told q (.ok b)
  | problem (p : Problem) (causes : List Fault) : Told q (.error ⟨.postBox p (some q.context), causes⟩)

namespace Fault
variable {f : Fault}

theorem isPostBox_iff : f.isPostBox = true ↔ ∃ p c, f = .postBox p c := by
  cases f <;> simp [isPostBox]

theorem not_isPostBox_of_isOs (h : f.isOs = true) : f.isPostBox = false := by
  cases f <;> simp_all [isOs, isPostBox]

end Fault

namespace Failure
variable {f : Failure}

@[simp] theorem isPostBox_inContext (context : String) :
    (f.inContext context).head.isPostBox = f.head.isPostBox := by
  obtain ⟨head, causes⟩ := f
  cases head <;> rfl

theorem inContext_of_isOs (context : String) (h : f.head.isOs = true) : f.inContext context = f := by
  obtain ⟨head, causes⟩ := f
  cases head <;> first | rfl | cases h

end Failure

theorem isPostBox_mapError_iff {context : String} {x : Except Failure Bytes} :
    (∀ f, x.mapError (·.inContext context) = .error f → f.head.isPostBox = true) ↔
      ∀ f, x = .error f → f.head.isPostBox = true := by
  rcases x with f | b
  · constructor
    · rintro h _ ⟨⟩
      rw [← Failure.isPostBox_inContext context]
      exact h _ rfl
    · rintro h _ ⟨⟩
      rw [Failure.isPostBox_inContext]
      exact h _ rfl
  · exact iff_of_true nofun nofun

theorem told_mapError_iff {q : Query} {x : Except Failure Bytes} :
    Told q (x.mapError (·.inContext q.context)) ↔ ∀ f, x = .error f → f.head.isPostBox = true := by
  rw [← isPostBox_mapError_iff]
  constructor
  · intro h f hf
    rw [hf] at h
    cases h
    rfl
  · intro h
    rcases x with ⟨head, causes⟩ | b
    · have hb := h _ rfl
      rw [Failure.isPostBox_inContext] at hb
      obtain ⟨p, c, rfl⟩ := Fault.isPostBox_iff.mp hb
      exact .problem p causes
    · exact .bytes b

namespace Device
variable {d : Device} {f : Failure}

theorem isPostBox_openingFailure (hf : f.head.isOs = true) : (d.openingFailure f).head.isPostBox = true := by
  rw [openingFailure_of_isOs hf]
  rfl

theorem isPostBox_transferFailure {offset : Int} (ho : Decimal.Writable offset) (hf : f.head.isOs = true) :
    (d.transferFailure offset f).head.isPostBox = true := by
  rw [transferFailure_of_isOs ho hf]
  rfl

end Device

structure Controller.Plain {σ : Type} (c : Controller σ) (q : Query) (s : σ) : Prop where
  opening : ∀ f, c.Unopened q s f → f.head.isOs = true
  transfer : ∀ f b, c.Replies q s ⟨.error f, b⟩ → f.head.isOs = true
  closing : ∀ f, c.Closes q s (.error f) → f.head.isOs = true

/-- A read is released without a fault if it was opened, and its count of messages can be written. -/
structure Controller.Settles {σ : Type} (c : Controller σ) (q : Query) (s : σ) : Prop where
  closes : ∀ f, ¬ c.Closes q s (.error f)
  countable : ∀ n b, c.Replies q s ⟨.ok n, b⟩ → Decimal.Writable n

namespace Reply

theorem told_verdict_iff {q : Query} {reply : Reply} (hq : q.InRange)
    (hf : ∀ f, reply.completed = .error f → f.head.isOs = true) :
    (∀ f, reply.verdict q = .error f → f.head.isPostBox = true) ↔
      ∀ n, reply.completed = .ok n → Decimal.Writable n := by
  obtain ⟨f | n, b⟩ := reply
  · refine iff_of_true ?_ nofun
    intro g hg
    obtain rfl := Except.error.inj hg
    exact Device.isPostBox_transferFailure hq.offset_writable (hf f rfl)
  · by_cases hn : Decimal.Writable n
    · refine iff_of_true ?_ fun m hm => Except.ok.inj hm ▸ hn
      intro g hg
      rw [verdict_ok hn] at hg
      split_ifs at hg
      obtain rfl := Except.error.inj hg
      rfl
    · refine iff_of_false (fun h => ?_) fun h => hn (h n rfl)
      have := h { head := .refused .tooManyDigits } (by simp only [verdict, hn, if_false])
      cases this

end Reply

namespace Reader
variable {σ : Type} {c : Controller σ} {q : Query} {s : σ}

theorem told_verdict_iff (hq : q.Admitted) (hp : c.Plain q s) :
    (∀ f, (c.course q s).1.verdict q = .error f → f.head.isPostBox = true) ↔ c.Settles q s := by
  obtain ⟨f, h⟩ | ⟨reply, f | u, h, hc⟩ := c.course_cases q s
  · rw [Controller.unopened_iff.mp h]
    refine iff_of_true ?_ ⟨fun g hg => ?_, fun n b hr => absurd h hr.not_unopened⟩
    · intro g hg
      obtain rfl := Except.error.inj hg
      exact Device.isPostBox_openingFailure (hp.opening f h)
    · obtain ⟨reply, hr⟩ := hg.replies
      exact hr.not_unopened h
  · rw [Controller.course_eq_closed_iff.mpr ⟨h, hc⟩]
    -- The fault of the release is all that remains, and it is none of a post-box.
    refine iff_of_false (fun ht => ?_) fun hs => hs.closes f hc
    have := ht f rfl
    rw [Fault.not_isPostBox_of_isOs (hp.closing f hc)] at this
    cases this
  · rw [Controller.course_eq_closed_iff.mpr ⟨h, hc⟩]
    change (∀ f, reply.verdict q = .error f → _) ↔ _
    rw [Reply.told_verdict_iff hq.1 fun f hf => hp.transfer f reply.buffer (hf ▸ h)]
    constructor
    · intro hn
      refine ⟨fun f hf => ?_, fun n b hr => hn n ?_⟩
      · cases hc.unique hf
      · rw [h.unique hr]
    · intro hs n hn
      exact hs.countable n reply.buffer (hn ▸ h)

theorem told_iff (verbose : Bool) (hq : q.Admitted) (hp : c.Plain q s) :
    Told q (Reader.read ⟨c, verbose⟩ q s).1.result ↔ c.Settles q s := by
  rw [read_of_admitted _ hq, told_mapError_iff]
  exact told_verdict_iff hq hp

end Reader

namespace CommandLine

theorem Report.status_ofReading_iff {r : Reading} :
    (∃ code ≤ 1, (ofReading r).status = .ok code) ↔ ∀ f, r.result = .error f → f.head.isPostBox = true := by
  obtain ⟨f | b, notes⟩ := r
  · by_cases hf : f.head.isPostBox
    · simp [ofReading, hf]
    · simp [ofReading, hf]
  · exact iff_of_true ⟨0, by decide, rfl⟩ nofun

section
variable {σ : Type} {argv : List String} {o : Options} {q : Query}

theorem run_eq (controllers : Backend → Controller σ) (hparse : Options.parse argv = .ok o)
    (hquery : o.query? = some q) (s : σ) :
    run controllers argv s =
      (.ofReading (Reader.read ⟨controllers (o.backend.getD .linux), o.verbose⟩ q s).1,
        (Reader.read ⟨controllers (o.backend.getD .linux), o.verbose⟩ q s).2) := by
  simp only [run, hparse, perform, hquery]
  rfl

theorem run_of_query? {controllers : Backend → Controller σ} (hparse : Options.parse argv = .ok o)
    (hquery : o.query? = some q) (s : σ) :
    (run controllers argv s).1 =
      .ofReading (Reader.read ⟨controllers (o.backend.getD .linux), o.verbose⟩ q s).1 :=
  congrArg Prod.fst (run_eq controllers hparse hquery s)

end

end CommandLine

namespace Reader
variable {σ : Type}

end Reader

end SmbusPostBox
