import SmbusPostBox.Proofs.QueryAdmission
import SmbusPostBox.Reader

/-! The course that an admitted read takes on the hardware: an opening, one transfer if that succeeds, and a
release. What the reader makes of the course does not act on the hardware any more. -/

namespace SmbusPostBox
open Text

theorem bind_run {σ α β : Type} (x : StateM σ α) (f : α → StateM σ β) (s : σ) :
    (x >>= f) s = f (x s).1 (x s).2 := rfl

theorem pure_run {σ α : Type} (a : α) (s : σ) : (pure a : StateM σ α) s = (a, s) := rfl

/-- What befell a read, in the hardware's own words. -/
inductive Course
  | unopened (f : Failure)
  | closed (reply : Reply) (closing : Except Failure Unit)

namespace Controller
variable {σ : Type} (c : Controller σ) (q : Query) (s : σ)

def course : Course × σ :=
  match c.connect { bus := q.bus } s with
  | (.error f, s) => (.unopened f, s)
  | (.ok h, s) =>
    let sent := c.transfer h q.address (Offset.bytes q.request.offset) (List.replicate q.size.toNat 0) s
    let released := c.release h sent.2
    (.closed sent.1 released.1.1, released.2)

def Unopened (f : Failure) : Prop := (c.connect { bus := q.bus } s).1 = .error f

def Opened (h : c.Handle) : Prop := (c.connect { bus := q.bus } s).1 = .ok h

/-- The one transfer of a read, which sends the offset and starts from `size` zeros, leaves `reply`. -/
def Replies (reply : Reply) : Prop :=
  ∃ h s', c.connect { bus := q.bus } s = (.ok h, s') ∧
    (c.transfer h q.address (Offset.bytes q.request.offset) (List.replicate q.size.toNat 0) s').1 = reply

def Closes (closing : Except Failure Unit) : Prop :=
  ∃ h s', c.connect { bus := q.bus } s = (.ok h, s') ∧
    (c.release h (c.transfer h q.address (Offset.bytes q.request.offset)
      (List.replicate q.size.toNat 0) s').2).1.1 = closing

variable {c q s}

theorem unopened_or_opened (c : Controller σ) (q : Query) (s : σ) :
    (∃ f, c.Unopened q s f) ∨ ∃ h, c.Opened q s h := by
  unfold Unopened Opened
  rcases (c.connect { bus := q.bus } s).1 with f | h
  · exact .inl ⟨f, rfl⟩
  · exact .inr ⟨h, rfl⟩

theorem unopened_iff {f : Failure} : c.Unopened q s f ↔ (c.course q s).1 = .unopened f := by
  unfold Unopened course
  rcases c.connect { bus := q.bus } s with ⟨_ | h, s'⟩ <;> simp

theorem course_eq_closed_iff {reply : Reply} {closing : Except Failure Unit} :
    (c.course q s).1 = .closed reply closing ↔ c.Replies q s reply ∧ c.Closes q s closing := by
  unfold Replies Closes course
  rcases c.connect { bus := q.bus } s with ⟨f | h, s'⟩
  · constructor
    · rintro ⟨⟩
    · rintro ⟨⟨_, _, ⟨⟩, -⟩, -⟩
  · constructor
    · rintro ⟨⟩
      exact ⟨⟨h, s', rfl, rfl⟩, h, s', rfl, rfl⟩
    · rintro ⟨⟨_, _, ⟨⟩, rfl⟩, _, _, ⟨⟩, rfl⟩
      rfl

theorem course_cases (c : Controller σ) (q : Query) (s : σ) :
    (∃ f, c.Unopened q s f) ∨ ∃ reply closing, c.Replies q s reply ∧ c.Closes q s closing := by
  rcases h : (c.course q s).1 with f | ⟨reply, closing⟩
  · exact .inl ⟨f, unopened_iff.mpr h⟩
  · exact .inr ⟨reply, closing, course_eq_closed_iff.mp h⟩

theorem Replies.unique {reply reply' : Reply} (h : c.Replies q s reply) (h' : c.Replies q s reply') :
    reply = reply' := by
  obtain ⟨_, _, hc, rfl⟩ := h
  obtain ⟨_, _, hc', rfl⟩ := h'
  obtain ⟨⟨⟩, rfl⟩ := Prod.mk.inj (hc.symm.trans hc')
  rfl

theorem Closes.unique {x x' : Except Failure Unit} (h : c.Closes q s x) (h' : c.Closes q s x') : x = x' := by
  obtain ⟨_, _, hc, rfl⟩ := h
  obtain ⟨_, _, hc', rfl⟩ := h'
  obtain ⟨⟨⟩, rfl⟩ := Prod.mk.inj (hc.symm.trans hc')
  rfl

theorem Replies.not_unopened {reply : Reply} {f : Failure} (h : c.Replies q s reply) :
    ¬ c.Unopened q s f := by
  obtain ⟨_, _, hc, -⟩ := h
  simp [Unopened, hc]

theorem Replies.closes {reply : Reply} (h : c.Replies q s reply) : ∃ closing, c.Closes q s closing := by
  obtain ⟨h, s', hc, -⟩ := h
  exact ⟨_, h, s', hc, rfl⟩

theorem Closes.replies {closing : Except Failure Unit} (h : c.Closes q s closing) :
    ∃ reply, c.Replies q s reply := by
  obtain ⟨h, s', hc, -⟩ := h
  exact ⟨_, h, s', hc, rfl⟩

end Controller

namespace Reply

def verdict (reply : Reply) (q : Query) : Except Failure Bytes :=
  match reply.completed with
  | .error f => .error (q.device.transferFailure q.offset f)
  | .ok n =>
    if Decimal.Writable n then
      ({ completed := n } : Outcome).validate.map fun _ => reply.buffer
    else .error { head := .refused .tooManyDigits }

end Reply

namespace Course

def verdict (q : Query) : Course → Except Failure Bytes
  | unopened f => .error (q.device.openingFailure f)
  | closed _ (.error f) => .error f
  | closed reply (.ok ()) => reply.verdict q

end Course

namespace Reader
variable {σ : Type} (r : Reader σ) {q : Query} {s : σ}

def transferNotes (q : Query) (reply : Reply) : List String :=
  r.note q.device ("offset +" ++ Decimal.text q.offset ++ " -> " ++ Hex.ofBytes (Offset.bytes q.request.offset)) ++
    match reply.completed with
    | .error _ => []
    | .ok n =>
      if Decimal.Writable n then r.note q.device (Decimal.text n ++ "/" ++ Decimal.text 2 ++ " messages") else []

def courseNotes (q : Query) : Course → List String
  | .unopened _ => []
  | .closed reply _ => r.transferNotes q reply

theorem exchange_eq (hq : q.InRange) (h : r.controller.Handle) :
    r.exchange h q.device q.request s =
      let sent := r.controller.transfer h q.address (Offset.bytes q.request.offset)
        (List.replicate q.size.toNat 0) s
      (⟨sent.1.verdict q, r.transferNotes q sent.1⟩, sent.2) := by
  have hs : q.request.size = q.size.toNat := rfl
  -- The failure names the offset that the address bytes write, which is the one asked for.
  simp only [exchange, Controller.execute, hq.address_toNat, Offset.value_bytes, hq.offset_toNat, hs]
  generalize r.controller.transfer h q.address (Offset.bytes q.request.offset)
    (List.replicate q.size.toNat 0) = t
  simp only [bind_run]
  rcases t s with ⟨⟨f | n, buffer⟩, s'⟩
  · simp only [pure_run, Reply.verdict, transferNotes, List.append_nil]
  · by_cases hn : Decimal.Writable n
    · simp only [pure_run, Reply.verdict, transferNotes, hn, if_true]
    · simp only [pure_run, Reply.verdict, transferNotes, hn, if_false, List.append_nil]

theorem fetch_of_admitted (hq : q.Admitted) :
    r.fetch q.device q.request s =
      (⟨(r.controller.course q s).1.verdict q, r.courseNotes q (r.controller.course q s).1⟩,
        (r.controller.course q s).2) := by
  simp only [fetch, Nat.not_lt.mpr hq.size_le, if_false, hq.1.bus_toNat, Controller.course, bind_run]
  rcases r.controller.connect { bus := q.bus } s with ⟨f | h, s'⟩
  · rfl
  · simp only [bind_run, exchange_eq r hq.1]
    rcases r.controller.release h _ with ⟨⟨f | u, _⟩, s''⟩ <;> rfl

theorem read_of_admitted (hq : q.Admitted) :
    r.read q s =
      (⟨((r.controller.course q s).1.verdict q).mapError (·.inContext q.context),
        r.courseNotes q (r.controller.course q s).1⟩, (r.controller.course q s).2) := by
  simp only [read, Query.check_of_inRange hq.1, bind_run, pure_run, fetch_of_admitted r hq,
    hq.1.context_request]

theorem read_of_oversize (hq : q.InRange) (hs : 8 < q.size) :
    r.read q s =
      (⟨.error (Failure.inContext q.context
        { head := .writing [q.size] (.postBox (.sizeBounds q.size 8) none) }), []⟩, s) := by
  have hm : Request.maxSize < q.request.size := by
    have := hq.size_toNat
    simp only [Request.maxSize]
    omega
  simp only [read, Query.check_of_inRange hq, fetch, hm, if_true, bind_run, pure_run, hq.context_request,
    hq.size_toNat]
  rfl

theorem read_of_refusals {why : Refusal} (h : q.refusals.head? = some why) :
    ∃ n ∈ [q.bus, q.address, q.offset, q.size], r.read q s = (⟨.error (.refusing n why), []⟩, s) := by
  obtain ⟨n, hn, hc⟩ := Query.check_of_refusals h
  refine ⟨n, hn, ?_⟩
  simp only [read, hc, pure_run]

theorem read_of_not_admitted (hq : ¬ q.Admitted) : ∃ f, r.read q s = (⟨.error f, []⟩, s) := by
  by_cases hr : q.InRange
  · exact ⟨_, read_of_oversize r hr (by simpa [Query.Admitted, hr] using hq)⟩
  · obtain ⟨why, hw⟩ : ∃ why, q.refusals.head? = some why := by
      rw [Query.inRange_iff_refusals_eq_nil] at hr
      exact ⟨_, List.head?_eq_some_head hr⟩
    obtain ⟨n, -, h⟩ := read_of_refusals r hw
    exact ⟨_, h⟩

theorem reading_of_not_admitted {τ : Type} (r : Reader σ) (r' : Reader τ) (s : σ) (t : τ) (hq : ¬ q.Admitted) :
    (r.read q s).1 = (r'.read q t).1 := by
  by_cases hrange : q.InRange
  · have hs : 8 < q.size := Int.not_le.mp fun hs => hq ⟨hrange, hs⟩
    rw [r.read_of_oversize hrange hs, r'.read_of_oversize hrange hs]
  · rw [Query.inRange_iff_refusals_eq_nil] at hrange
    obtain ⟨n, -, hcheck⟩ := Query.check_of_refusals (List.head?_eq_some_head hrange)
    simp only [read, hcheck, pure_run]

end Reader

end SmbusPostBox
