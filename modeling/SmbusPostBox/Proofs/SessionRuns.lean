import SmbusPostBox.Proofs.ReadRuns
import SmbusPostBox.Session

/-! Sessions step by step: the handle and the bench that each step leaves, and the history of what the steps did.
The handle at hand is that of the latest opening that succeeded, closed if a release came after it. -/

namespace SmbusPostBox

namespace Step

def Releases (s : Step) : Prop := s = .release ∨ s = .leave

instance (s : Step) : Decidable s.Releases := inferInstanceAs (Decidable (_ ∨ _))

def Swapped (s s' : Step) : Prop := s = .release ∧ s' = .leave ∨ s = .leave ∧ s' = .release

end Step

structure Event where
  step : Step
  answer : Answer
  calls : List Call
  deriving DecidableEq, Repr

namespace Event

def Opens (e : Event) : Prop := e.answer = .connected

instance (e : Event) : Decidable e.Opens := inferInstanceAs (Decidable (_ = _))

structure Begins (e : Event) : Prop where
  step : e.step = .enter
  answer : e.answer = .vacant ∨ e.answer = .entered
  calls : e.calls = []

structure Swapped (e e' : Event) : Prop where
  step : e.step.Swapped e'.step
  calls : e.calls = e'.calls
  failed : ∀ f, e.answer = .failed f ↔ e'.answer = .failed f

end Event

/-- The latest opening of a history that succeeded, with what came before it and after it. -/
structure Latest (history past : List Event) (o : Opening) (later : List Event) : Prop where
  split : ∃ calls, history = past ++ ⟨.connect o, .connected, calls⟩ :: later
  unopened : ∀ e ∈ later, ¬ e.Opens

/-- Lists of which some elements are replaced, and others stand in one of the two lists only. -/
inductive Edited {α : Type} (Replaced : α → α → Prop) (Extra : α → Prop) : List α → List α → Prop
  | nil : Edited Replaced Extra [] []
  | keep (a : α) {l l' : List α} : Edited Replaced Extra l l' → Edited Replaced Extra (a :: l) (a :: l')
  | replace {a a' : α} {l l' : List α} :
    Replaced a a' → Edited Replaced Extra l l' → Edited Replaced Extra (a :: l) (a' :: l')
  | insert {a : α} {l l' : List α} : Extra a → Edited Replaced Extra l l' → Edited Replaced Extra l (a :: l')
  | delete {a : α} {l l' : List α} : Extra a → Edited Replaced Extra l l' → Edited Replaced Extra (a :: l) l'

def Reply.answer (r : Reply) : Answer :=
  match r.completed with
  | .ok n => .transferred n r.buffer
  | .error f => .transferFailed f r.buffer

namespace Controller

theorem finish_run (c : Controller Bench) (h : c.Handle) (done : Answer) (b : Bench) :
    c.finish h done b =
      ((match (c.release h b).1.1 with
        | .ok () => done
        | .error f => .failed f,
        some (c.release h b).1.2), (c.release h b).2) := by
  simp only [finish, bind_run]
  rcases c.release h b with ⟨⟨f | u, h'⟩, b'⟩ <;> rfl

/-- A release leaves a handle closed, also when it fails, and once more does not matter. -/
structure ClosesBy (c : Controller Bench) (closed : c.Handle → c.Handle) : Prop where
  release : ∀ h b, (c.release h b).1.2 = closed h
  again : ∀ h, closed (closed h) = closed h

structure Scene (c : Controller Bench) where
  handle? : Option c.Handle := none
  bench : Bench

def start (c : Controller Bench) (b : Bench) : c.Scene := { bench := b }

namespace Scene
variable {c : Controller Bench} (x : c.Scene) (s : Step) (ss : List Step)

def event : Event :=
  let out := (Bench.observe (c.step x.handle? s) x.bench).1
  ⟨s, out.1.1, out.2⟩

def next : c.Scene :=
  let out := Bench.observe (c.step x.handle? s) x.bench
  ⟨out.1.1.2, out.2⟩

def after : c.Scene := ss.foldl next x

def history : List Event :=
  List.zipWith (fun s out => ⟨s, out.1, out.2⟩) ss (c.session x.handle? ss x.bench).1

theorem after_nil : x.after [] = x := rfl

theorem after_cons : x.after (s :: ss) = (x.next s).after ss := rfl

theorem after_append (ss' : List Step) : x.after (ss ++ ss') = (x.after ss).after ss' := List.foldl_append

theorem history_cons : x.history (s :: ss) = x.event s :: (x.next s).history ss := rfl

theorem history_append (ss' : List Step) : x.history (ss ++ ss') = x.history ss ++ (x.after ss).history ss' := by
  induction ss generalizing x with
  | nil => rfl
  | cons s ss ih => rw [List.cons_append, history_cons, history_cons, after_cons, ih, List.cons_append]

theorem length_history : (x.history ss).length = ss.length := by
  induction ss generalizing x with
  | nil => rfl
  | cons s ss ih => rw [history_cons, List.length_cons, List.length_cons, ih]

theorem snd_session : (c.session x.handle? ss x.bench).2 = (x.after ss).bench := by
  induction ss generalizing x with
  | nil => rfl
  | cons s ss ih => exact ih (x.next s)

theorem snd_session_start (b : Bench) : (c.session none ss b).2 = ((c.start b).after ss).bench :=
  snd_session (c.start b) ss

theorem snd_session_append (b : Bench) :
    (c.session none (ss ++ [s]) b).2 = (((c.start b).after ss).next s).bench := by
  rw [snd_session_start, after_append, after_cons, after_nil]

theorem getElem?_history (ss' : List Step) :
    (x.history (ss ++ s :: ss'))[ss.length]? = some ((x.after ss).event s) := by
  have hlength := x.length_history ss
  rw [history_append, history_cons, List.getElem?_append_right (Nat.le_of_eq hlength), hlength, Nat.sub_self,
    List.getElem?_cons_zero]

theorem exists_of_history_eq {past later : List Event} {e : Event} (h : x.history ss = past ++ e :: later) :
    let before := ss.take past.length
    ∃ s rest, ss = before ++ s :: rest ∧ x.history before = past ∧ (x.after before).event s = e ∧
      ((x.after before).next s).history rest = later := by
  intro before
  have hlength : past.length < ss.length := by
    rw [← x.length_history ss, h, List.length_append, List.length_cons]
    omega
  have hsplit : ss = before ++ ss[past.length] :: ss.drop (past.length + 1) := by
    rw [← List.drop_eq_getElem_cons hlength, List.take_append_drop]
  refine ⟨_, _, hsplit, ?_⟩
  rw [hsplit, history_append, history_cons] at h
  have htaken : (x.history before).length = past.length := by
    rw [length_history, List.length_take_of_le (Nat.le_of_lt hlength)]
  obtain ⟨hpast, hrest⟩ := List.append_inj h htaken
  obtain ⟨hevent, hlater⟩ := List.cons.inj hrest
  exact ⟨hpast, hevent, hlater⟩

/-! ### Steps -/

/-- All that a step can come to: its answer, the handle at hand afterwards, and the bench with the calls of the
step alone. -/
inductive Takes : Step → Answer → Option c.Handle → Bench → Prop
  | opened {o : Opening} {h : c.Handle} {b : Bench} (hc : c.connect o x.bench.unlogged = (.ok h, b)) :
    Takes (.connect o) .connected (some h) b
  | unopened {o : Opening} {f : Failure} {b : Bench} (hc : c.connect o x.bench.unlogged = (.error f, b)) :
    Takes (.connect o) (.failed f) x.handle? b
  | vacant {s : Step} (hs : ∀ o, s ≠ .connect o) (hx : x.handle? = none) :
    Takes s .vacant x.handle? x.bench.unlogged
  | transferred {h : c.Handle} {address n : Int} {write buffer filled : Bytes} {b : Bench} (hx : x.handle? = some h)
    (ht : c.transfer h address write buffer x.bench.unlogged = (⟨.ok n, filled⟩, b)) :
    Takes (.transfer address write buffer) (.transferred n filled) x.handle? b
  | untransferred {h : c.Handle} {address : Int} {write buffer left : Bytes} {f : Failure} {b : Bench}
    (hx : x.handle? = some h) (ht : c.transfer h address write buffer x.bench.unlogged = (⟨.error f, left⟩, b)) :
    Takes (.transfer address write buffer) (.transferFailed f left) x.handle? b
  | released {h h' : c.Handle} {b : Bench} (hx : x.handle? = some h)
    (hr : c.release h x.bench.unlogged = ((.ok (), h'), b)) : Takes .release .released (some h') b
  | left {h h' : c.Handle} {b : Bench} (hx : x.handle? = some h)
    (hr : c.release h x.bench.unlogged = ((.ok (), h'), b)) : Takes .leave .left (some h') b
  | unreleased {s : Step} {h h' : c.Handle} {f : Failure} {b : Bench} (hs : s.Releases) (hx : x.handle? = some h)
    (hr : c.release h x.bench.unlogged = ((.error f, h'), b)) : Takes s (.failed f) (some h') b
  | entered {h : c.Handle} (hx : x.handle? = some h) : Takes .enter .entered x.handle? x.bench.unlogged

theorem takes_step :
    let out := c.step x.handle? s x.bench.unlogged
    x.Takes s out.1.1 out.1.2 out.2 := by
  obtain ⟨h?, b⟩ := x
  cases s with
  | connect o =>
    rcases hc : c.connect o b.unlogged with ⟨f | h, b'⟩
    · simp only [step, bind_run, hc]
      exact .unopened hc
    · simp only [step, bind_run, hc]
      exact .opened hc
  | transfer address write buffer =>
    rcases h? with _ | h
    · exact .vacant nofun rfl
    · rcases ht : c.transfer h address write buffer b.unlogged with ⟨⟨f | n, filled⟩, b'⟩
      · simp only [step, bind_run, ht]
        exact .untransferred rfl ht
      · simp only [step, bind_run, ht]
        exact .transferred rfl ht
  | release =>
    rcases h? with _ | h
    · exact .vacant nofun rfl
    · rcases hr : c.release h b.unlogged with ⟨⟨f | u, h'⟩, b'⟩
      · simp only [step, finish, bind_run, hr]
        exact .unreleased (.inl rfl) rfl hr
      · simp only [step, finish, bind_run, hr]
        exact .released rfl hr
  | enter =>
    rcases h? with _ | h
    · exact .vacant nofun rfl
    · exact .entered rfl
  | leave =>
    rcases h? with _ | h
    · exact .vacant nofun rfl
    · rcases hr : c.release h b.unlogged with ⟨⟨f | u, h'⟩, b'⟩
      · simp only [step, finish, bind_run, hr]
        exact .unreleased (.inr rfl) rfl hr
      · simp only [step, finish, bind_run, hr]
        exact .left rfl hr

theorem exists_takes :
    ∃ answer h? b, x.Takes s answer h? b ∧ x.event s = ⟨s, answer, b.calls⟩ ∧
      x.next s = ⟨h?, { b with calls := x.bench.calls ++ b.calls }⟩ :=
  ⟨_, _, _, x.takes_step s, rfl, rfl⟩

section
variable {x s ss} {h : c.Handle}

theorem exists_handle_of_opens (ho : (x.event s).Opens) :
    ∃ o h b, s = .connect o ∧ c.connect o x.bench.unlogged = (.ok h, b) ∧
      x.next s = ⟨some h, { b with calls := x.bench.calls ++ b.calls }⟩ := by
  obtain ⟨answer, h?, b, ht, he, hn⟩ := x.exists_takes s
  obtain rfl : answer = .connected := by rwa [he] at ho
  cases ht with
  | opened hc => exact ⟨_, _, _, rfl, hc, hn⟩

theorem handle?_next_of_not (ho : ¬ (x.event s).Opens) (hs : ¬ s.Releases) : (x.next s).handle? = x.handle? := by
  obtain ⟨answer, h?, b, ht, he, hn⟩ := x.exists_takes s
  rw [he] at ho
  rw [hn]
  cases ht with
  | opened => exact absurd rfl ho
  | released => exact absurd (.inl rfl) hs
  | left => exact absurd (.inr rfl) hs
  | unreleased h => exact absurd h hs
  | unopened | vacant | transferred | untransferred | entered => rfl

theorem handle?_next_of_releases {closed : c.Handle → c.Handle} (hc : c.ClosesBy closed) (hx : x.handle? = some h)
    (hs : s.Releases) : (x.next s).handle? = some (closed h) := by
  obtain ⟨answer, h?, b, ht, he, hn⟩ := x.exists_takes s
  have hclosed {g g' : c.Handle} {closing : Except Failure Unit} {b' : Bench} (hg : x.handle? = some g)
      (hr : c.release g x.bench.unlogged = ((closing, g'), b')) : some g' = some (closed h) := by
    obtain rfl := Option.some.inj (hx.symm.trans hg)
    rw [← hc.release h x.bench.unlogged, hr]
  rw [hn]
  cases ht with
  | released hg hr => exact hclosed hg hr
  | left hg hr => exact hclosed hg hr
  | unreleased _ hg hr => exact hclosed hg hr
  | vacant _ hnone => cases hnone.symm.trans hx
  | opened | unopened | transferred | untransferred | entered => rcases hs with ⟨⟨⟩⟩ | ⟨⟨⟩⟩

theorem event_transfer {address : Int} {write buffer : Bytes} {reply : Reply} {b : Bench}
    (hx : x.handle? = some h) (hr : c.transfer h address write buffer x.bench.unlogged = (reply, b)) :
    x.event (.transfer address write buffer) = ⟨.transfer address write buffer, reply.answer, b.calls⟩ := by
  simp only [event, Bench.observe_run, hx, step, bind_run, hr, Reply.answer]
  rcases reply.completed with f | n <;> rfl

theorem bench_next_transfer {address : Int} {write buffer : Bytes} {reply : Reply} {b : Bench}
    (hx : x.handle? = some h) (hr : c.transfer h address write buffer x.bench.unlogged = (reply, b)) :
    (x.next (.transfer address write buffer)).bench = { b with calls := x.bench.calls ++ b.calls } := by
  simp only [next, Bench.observe_run, hx, step, bind_run, hr]
  rcases reply.completed with f | n <;> rfl

end

/-! ### Runs -/

section
variable {x ss} {h : c.Handle}

theorem handle?_after_of_kept (hx : x.handle? = some h) (ho : ∀ e ∈ x.history ss, ¬ e.Opens)
    (hs : ∀ e ∈ x.history ss, ¬ e.step.Releases) : (x.after ss).handle? = some h := by
  induction ss generalizing x with
  | nil => exact hx
  | cons s ss ih =>
    rw [history_cons, List.forall_mem_cons] at ho hs
    rw [after_cons]
    exact ih ((handle?_next_of_not ho.1 hs.1).trans hx) ho.2 hs.2

theorem handle?_after_of_released {closed : c.Handle → c.Handle} (hc : c.ClosesBy closed)
    (hx : x.handle? = some h) (ho : ∀ e ∈ x.history ss, ¬ e.Opens)
    (hs : ∃ e ∈ x.history ss, e.step.Releases) : (x.after ss).handle? = some (closed h) := by
  induction ss generalizing x h with
  | nil =>
    obtain ⟨e, he, -⟩ := hs
    cases he
  | cons s ss ih =>
    rw [history_cons] at ho hs
    obtain ⟨ho, hos⟩ := List.forall_mem_cons.mp ho
    rw [after_cons]
    by_cases hr : s.Releases
    · have hnext : (x.next s).handle? = some (closed h) := handle?_next_of_releases hc hx hr
      -- A handle that is closed stays so, however often it is released from here on.
      by_cases hmore : ∃ e ∈ (x.next s).history ss, e.step.Releases
      · rw [ih hnext hos hmore, hc.again]
      · exact handle?_after_of_kept hnext hos fun e he hre => hmore ⟨e, he, hre⟩
    · have hmore : ∃ e ∈ (x.next s).history ss, e.step.Releases := by
        obtain ⟨e, he, hre⟩ := hs
        rcases List.mem_cons.mp he with rfl | he
        · exact absurd hre hr
        · exact ⟨e, he, hre⟩
      exact ih ((handle?_next_of_not ho hr).trans hx) hos hmore

theorem exists_handle_of_latest {past later : List Event} {o : Opening} {closed : c.Handle → c.Handle}
    (hc : c.ClosesBy closed) (hl : Latest (x.history ss) past o later) :
    x.history (ss.take past.length) = past ∧
      ∃ h b, c.connect o (x.after (ss.take past.length)).bench.unlogged = (.ok h, b) ∧
        ((∀ e ∈ later, ¬ e.step.Releases) → (x.after ss).handle? = some h) ∧
        ((∃ e ∈ later, e.step.Releases) → (x.after ss).handle? = some (closed h)) := by
  obtain ⟨⟨calls, hsplit⟩, ho⟩ := hl
  obtain ⟨s, rest, hss, hpast, he, rfl⟩ := x.exists_of_history_eq ss hsplit
  obtain ⟨_, h, b, rfl, hopened, hnext⟩ := exists_handle_of_opens (congrArg Event.answer he)
  obtain ⟨⟩ : Step.connect _ = .connect o := congrArg Event.step he
  refine ⟨hpast, h, b, hopened, ?_⟩
  -- What came later starts from the handle that the opening yielded, and opened nothing.
  have hhandle := congrArg Scene.handle? hnext
  have hafter := congrArg x.after hss
  rw [after_append, after_cons] at hafter
  rw [hafter]
  exact ⟨handle?_after_of_kept hhandle ho, handle?_after_of_released hc hhandle ho⟩

end

/-! ### Edited sessions -/

theorem next_enter : x.next .enter = x := by
  obtain ⟨_ | h, b⟩ := x <;> simp only [next, Bench.observe_run, step, pure_run, Bench.unlogged, List.append_nil]

theorem begins_enter : (x.event .enter).Begins := by
  obtain ⟨_ | h, b⟩ := x
  · exact ⟨rfl, .inl rfl, rfl⟩
  · exact ⟨rfl, .inr rfl, rfl⟩

theorem next_leave : x.next .leave = x.next .release := by
  obtain ⟨_ | h, b⟩ := x
  · rfl
  · simp only [next, Bench.observe_run, step, finish_run]

theorem event_leave :
    (x.event .leave).calls = (x.event .release).calls ∧
      ∀ f, (x.event .leave).answer = .failed f ↔ (x.event .release).answer = .failed f := by
  obtain ⟨_ | h, b⟩ := x
  · exact ⟨rfl, fun f => Iff.rfl⟩
  · simp only [event, Bench.observe_run, step, finish_run]
    refine ⟨trivial, ?_⟩
    rcases (c.release h b.unlogged).1.1 with f | u
    · exact fun g => Iff.rfl
    · exact fun g => iff_of_false nofun nofun

/-- What ends a scope may stand for a release and the other way around, and a scope may begin anywhere. -/
theorem edited_history {ss ss' : List Step} (h : Edited Step.Swapped (· = .enter) ss ss') :
    Edited Event.Swapped Event.Begins (x.history ss) (x.history ss') := by
  induction h generalizing x with
  | nil => exact .nil
  | keep s _ ih =>
    rw [history_cons, history_cons]
    exact .keep _ (ih _)
  | replace hs _ ih =>
    obtain ⟨hcalls, hfailed⟩ := x.event_leave
    rw [history_cons, history_cons]
    obtain ⟨rfl, rfl⟩ | ⟨rfl, rfl⟩ := hs
    · refine .replace ⟨.inl ⟨rfl, rfl⟩, hcalls.symm, fun f => (hfailed f).symm⟩ ?_
      rw [next_leave]
      exact ih _
    · refine .replace ⟨.inr ⟨rfl, rfl⟩, hcalls, hfailed⟩ ?_
      rw [next_leave]
      exact ih _
  | insert hs _ ih =>
    subst hs
    rw [history_cons, next_enter]
    exact .insert x.begins_enter (ih x)
  | delete hs _ ih =>
    subst hs
    rw [history_cons, next_enter]
    exact .delete x.begins_enter (ih x)

end Scene

end Controller

end SmbusPostBox
