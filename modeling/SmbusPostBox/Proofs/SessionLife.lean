import SmbusPostBox.Proofs.AdapterTransfers
import SmbusPostBox.Proofs.SessionRuns

/-! The life of a bus over a session. A transfer uses what the latest opening yielded, and fails without touching
its buffer once that was released. -/

namespace SmbusPostBox
open Controller

namespace Call

def timeout? : Call → Option Int
  | write _ _ _ timeout | read _ _ _ timeout => some timeout
  | _ => none

end Call

namespace Bench

/-! ### Nodes -/

section
variable {b : Bench} (address : Int) (write buffer : Bytes)

theorem linux_transfer_run_of_system (hg : b.gate = .system) :
    linux.transfer (⟨none⟩ : Node) address write buffer b = (⟨.error badDescriptor, buffer⟩,
      { b with calls := b.calls ++ [combinedCall none address write buffer.length] }) := by
  simp only [linux, bind_run, get_run, log_run, Option.isNone_none, hg, reduceCtorEq, and_false, if_false, if_true]
  rfl

theorem linux_transfer_run_of_library (hg : b.gate = .library) :
    linux.transfer (⟨none⟩ : Node) address write buffer b = (⟨.error noDescriptor, buffer⟩, b) := by
  simp only [linux, bind_run, get_run, Option.isNone_none, hg, and_self, if_true]
  rfl

theorem exists_linux_transfer_run_of_closed (b : Bench) :
    ∃ f calls, linux.transfer (⟨none⟩ : Node) address write buffer b =
        (⟨.error f, buffer⟩, { b with calls := b.calls ++ calls }) ∧
      (b.gate = .system → f = badDescriptor ∧ calls = [combinedCall none address write buffer.length]) ∧
      (b.gate = .library → f = noDescriptor ∧ calls = []) := by
  have hgate : b.gate = .library ∨ b.gate = .system := by cases b.gate <;> decide
  obtain hg | hg := hgate
  · refine ⟨_, [], ?_, fun hs => absurd (hs.symm.trans hg) (by decide), fun _ => ⟨rfl, rfl⟩⟩
    rw [linux_transfer_run_of_library address write buffer hg, List.append_nil]
  · exact ⟨_, _, linux_transfer_run_of_system address write buffer hg, fun _ => ⟨rfl, rfl⟩,
      fun hl => absurd (hg.symm.trans hl) (by decide)⟩

end

theorem linux_connect_cases (o : Opening) (b : Bench) :
    (∃ f, (linux.connect o b).1 = .error f ∧ (linux.connect o b).2.descriptors = b.descriptors) ∨
      (linux.connect o b).1 = .ok (⟨some (101 + b.descriptors)⟩ : Node) ∧
        (linux.connect o b).2.descriptors = b.descriptors + 1 := by
  rw [linux_connect_run]
  rcases b.openFault with _ | f
  · exact .inr ⟨rfl, rfl⟩
  · exact .inl ⟨f, rfl, rfl⟩

theorem linux_connect_unlogged (o : Opening) (b : Bench) :
    (linux.connect o b.unlogged).1 = (linux.connect o b).1 := by
  have hf : b.unlogged.openFault = b.openFault := rfl
  rw [linux_connect_run, linux_connect_run, hf]
  rcases b.openFault with _ | f <;> rfl

theorem exists_bench_linux_transfer (n : Node) (address : Int) (write buffer : Bytes) (b : Bench) :
    ∃ transfers calls, (linux.transfer n address write buffer b).2 = { b with transfers, calls } := by
  obtain ⟨_ | fd⟩ := n
  · obtain ⟨f, calls, hrun, -⟩ := exists_linux_transfer_run_of_closed address write buffer b
    exact ⟨_, _, congrArg Prod.snd hrun⟩
  · exact ⟨_, _, congrArg Prod.snd (linux_transfer_run b fd address write buffer)⟩

theorem descriptors_transfer (n : Node) (address : Int) (write buffer : Bytes) (b : Bench) :
    (linux.transfer n address write buffer b).2.descriptors = b.descriptors := by
  obtain ⟨transfers, calls, hrun⟩ := exists_bench_linux_transfer n address write buffer b
  rw [hrun]

theorem descriptors_release (n : Node) (b : Bench) : (linux.release n b).2.descriptors = b.descriptors := by
  rw [linux_release_run]

theorem gate_connect (o : Opening) (b : Bench) : (linux.connect o b).2.gate = b.gate := by
  rw [linux_connect_run]
  rcases b.openFault with _ | f <;> rfl

theorem gate_transfer (n : Node) (address : Int) (write buffer : Bytes) (b : Bench) :
    (linux.transfer n address write buffer b).2.gate = b.gate := by
  obtain ⟨transfers, calls, hrun⟩ := exists_bench_linux_transfer n address write buffer b
  rw [hrun]

theorem gate_release (n : Node) (b : Bench) : (linux.release n b).2.gate = b.gate := by
  rw [linux_release_run]

theorem linux_closesBy : linux.ClosesBy fun _ => (⟨none⟩ : Node) where
  release n b := congrArg (fun out => out.1.2) (linux_release_run b n)
  again _ := rfl

section
variable (x : linux.Scene) (s : Step) (ss : List Step)

theorem descriptors_next :
    (x.next s).bench.descriptors = x.bench.descriptors + if (x.event s).Opens then 1 else 0 := by
  obtain ⟨answer, h?, b, ht, he, hn⟩ := x.exists_takes s
  rw [he, hn]
  change b.descriptors = x.bench.unlogged.descriptors + _
  cases ht with
  | @opened o h _ hc =>
    obtain ⟨f, hf, -⟩ | ⟨-, hd⟩ := linux_connect_cases o x.bench.unlogged
    · cases hf.symm.trans (congrArg Prod.fst hc)
    · rwa [hc] at hd
  | @unopened o f _ hc =>
    obtain ⟨f, -, hd⟩ | ⟨hn, -⟩ := linux_connect_cases o x.bench.unlogged
    · rwa [hc] at hd
    · cases hn.symm.trans (congrArg Prod.fst hc)
  | transferred _ ht | untransferred _ ht =>
    exact (congrArg (·.2.descriptors) ht).symm.trans (descriptors_transfer ..)
  | released _ hr | left _ hr | unreleased _ _ hr =>
    exact (congrArg (·.2.descriptors) hr).symm.trans (descriptors_release ..)
  | vacant | entered => rfl

theorem descriptors_after :
    (x.after ss).bench.descriptors = x.bench.descriptors + (x.history ss).countP (Event.Opens ·) := by
  induction ss generalizing x with
  | nil => rfl
  | cons s ss ih =>
    rw [Scene.after_cons, ih, descriptors_next, Scene.history_cons, List.countP_cons]
    simp only [decide_eq_true_eq]
    omega

theorem gate_next : (x.next s).bench.gate = x.bench.gate := by
  obtain ⟨answer, h?, b, ht, -, hn⟩ := x.exists_takes s
  rw [hn]
  change b.gate = x.bench.unlogged.gate
  cases ht with
  | opened hc | unopened hc => exact (congrArg (·.2.gate) hc).symm.trans (gate_connect ..)
  | transferred _ ht | untransferred _ ht => exact (congrArg (·.2.gate) ht).symm.trans (gate_transfer ..)
  | released _ hr | left _ hr | unreleased _ _ hr => exact (congrArg (·.2.gate) hr).symm.trans (gate_release ..)
  | vacant | entered => rfl

theorem gate_after : (x.after ss).bench.gate = x.bench.gate := by
  induction ss generalizing x with
  | nil => rfl
  | cons s ss ih => rw [Scene.after_cons, ih, gate_next]

end

/-- A transfer to a node, after the steps `before` whose latest opening was `o`. -/
structure NodeTransfer (b : Bench) (before : List Step) (past : List Event) (o : Opening) (later : List Event)
    (address : Int) (write buffer : Bytes) (e : Event) : Prop where
  /-- Nothing but the call is left on the bench, if it gets as far as the system. It bears no descriptor. -/
  released : (∃ e ∈ later, e.step.Releases) →
    (b.gate = .system → e.answer = .transferFailed badDescriptor buffer ∧
      e.calls = [combinedCall none address write buffer.length]) ∧
    (b.gate = .library → e.answer = .transferFailed noDescriptor buffer ∧ e.calls = []) ∧
    (linux.session none (before ++ [.transfer address write buffer]) b).2 =
      { (linux.session none before b).2 with calls := (linux.session none before b).2.calls ++ e.calls }
  held : (∀ e ∈ later, ¬ e.step.Releases) → ∃ d,
    (linux.connect o (linux.session none (before.take past.length) b).2).1 = .ok (⟨some d⟩ : Node) ∧
    d = 101 + b.descriptors + past.countP (Event.Opens ·) ∧
    e.calls = [combinedCall (some d) address write buffer.length]

theorem nodeTransfer_of_latest {before : List Step} {past later : List Event} {o : Opening} {b : Bench}
    (hl : Latest ((linux.start b).history before) past o later) (address : Int) (write buffer : Bytes) :
    NodeTransfer b before past o later address write buffer
      (((linux.start b).after before).event (.transfer address write buffer)) := by
  obtain ⟨hpast, n, b', hopened, hheld, hreleased⟩ := Scene.exists_handle_of_latest linux_closesBy hl
  constructor
  · intro hr
    have hx := hreleased hr
    have hgate : ((linux.start b).after before).bench.unlogged.gate = b.gate := gate_after (linux.start b) before
    obtain ⟨f, calls, hrun, hsystem, hlibrary⟩ :=
      exists_linux_transfer_run_of_closed address write buffer ((linux.start b).after before).bench.unlogged
    rw [hgate] at hsystem hlibrary
    rw [Scene.event_transfer hx hrun, Scene.snd_session_append, Scene.snd_session_start,
      Scene.bench_next_transfer hx hrun]
    refine ⟨fun hg => ?_, fun hg => ?_, rfl⟩
    · obtain ⟨rfl, rfl⟩ := hsystem hg
      exact ⟨rfl, rfl⟩
    · obtain ⟨rfl, rfl⟩ := hlibrary hg
      exact ⟨rfl, rfl⟩
  · intro hr
    have hx := hheld hr
    -- The opening itself says which descriptor it gave out, and those before it how many were given out by then.
    obtain ⟨f, hf, -⟩ | ⟨hn, -⟩ :=
      linux_connect_cases o ((linux.start b).after (before.take past.length)).bench.unlogged
    · cases hf.symm.trans (congrArg Prod.fst hopened)
    · obtain rfl : (⟨some _⟩ : Node) = n := Except.ok.inj (hn.symm.trans (congrArg Prod.fst hopened))
      refine ⟨101 + ((linux.start b).after (before.take past.length)).bench.descriptors, ?_, ?_, ?_⟩
      · rw [Scene.snd_session_start, ← linux_connect_unlogged]
        exact hn
      · rw [descriptors_after, hpast, ← Nat.add_assoc]
        rfl
      · rw [Scene.event_transfer hx (linux_transfer_run _ _ address write buffer)]
        rfl

/-! ### Adapters -/

namespace Adapter

theorem transfer_run_of_detached (timeout address : Int) (data buffer : Bytes) (b : Bench) :
    Adapter.transfer ⟨false, timeout⟩ address data buffer b =
      (⟨.error (if address ≤ 0x7F then { head := .detached } else sevenBitsOnly address), buffer⟩, b) := by
  by_cases ha : 0x7F < address
  · rw [transfer_run_of_lt b _ ha, if_neg (Int.not_le.mpr ha)]
  · rw [if_pos (Int.not_lt.mp ha)]
    simp only [transfer, ha, if_false]
    rfl

theorem timeout?_of_mem_transferCalls {e : Exchange} {address timeout : Int} {data : Bytes} {size : Nat}
    {call : Call} (h : call ∈ transferCalls e address data size timeout) : call.timeout? = some timeout := by
  unfold transferCalls at h
  split_ifs at h
  · obtain rfl := List.mem_singleton.mp h
    rfl
  · split at h
    · obtain rfl := List.mem_singleton.mp h
      rfl
    · obtain rfl | h := List.mem_cons.mp h
      · rfl
      · obtain rfl := List.mem_singleton.mp h
        rfl

theorem transferCalls_ne_nil (e : Exchange) (address timeout : Int) (data : Bytes) (size : Nat) :
    transferCalls e address data size timeout ≠ [] := by
  unfold transferCalls
  split_ifs
  · nofun
  · split <;> nofun

theorem exists_transfer_run (timeout address : Int) (data buffer : Bytes) (b : Bench) :
    ∃ reply b' calls, Adapter.transfer ⟨true, timeout⟩ address data buffer b = (reply, b') ∧
      b'.calls = b.calls ++ calls ∧ (∀ call ∈ calls, call.timeout? = some timeout) ∧
      (calls = [] ↔ 0x7F < address) := by
  by_cases hwide : 0x7F < address
  · exact ⟨_, _, [], transfer_run_of_lt b _ hwide data buffer, (List.append_nil _).symm, nofun,
      iff_of_true rfl hwide⟩
  -- An address below zero is refused by the adapter, so the call is made.
  by_cases hneg : address < 0
  · refine ⟨_, _, _, transfer_run_of_neg timeout hneg data buffer b, rfl, ?_, iff_of_false nofun hwide⟩
    intro call hcall
    obtain rfl := List.mem_singleton.mp hcall
    rfl
  · have ha : 0 ≤ address ∧ address ≤ 0x7F := ⟨Int.not_lt.mp hneg, Int.not_lt.mp hwide⟩
    exact ⟨_, _, _, transfer_run b timeout ha data buffer, rfl, fun _ => timeout?_of_mem_transferCalls,
      iff_of_false (transferCalls_ne_nil _ _ _ _ _) hwide⟩

end Adapter

structure AdapterTransfer (b : Bench) (before : List Step) (o : Opening) (later : List Event) (address : Int)
    (write buffer : Bytes) (e : Event) : Prop where
  released : (∃ e ∈ later, e.step.Releases) →
    e.answer = .transferFailed (if address ≤ 0x7F then { head := .detached } else Adapter.sevenBitsOnly address)
      buffer ∧
    e.calls = [] ∧
    (mcp2221.session none (before ++ [.transfer address write buffer]) b).2 = (mcp2221.session none before b).2
  held : (∀ e ∈ later, ¬ e.step.Releases) →
    (∀ call ∈ e.calls, call.timeout? = some o.timeout) ∧ (e.calls = [] ↔ 0x7F < address)

theorem mcp2221_closesBy : mcp2221.ClosesBy fun a : Adapter => { a with attached := false } where
  release _ _ := rfl
  again _ := rfl

theorem adapterTransfer_of_latest {before : List Step} {past later : List Event} {o : Opening} {b : Bench}
    (hl : Latest ((mcp2221.start b).history before) past o later) (address : Int) (write buffer : Bytes) :
    AdapterTransfer b before o later address write buffer
      (((mcp2221.start b).after before).event (.transfer address write buffer)) := by
  obtain ⟨-, a, b', hopened, hheld, hreleased⟩ := Scene.exists_handle_of_latest mcp2221_closesBy hl
  obtain rfl : (⟨true, o.timeout⟩ : Adapter) = a :=
    (answer_eq_ok_iff.mp ((Adapter.attach_answer _ o).symm.trans (congrArg Prod.fst hopened))).2
  constructor
  · intro hr
    have hx := hreleased hr
    have hrun := Adapter.transfer_run_of_detached o.timeout address write buffer
      ((mcp2221.start b).after before).bench.unlogged
    rw [Scene.event_transfer hx hrun, Scene.snd_session_append, Scene.snd_session_start,
      Scene.bench_next_transfer hx hrun]
    refine ⟨rfl, rfl, ?_⟩
    simp only [unlogged, List.append_nil]
  · intro hr
    have hx := hheld hr
    obtain ⟨reply, b', calls, hrun, hcalls, hmade⟩ := Adapter.exists_transfer_run o.timeout address write buffer
      ((mcp2221.start b).after before).bench.unlogged
    have hevent : b'.calls = calls := hcalls
    rw [Scene.event_transfer hx hrun, hevent]
    exact hmade

end Bench

namespace Controller
open Bench

end Controller

end SmbusPostBox
