import SmbusPostBox.Proofs.ReadCourse

/-! Runs of reads on a bench: the bench that each read finds, the calls that it makes, and what every read of a
run keeps because a single read does. -/

namespace SmbusPostBox

def Bench.unlogged (b : Bench) : Bench := { b with calls := [] }

theorem Bench.observe_run {α : Type} (act : StateM Bench α) (b : Bench) :
    Bench.observe act b = (((act b.unlogged).1, (act b.unlogged).2.calls),
      { (act b.unlogged).2 with calls := b.calls ++ (act b.unlogged).2.calls }) := rfl

namespace Reader
variable (r : Reader Bench) (q : Query) (qs : List Query) (b : Bench)

def benchAfter : Bench := (Bench.observe (r.read q) b).2

def callsOf : List Call := (Bench.observe (r.read q) b).1.2

def benchAt (i : Nat) : Bench := (r.readAll (qs.take i) b).2

def callsAt (i : Nat) : List Call := ((r.readAll qs b).1[i]?.map Prod.snd).getD []

def log : List Call := (r.readAll qs b).1.flatMap Prod.snd

/-- Each read of a run gets its result, and keeps to a rule about the bench that it finds and its calls. -/
def Keeps (rule : Query → Bench → List Call → Prop) : Prop :=
  (r.readAll qs b).1.length = qs.length ∧
    ∀ i q, qs[i]? = some q → rule q (r.benchAt qs b i) (r.callsAt qs b i)

section
variable {q}

theorem callsOf_of_not_admitted (hq : ¬ q.Admitted) : r.callsOf q b = [] := by
  obtain ⟨f, h⟩ := read_of_not_admitted r (s := b.unlogged) hq
  rw [callsOf, Bench.observe_run, h]
  rfl

theorem benchAfter_of_not_admitted (hq : ¬ q.Admitted) : r.benchAfter q b = b := by
  obtain ⟨f, h⟩ := read_of_not_admitted r (s := b.unlogged) hq
  rw [benchAfter, Bench.observe_run, h]
  simp only [Bench.unlogged, List.append_nil]

theorem callsOf_of_admitted (hq : q.Admitted) :
    r.callsOf q b = (r.controller.course q b.unlogged).2.calls := by
  rw [callsOf, Bench.observe_run, read_of_admitted r hq]

theorem benchAfter_of_admitted (hq : q.Admitted) :
    r.benchAfter q b = { (r.controller.course q b.unlogged).2 with
      calls := b.calls ++ (r.controller.course q b.unlogged).2.calls } := by
  rw [benchAfter, Bench.observe_run, read_of_admitted r hq]

theorem descriptors_of_admitted (hq : q.Admitted) :
    (r.benchAfter q b).descriptors = (r.controller.course q b.unlogged).2.descriptors := by
  rw [benchAfter_of_admitted r b hq]

end

theorem readAll_nil : r.readAll [] b = ([], b) := rfl

theorem readAll_cons :
    r.readAll (q :: qs) b =
      ((Bench.observe (r.read q) b).1 :: (r.readAll qs (r.benchAfter q b)).1,
        (r.readAll qs (r.benchAfter q b)).2) := by
  simp only [readAll, List.mapM_cons]
  rfl

theorem log_nil : r.log [] b = [] := rfl

theorem log_cons : r.log (q :: qs) b = r.callsOf q b ++ r.log qs (r.benchAfter q b) := by
  simp only [log, readAll_cons, List.flatMap_cons, callsOf]

theorem benchAt_zero : r.benchAt qs b 0 = b := rfl

theorem benchAt_nil (i : Nat) : r.benchAt [] b i = b := by
  rw [benchAt, List.take_nil, readAll_nil]

theorem benchAt_succ (i : Nat) : r.benchAt (q :: qs) b (i + 1) = r.benchAt qs (r.benchAfter q b) i := by
  simp only [benchAt, List.take_succ_cons, readAll_cons]

theorem benchAt_add (i k : Nat) : r.benchAt qs b (i + k) = r.benchAt (qs.drop i) (r.benchAt qs b i) k := by
  induction i generalizing qs b with
  | zero => rw [Nat.zero_add, List.drop_zero, benchAt_zero]
  | succ i ih =>
    rcases qs with _ | ⟨q, qs⟩
    · rw [List.drop_nil, benchAt_nil, benchAt_nil, benchAt_nil]
    · rw [Nat.add_right_comm, benchAt_succ, benchAt_succ, List.drop_succ_cons, ih]

theorem benchAt_succ_of_getElem? {i : Nat} {q : Query} (h : qs[i]? = some q) :
    r.benchAt qs b (i + 1) = r.benchAfter q (r.benchAt qs b i) := by
  obtain ⟨hi, rfl⟩ := List.getElem?_eq_some_iff.mp h
  rw [benchAt_add, List.drop_eq_getElem_cons hi, benchAt_succ, benchAt_zero]

theorem callsAt_zero : r.callsAt (q :: qs) b 0 = r.callsOf q b := by
  simp only [callsAt, readAll_cons, List.getElem?_cons_zero, Option.map_some, Option.getD_some, callsOf]

theorem callsAt_succ (i : Nat) : r.callsAt (q :: qs) b (i + 1) = r.callsAt qs (r.benchAfter q b) i := by
  simp only [callsAt, readAll_cons, List.getElem?_cons_succ]

theorem getElem?_readAll {i : Nat} {q : Query} (h : qs[i]? = some q) :
    (r.readAll qs b).1[i]? = some (Bench.observe (r.read q) (r.benchAt qs b i)).1 := by
  induction qs generalizing b i with
  | nil => cases h
  | cons p qs ih =>
    rw [readAll_cons]
    cases i with
    | zero =>
      obtain rfl := Option.some.inj h
      rfl
    | succ i =>
      rw [benchAt_succ]
      exact ih _ h

theorem callsAt_of_getElem? {i : Nat} {q : Query} (h : qs[i]? = some q) :
    r.callsAt qs b i = r.callsOf q (r.benchAt qs b i) := by
  rw [callsAt, getElem?_readAll r qs b h]
  rfl

theorem length_readAll : (r.readAll qs b).1.length = qs.length := by
  induction qs generalizing b with
  | nil => rfl
  | cons q qs ih => rw [readAll_cons, List.length_cons, List.length_cons, ih]

theorem exists_getElem?_of_mem_callsAt {i : Nat} {call : Call} (h : call ∈ r.callsAt qs b i) :
    ∃ q, qs[i]? = some q := by
  unfold callsAt at h
  rcases hi : (r.readAll qs b).1[i]? with _ | x
  · rw [hi] at h
    cases h
  · obtain ⟨hlt, -⟩ := List.getElem?_eq_some_iff.mp hi
    rw [length_readAll] at hlt
    exact ⟨_, List.getElem?_eq_getElem hlt⟩

theorem keeps_of_callsOf {rule : Query → Bench → List Call → Prop} (h : ∀ q b, rule q b (r.callsOf q b)) :
    r.Keeps qs b rule := by
  refine ⟨r.length_readAll qs b, fun i q hi => ?_⟩
  rw [callsAt_of_getElem? r qs b hi]
  exact h _ _

theorem callsAt_subset_log (i : Nat) : r.callsAt qs b i ⊆ r.log qs b := by
  intro call h
  unfold callsAt at h
  rcases hi : (r.readAll qs b).1[i]? with _ | x
  · rw [hi] at h
    cases h
  · rw [hi] at h
    exact List.mem_flatMap.mpr ⟨x, List.mem_of_getElem? hi, h⟩

theorem calls_benchAfter : (r.benchAfter q b).calls = b.calls ++ r.callsOf q b := rfl

theorem calls_readAll : (r.readAll qs b).2.calls = b.calls ++ r.log qs b := by
  induction qs generalizing b with
  | nil => rw [readAll_nil, log_nil, List.append_nil]
  | cons q qs ih => rw [readAll_cons, log_cons, ih, calls_benchAfter, List.append_assoc]

end Reader

end SmbusPostBox
