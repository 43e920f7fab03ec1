import Mathlib.Logic.Equiv.Fintype
import SmbusPostBox.Proofs.CallDiscipline
import SmbusPostBox.Proofs.ReadDecision

/-! Runs of reads share no state. Reads that are refused leave no trace, and a read comes to what the entries of the
script that it finds make of it, whatever was read before: only the numbers of descriptors tell of that. -/

namespace SmbusPostBox

namespace Call

def rename (ρ : Nat → Nat) : Call → Call
  | combined d w r data => combined (d.map ρ) w r data
  | closeNode d => closeNode (d.map ρ)
  | c => c

theorem rename_of_descriptor {call : Call} (h : call.descriptor = none) (ρ : Nat → Nat) : call.rename ρ = call := by
  cases call with
  | combined d w r data =>
    obtain rfl : d = none := h
    rfl
  | closeNode d =>
    obtain rfl : d = none := h
    rfl
  | connect | transfer | release | openNode | attach | setSpeed | write | read => rfl

end Call

namespace Bench

/-- The next entries of two scripts are the same. Only an adapter asks for a clock. -/
structure Alike (c : Controller Bench) (b b' : Bench) : Prop where
  openFault : b.openFault = b'.openFault
  speedFault : c = mcp2221 → b.speedFault = b'.speedFault
  exchange : b.exchange = b'.exchange
  closeFault : b.closeFault = b'.closeFault

structure Repeats (c : Controller Bench) (b : Bench) (n : Nat) : Prop where
  opens : ∀ i < n, b.opens[i]?.join = b.openFault
  speeds : c = mcp2221 → ∀ i < n, b.speeds[i]?.join = b.speedFault
  transfers : ∀ i < n, b.transfers[i]?.getD {} = b.exchange
  closes : ∀ i < n, b.closes[i]?.join = b.closeFault

def Cut {α : Type} (n : Nat) (l l' : List α) : Prop := ∃ k ≤ n, l' = l.drop k

structure Within (n : Nat) (b b' : Bench) : Prop where
  opens : Cut n b.opens b'.opens
  speeds : Cut n b.speeds b'.speeds
  transfers : Cut n b.transfers b'.transfers
  closes : Cut n b.closes b'.closes
  descriptors : b.descriptors ≤ b'.descriptors

/-! ### Scripts -/

namespace Cut
variable {α : Type} {n m : Nat} {l l' l'' : List α}

theorem refl (n : Nat) (l : List α) : Cut n l l := ⟨0, Nat.zero_le n, rfl⟩

theorem tail (n : Nat) (l : List α) : Cut (n + 1) l l.tail := ⟨1, Nat.le_add_left 1 n, List.drop_one.symm⟩

theorem trans (h : Cut n l l') (h' : Cut m l' l'') : Cut (n + m) l l'' := by
  obtain ⟨k, hk, rfl⟩ := h
  obtain ⟨j, hj, rfl⟩ := h'
  exact ⟨k + j, Nat.add_le_add hk hj, List.drop_drop⟩

theorem exists_head? (h : Cut n l l') (hnm : n < m) : ∃ i < m, l'.head? = l[i]? := by
  obtain ⟨k, hk, rfl⟩ := h
  exact ⟨k, Nat.lt_of_le_of_lt hk hnm, List.head?_drop⟩

end Cut

namespace Within
variable {n m : Nat} {b b' b'' : Bench}

theorem refl (n : Nat) (b : Bench) : Within n b b :=
  ⟨.refl n _, .refl n _, .refl n _, .refl n _, Nat.le_refl _⟩

theorem trans (h : Within n b b') (h' : Within m b' b'') : Within (n + m) b b'' where
  opens := h.opens.trans h'.opens
  speeds := h.speeds.trans h'.speeds
  transfers := h.transfers.trans h'.transfers
  closes := h.closes.trans h'.closes
  descriptors := Nat.le_trans h.descriptors h'.descriptors

end Within

namespace Alike
variable {c : Controller Bench} {b b' b'' : Bench}

theorem refl (c : Controller Bench) (b : Bench) : Alike c b b := ⟨rfl, fun _ => rfl, rfl, rfl⟩

theorem symm (h : Alike c b b') : Alike c b' b where
  openFault := h.openFault.symm
  speedFault hc := (h.speedFault hc).symm
  exchange := h.exchange.symm
  closeFault := h.closeFault.symm

theorem trans (h : Alike c b b') (h' : Alike c b' b'') : Alike c b b'' where
  openFault := h.openFault.trans h'.openFault
  speedFault hc := (h.speedFault hc).trans (h'.speedFault hc)
  exchange := h.exchange.trans h'.exchange
  closeFault := h.closeFault.trans h'.closeFault

theorem unlogged (h : Alike c b b') : Alike c b.unlogged b'.unlogged :=
  ⟨h.openFault, h.speedFault, h.exchange, h.closeFault⟩

end Alike

theorem Repeats.alike {c : Controller Bench} {b b' : Bench} {n k : Nat} (h : b.Repeats c n) (hb : Within k b b')
    (hk : k < n) : Alike c b' b where
  openFault := by
    obtain ⟨i, hi, hhead⟩ := hb.opens.exists_head? hk
    rw [openFault, hhead, h.opens i hi]
  speedFault hc := by
    obtain ⟨i, hi, hhead⟩ := hb.speeds.exists_head? hk
    rw [speedFault, hhead, h.speeds hc i hi]
  exchange := by
    obtain ⟨i, hi, hhead⟩ := hb.transfers.exists_head? hk
    rw [exchange, hhead, h.transfers i hi]
  closeFault := by
    obtain ⟨i, hi, hhead⟩ := hb.closes.exists_head? hk
    rw [closeFault, hhead, h.closes i hi]

/-! ### Single reads -/

/-- Courses of a read on two benches: they move on by at most an entry, come to the same, give out as many descriptors,
and make the same calls once the descriptor of the one is renamed to that of the other. -/
structure Twins (c : Controller Bench) (q : Query) (b b' : Bench) : Prop where
  within : Within 1 b (c.course q b).2
  course : (c.course q b').1 = (c.course q b).1
  given : (c.course q b').2.descriptors + b.descriptors = (c.course q b).2.descriptors + b'.descriptors
  calls : ∀ ρ : Nat → Nat,
    (b.descriptors < (c.course q b).2.descriptors → ρ (101 + b.descriptors) = 101 + b'.descriptors) →
    ∃ calls, (c.course q b).2.calls = b.calls ++ calls ∧
      (c.course q b').2.calls = b'.calls ++ calls.map (Call.rename ρ)

variable {c : Controller Bench} {q : Query} {b b' : Bench}

theorem Twins.of_none_given {x : Course} {b₁ b₁' : Bench} {calls : List Call} (h : c.course q b = (x, b₁))
    (h' : c.course q b' = (x, b₁')) (hw : Within 1 b b₁) (hd : b₁.descriptors = b.descriptors)
    (hd' : b₁'.descriptors = b'.descriptors) (hcalls : b₁.calls = b.calls ++ calls)
    (hcalls' : b₁'.calls = b'.calls ++ calls) (hnone : ∀ call ∈ calls, call.descriptor = none) :
    Twins c q b b' := by
  constructor
  case within => rwa [h]
  case course => rw [h, h']
  case given => rw [h, h', hd, hd', Nat.add_comm]
  case calls =>
    intro ρ _
    rw [h, h']
    refine ⟨calls, hcalls, ?_⟩
    rw [hcalls', List.map_congr_left (g := id), List.map_id]
    exact fun call hcall => Call.rename_of_descriptor (hnone call hcall) ρ

theorem direct_twins (h : Alike direct b b') : Twins direct q b b' := by
  rcases ho : b.openFault with _ | f
  · have hcourse := direct_course_of_opened (q := q) ho
    have hcourse' := direct_course_of_opened (q := q) (h.openFault.symm.trans ho)
    rw [← h.exchange, ← h.closeFault] at hcourse'
    refine .of_none_given hcourse hcourse' ?_ rfl rfl rfl rfl (by simp [Call.descriptor])
    exact ⟨.tail 0 _, .refl 1 _, .tail 0 _, .tail 0 _, Nat.le_refl _⟩
  · have hcourse := direct_course_of_unopened (q := q) ho
    have hcourse' := direct_course_of_unopened (q := q) (h.openFault.symm.trans ho)
    refine .of_none_given hcourse hcourse' ?_ rfl rfl rfl rfl (by simp [Call.descriptor])
    exact ⟨.tail 0 _, .refl 1 _, .refl 1 _, .refl 1 _, Nat.le_refl _⟩

theorem linux_twins (h : Alike linux b b') : Twins linux q b b' := by
  rcases ho : b.openFault with _ | f
  · have hcourse := linux_course_of_opened (q := q) ho
    have hcourse' := linux_course_of_opened (q := q) (h.openFault.symm.trans ho)
    rw [← h.exchange, ← h.closeFault] at hcourse'
    constructor
    case within =>
      rw [hcourse]
      exact ⟨.tail 0 _, .refl 1 _, .tail 0 _, .tail 0 _, Nat.le_succ _⟩
    case course => rw [hcourse, hcourse']
    case given =>
      rw [hcourse, hcourse']
      change b'.descriptors + 1 + b.descriptors = b.descriptors + 1 + b'.descriptors
      omega
    case calls =>
      -- The one descriptor of the read stands in its transfer and in its release.
      intro ρ hρ
      rw [hcourse] at hρ
      have hrenamed := hρ (Nat.lt_succ_self _)
      rw [hcourse, hcourse', ← hrenamed]
      exact ⟨_, rfl, rfl⟩
  · have hcourse := linux_course_of_unopened (q := q) ho
    have hcourse' := linux_course_of_unopened (q := q) (h.openFault.symm.trans ho)
    refine .of_none_given hcourse hcourse' ?_ rfl rfl rfl rfl (by simp [Call.descriptor])
    exact ⟨.tail 0 _, .refl 1 _, .refl 1 _, .refl 1 _, Nat.le_refl _⟩

theorem Adapter.descriptor_of_mem_transferCalls {e : Exchange} {address : Int} {data : Bytes} {size : Nat}
    {timeout : Int} {call : Call} (h : call ∈ transferCalls e address data size timeout) : call.descriptor = none := by
  have hprefix := transferCalls_prefix e address data size timeout
  have hmem := hprefix.subset h
  rcases List.mem_pair.mp hmem with rfl | rfl <;> rfl

theorem mcp2221_twins (hq : q.Admitted) (h : Alike mcp2221 b b') : Twins mcp2221 q b b' := by
  have hspeed := h.speedFault rfl
  rcases ho : b.openFault with _ | f
  · have ho' := h.openFault.symm.trans ho
    rcases hs : b.speedFault with _ | f
    · have hattach := attachFault_eq_none_iff.mpr ⟨ho, hs⟩
      have hattach' := attachFault_eq_none_iff.mpr ⟨ho', hspeed.symm.trans hs⟩
      by_cases ha : 0x7F < q.address
      · have hcourse := mcp2221_course_of_wide hattach ha
        have hcourse' := mcp2221_course_of_wide hattach' ha
        refine .of_none_given hcourse hcourse' ?_ rfl rfl rfl rfl (by simp [Call.descriptor])
        exact ⟨.tail 0 _, .tail 0 _, .refl 1 _, .refl 1 _, Nat.le_refl _⟩
      · have haddress : 0 ≤ q.address ∧ q.address ≤ 0x7F := ⟨hq.1.2.2.2.1, Int.not_lt.mp ha⟩
        have hcourse := mcp2221_course_of_opened hattach haddress
        have hcourse' := mcp2221_course_of_opened hattach' haddress
        rw [← h.exchange] at hcourse'
        refine .of_none_given hcourse hcourse' ?_ rfl rfl rfl rfl ?_
        · exact ⟨.tail 0 _, .tail 0 _, .tail 0 _, .refl 1 _, Nat.le_refl _⟩
        · intro call hcall
          rcases List.mem_cons.mp hcall with rfl | hcall
          · rfl
          rcases List.mem_cons.mp hcall with rfl | hcall
          · rfl
          · exact Adapter.descriptor_of_mem_transferCalls hcall
    · have hcourse := mcp2221_course_of_untuned (q := q) ho hs
      have hcourse' := mcp2221_course_of_untuned (q := q) ho' (hspeed.symm.trans hs)
      refine .of_none_given hcourse hcourse' ?_ rfl rfl rfl rfl (by simp [Call.descriptor])
      exact ⟨.tail 0 _, .tail 0 _, .refl 1 _, .refl 1 _, Nat.le_refl _⟩
  · have hcourse := mcp2221_course_of_unattached (q := q) ho
    have hcourse' := mcp2221_course_of_unattached (q := q) (h.openFault.symm.trans ho)
    refine .of_none_given hcourse hcourse' ?_ rfl rfl rfl rfl (by simp [Call.descriptor])
    exact ⟨.tail 0 _, .refl 1 _, .refl 1 _, .refl 1 _, Nat.le_refl _⟩

theorem twins (hc : c ∈ [direct, linux, mcp2221]) (hq : q.Admitted) (h : Alike c b b') : Twins c q b b' := by
  simp only [List.mem_cons, List.not_mem_nil, or_false] at hc
  rcases hc with rfl | rfl | rfl
  · exact direct_twins h
  · exact linux_twins h
  · exact mcp2221_twins hq h

end Bench

/-! ### Reads in a run -/

namespace Reader
open Bench

section
variable {c : Controller Bench} (hc : c ∈ [direct, linux, mcp2221]) (verbose : Bool) (q : Query) {b b' : Bench}
include hc

theorem within_benchAfter (b : Bench) : Within 1 b (benchAfter ⟨c, verbose⟩ q b) := by
  by_cases hq : q.Admitted
  · have hwithin := (twins hc hq (.refl c b.unlogged)).within
    rw [benchAfter_of_admitted _ b hq]
    exact ⟨hwithin.opens, hwithin.speeds, hwithin.transfers, hwithin.closes, hwithin.descriptors⟩
  · rw [benchAfter_of_not_admitted _ b hq]
    exact .refl 1 b

theorem reading_of_alike (h : Alike c b b') :
    (Reader.read ⟨c, verbose⟩ q b'.unlogged).1 = (Reader.read ⟨c, verbose⟩ q b.unlogged).1 := by
  by_cases hq : q.Admitted
  · rw [read_of_admitted _ hq, read_of_admitted _ hq, (twins hc hq h.unlogged).course]
  · exact reading_of_not_admitted _ _ _ _ hq

theorem descriptors_of_alike (h : Alike c b b') :
    (benchAfter ⟨c, verbose⟩ q b').descriptors + b.descriptors =
      (benchAfter ⟨c, verbose⟩ q b).descriptors + b'.descriptors := by
  by_cases hq : q.Admitted
  · rw [descriptors_of_admitted _ b hq, descriptors_of_admitted _ b' hq]
    exact (twins hc hq h.unlogged).given
  · rw [benchAfter_of_not_admitted _ b hq, benchAfter_of_not_admitted _ b' hq, Nat.add_comm]

theorem callsOf_of_alike (h : Alike c b b') {ρ : Nat → Nat}
    (hρ : b.descriptors < (benchAfter ⟨c, verbose⟩ q b).descriptors → ρ (101 + b.descriptors) = 101 + b'.descriptors) :
    callsOf ⟨c, verbose⟩ q b' = (callsOf ⟨c, verbose⟩ q b).map (Call.rename ρ) := by
  by_cases hq : q.Admitted
  · rw [descriptors_of_admitted _ b hq] at hρ
    obtain ⟨calls, hcalls, hcalls'⟩ := (twins hc hq h.unlogged).calls ρ hρ
    rw [callsOf_of_admitted _ b hq, callsOf_of_admitted _ b' hq, hcalls, hcalls']
    rfl
  · rw [callsOf_of_not_admitted _ b hq, callsOf_of_not_admitted _ b' hq]
    rfl

theorem observe_read_of_alike (h : Alike c b b') {ρ : Nat → Nat}
    (hρ : b.descriptors < (benchAfter ⟨c, verbose⟩ q b).descriptors → ρ (101 + b.descriptors) = 101 + b'.descriptors) :
    (observe (Reader.read ⟨c, verbose⟩ q) b').1 =
      Prod.map id (List.map (Call.rename ρ)) (observe (Reader.read ⟨c, verbose⟩ q) b).1 :=
  Prod.ext (reading_of_alike hc verbose q h) (callsOf_of_alike hc verbose q h hρ)

end

section
variable (r : Reader Bench) (qs : List Query) (b : Bench)

theorem readAll_of_padded (ps : List (Query × Bool)) (h : ∀ p ∈ ps, p.2 = false → ¬ p.1.Admitted) :
    let padded := r.readAll (ps.map Prod.fst) b
    let plain := r.readAll ((ps.filter Prod.snd).map Prod.fst) b
    ((ps.zip padded.1).filter (·.1.2)).map Prod.snd = plain.1 ∧ padded.2 = plain.2 := by
  induction ps generalizing b with
  | nil => exact ⟨rfl, rfl⟩
  | cons p ps ih =>
    obtain ⟨q, kept⟩ := p
    have hrest := fun p hp => h p (List.mem_cons_of_mem _ hp)
    cases kept with
    | true =>
      obtain ⟨houtcomes, hbench⟩ := ih (r.benchAfter q b) hrest
      simp only [List.map_cons, List.filter_cons, readAll_cons, List.zip_cons_cons, if_true, houtcomes, hbench,
        and_self]
    | false =>
      have hq : ¬ q.Admitted := h _ List.mem_cons_self rfl
      obtain ⟨houtcomes, hbench⟩ := ih b hrest
      simp only [List.map_cons, List.filter_cons, readAll_cons, List.zip_cons_cons, Bool.false_eq_true, if_false,
        benchAfter_of_not_admitted r b hq, houtcomes, hbench, and_self]

end

section
variable {c : Controller Bench} (hc : c ∈ [direct, linux, mcp2221]) (verbose : Bool) (qs : List Query) (b : Bench)
include hc

theorem within_benchAt (i : Nat) : Within i b (benchAt ⟨c, verbose⟩ qs b i) := by
  induction qs generalizing b i with
  | nil =>
    rw [benchAt_nil]
    exact .refl i b
  | cons q qs ih =>
    cases i with
    | zero => exact .refl 0 b
    | succ i =>
      rw [benchAt_succ, Nat.add_comm]
      exact (within_benchAfter hc verbose q b).trans (ih _ i)

theorem descriptors_monotone : Monotone fun i => (benchAt ⟨c, verbose⟩ qs b i).descriptors := by
  intro i j hij
  obtain ⟨k, rfl⟩ := Nat.exists_eq_add_of_le hij
  dsimp only
  rw [benchAt_add]
  exact (within_benchAt hc verbose _ _ k).descriptors

theorem descriptors_injOn :
    Set.InjOn (fun i => (benchAt ⟨c, verbose⟩ qs b i).descriptors)
      {i | (benchAt ⟨c, verbose⟩ qs b i).descriptors < (benchAt ⟨c, verbose⟩ qs b (i + 1)).descriptors} := by
  let given : Nat → Nat := fun i => (benchAt ⟨c, verbose⟩ qs b i).descriptors
  have hlater {i j : Nat} (hi : given i < given (i + 1)) (hij : i < j) : given i < given j :=
    Nat.lt_of_lt_of_le hi (descriptors_monotone hc verbose qs b (Nat.succ_le_of_lt hij))
  intro i hi j hj hij
  rcases Nat.lt_trichotomy i j with hlt | heq | hgt
  · exact absurd hij (Nat.ne_of_lt (hlater hi hlt))
  · exact heq
  · exact absurd hij.symm (Nat.ne_of_lt (hlater hj hgt))

end

end Reader

theorem exists_perm_of_injOn {ι : Type} (s : Finset ι) {f g : ι → Nat} (hf : Set.InjOn f s) (hg : Set.InjOn g s) :
    ∃ ρ : Equiv.Perm Nat, ∀ i ∈ s, ρ (f i) = g i := by
  classical
  induction s using Finset.induction_on with
  | empty => exact ⟨Equiv.refl Nat, nofun⟩
  | insert a s ha ih =>
    have hsub : (s : Set ι) ⊆ insert a s := Set.subset_insert a s
    rw [Finset.coe_insert] at hf hg
    obtain ⟨ρ, hρ⟩ := ih (hf.mono hsub) (hg.mono hsub)
    -- What the rest needs is not touched by the swap that serves the new one.
    refine ⟨ρ.trans (Equiv.swap (ρ (f a)) (g a)), fun i hi => ?_⟩
    rw [Equiv.trans_apply]
    rcases Finset.mem_insert.mp hi with rfl | hi
    · exact Equiv.swap_apply_left _ _
    · have hne : i ≠ a := fun h => ha (h ▸ hi)
      have hfa : ρ (f i) ≠ ρ (f a) := fun h =>
        hne (hf (Set.mem_insert_of_mem a hi) (Set.mem_insert a _) (ρ.injective h))
      have hga : g i ≠ g a := fun h => hne (hg (Set.mem_insert_of_mem a hi) (Set.mem_insert a _) h)
      rw [Equiv.swap_apply_of_ne_of_ne hfa (hρ i hi ▸ hga), hρ i hi]

namespace Reader
open Bench

section
variable {c : Controller Bench} (hc : c ∈ [direct, linux, mcp2221]) (verbose : Bool) {qs : List Query} {b : Bench}
include hc

theorem readAll_permuted (h : b.Repeats c qs.length) (σ : Equiv.Perm (Fin qs.length)) :
    let r : Reader Bench := ⟨c, verbose⟩
    let ps := List.ofFn fun i => qs[σ i]
    ∃ ρ : Equiv.Perm Nat, ∀ i : Fin qs.length,
      (r.readAll ps b).1[i.val]? = (r.readAll qs b).1[(σ i).val]?.map (Prod.map id (List.map (Call.rename ρ))) := by
  intro r ps
  have hqs (i : Fin qs.length) : qs[(σ i).val]? = some qs[σ i] := List.getElem?_eq_getElem (σ i).isLt
  have hps (i : Fin qs.length) : ps[i.val]? = some qs[σ i] := by
    rw [List.getElem?_ofFn, dif_pos i.isLt]
  have halike (i : Fin qs.length) : Alike c (r.benchAt qs b (σ i)) (r.benchAt ps b i) :=
    (h.alike (within_benchAt hc verbose qs b (σ i)) (σ i).isLt).trans
      (h.alike (within_benchAt hc verbose ps b i) i.isLt).symm
  have hgiven (i : Fin qs.length) : (r.benchAt ps b (i + 1)).descriptors + (r.benchAt qs b (σ i)).descriptors =
      (r.benchAt qs b (σ i + 1)).descriptors + (r.benchAt ps b i).descriptors := by
    rw [benchAt_succ_of_getElem? r ps b (hps i), benchAt_succ_of_getElem? r qs b (hqs i)]
    exact descriptors_of_alike hc verbose _ (halike i)
  let opened : Finset (Fin qs.length) := Finset.univ.filter fun i =>
    (r.benchAt ps b i).descriptors < (r.benchAt ps b (i + 1)).descriptors
  have hmem {i : Fin qs.length} : i ∈ opened ↔
      (r.benchAt ps b i).descriptors < (r.benchAt ps b (i + 1)).descriptors := by
    simp only [opened, Finset.mem_filter, Finset.mem_univ, true_and]
  have hmem' {i : Fin qs.length} : i ∈ opened ↔
      (r.benchAt qs b (σ i)).descriptors < (r.benchAt qs b (σ i + 1)).descriptors := by
    have := hgiven i
    rw [hmem]
    omega
  have hinj : Set.InjOn (fun i : Fin qs.length => 101 + (r.benchAt ps b i).descriptors) opened := by
    intro i hi j hj hij
    have hval := descriptors_injOn hc verbose ps b (hmem.mp hi) (hmem.mp hj) (Nat.add_left_cancel hij)
    exact Fin.ext hval
  have hinj' : Set.InjOn (fun i : Fin qs.length => 101 + (r.benchAt qs b (σ i)).descriptors) opened := by
    intro i hi j hj hij
    have hval := descriptors_injOn hc verbose qs b (hmem'.mp hi) (hmem'.mp hj) (Nat.add_left_cancel hij)
    exact σ.injective (Fin.ext hval)
  obtain ⟨ρ, hρ⟩ := exists_perm_of_injOn opened hinj' hinj
  refine ⟨ρ, fun i => ?_⟩
  rw [getElem?_readAll r ps b (hps i), getElem?_readAll r qs b (hqs i), Option.map_some]
  apply congrArg some
  apply observe_read_of_alike hc verbose _ (halike i)
  intro hlt
  rw [← benchAt_succ_of_getElem? r qs b (hqs i)] at hlt
  exact hρ i (hmem'.mpr hlt)

theorem read_alike {qs' : List Query} {b' : Bench} {i j : Nat} {q : Query} (hi : qs[i]? = some q)
    (hj : qs'[j]? = some q) (h : Alike c (benchAt ⟨c, verbose⟩ qs b i) (benchAt ⟨c, verbose⟩ qs' b' j)) :
    let r : Reader Bench := ⟨c, verbose⟩
    ∃ x x', (r.readAll qs b).1[i]? = some x ∧ (r.readAll qs' b').1[j]? = some x' ∧ x'.1 = x.1 ∧
      (∃ ρ : Equiv.Perm Nat, x'.2 = x.2.map (Call.rename ρ)) ∧
      ∀ v, x.1.result = .ok v → c.Replies q (r.benchAt qs b i).unlogged ⟨.ok 2, v⟩ := by
  intro r
  refine ⟨_, _, getElem?_readAll r qs b hi, getElem?_readAll r qs' b' hj, reading_of_alike hc verbose q h, ?_, ?_⟩
  · let d := (r.benchAt qs b i).descriptors
    let d' := (r.benchAt qs' b' j).descriptors
    exact ⟨Equiv.swap (101 + d) (101 + d'), callsOf_of_alike hc verbose q h fun _ => Equiv.swap_apply_left _ _⟩
  · intro v hv
    obtain ⟨-, hreplies, -⟩ := (result_eq_ok_iff r).mp hv
    exact hreplies

end

theorem readAll_independent {c : Controller Bench} (hc : c ∈ [direct, linux, mcp2221]) (verbose : Bool) (b : Bench) :
    let r : Reader Bench := ⟨c, verbose⟩
    (∀ ps : List (Query × Bool), (∀ p ∈ ps, p.2 = false → ¬ p.1.Admitted) →
      let padded := r.readAll (ps.map Prod.fst) b
      let plain := r.readAll ((ps.filter Prod.snd).map Prod.fst) b
      ((ps.zip padded.1).filter (·.1.2)).map Prod.snd = plain.1 ∧ padded.2 = plain.2) ∧
    (∀ (qs : List Query) (σ : Equiv.Perm (Fin qs.length)), b.Repeats c qs.length →
      let ps := List.ofFn fun i => qs[σ i]
      ∃ ρ : Equiv.Perm Nat, ∀ i : Fin qs.length,
        (r.readAll ps b).1[i.val]? =
          (r.readAll qs b).1[(σ i).val]?.map (Prod.map id (List.map (Call.rename ρ)))) ∧
    ∀ (qs qs' : List Query) (b' : Bench) (i j : Nat) (q : Query), qs[i]? = some q → qs'[j]? = some q →
      Alike c (r.benchAt qs b i) (r.benchAt qs' b' j) →
      ∃ x x', (r.readAll qs b).1[i]? = some x ∧ (r.readAll qs' b').1[j]? = some x' ∧ x'.1 = x.1 ∧
        (∃ ρ : Equiv.Perm Nat, x'.2 = x.2.map (Call.rename ρ)) ∧
        ∀ v, x.1.result = .ok v → c.Replies q (r.benchAt qs b i).unlogged ⟨.ok 2, v⟩ := by
  intro r
  refine ⟨fun ps h => readAll_of_padded r b ps h, fun qs σ h => readAll_permuted hc verbose h σ, ?_⟩
  intro qs qs' b' i j q hi hj h
  exact read_alike hc verbose hi hj h

theorem readAll_independent_two :
    let q : Query := ⟨1, 0x50, 0x10, 4⟩
    let q' : Query := ⟨2, 0x3FF, 0x1234, 2⟩
    let ps : List (Query × Bool) := [(⟨300, 0x50, 0, 1⟩, false), (q, true), (⟨1, 0x50, 0, 9⟩, false), (q', true)]
    let b : Bench := { opens := [none, none], transfers := List.replicate 2 { payload := .pattern } }
    let r : Reader Bench := ⟨linux, true⟩
    ((ps.zip (r.readAll (ps.map Prod.fst) b).1).filter (·.1.2)).map Prod.snd = (r.readAll [q, q'] b).1 ∧
    (∃ ρ : Equiv.Perm Nat, ∀ i : Fin 2, (r.readAll [q', q] b).1[i.val]? =
      (r.readAll [q, q'] b).1[(Equiv.swap 0 1 i).val]?.map (Prod.map id (List.map (Call.rename ρ)))) ∧
    ∃ x x', (r.readAll [q, q'] b).1[1]? = some x ∧ (r.readAll [q'] b).1[0]? = some x' ∧ x'.1 = x.1 := by
  intro q q' ps b r
  have hc : linux ∈ [direct, linux, mcp2221] := List.mem_cons_of_mem _ List.mem_cons_self
  obtain ⟨hpadded, hpermuted, halike⟩ := readAll_independent hc true b
  have hrepeats : b.Repeats linux 2 := ⟨by decide, fun _ => by decide, by decide, by decide⟩
  have hfirst : Alike linux (r.benchAt [q, q'] b 1) (r.benchAt [q'] b 0) :=
    hrepeats.alike (within_benchAt hc true [q, q'] b 1) (by decide)
  obtain ⟨x, x', hx, hx', hsame, -⟩ := halike [q, q'] [q'] b 1 0 q' rfl rfl hfirst
  exact ⟨(hpadded ps (by decide)).1, hpermuted [q, q'] (Equiv.swap 0 1) hrepeats, x, x', hx, hx', hsame⟩

end Reader

end SmbusPostBox
