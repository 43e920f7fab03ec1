import Mathlib.Data.List.Induction
import Mathlib.Data.Nat.Digits.Defs
import SmbusPostBox.Proofs.WrittenRequests

/-! Address bytes and the offsets that they write. An offset is sent as the shortest string of bytes that writes it, so
that its address bytes tell it: a transfer that fails is told of the offset that was asked for. -/

namespace SmbusPostBox
open Text

namespace Bytes
variable {b b' : Bytes} {n : Int}

theorem value_eq_ofDigits (b : Bytes) : value b = Nat.ofDigits 256 (b.reverse.map UInt8.toNat) := by
  induction b using List.reverseRecOn with
  | nil => rfl
  | append_singleton b x ih =>
    rw [value_append_singleton, ih, List.reverse_concat, List.map_cons, Nat.ofDigits_cons]
    omega

theorem lt_of_mem_toNat {d : Nat} (h : d ∈ b.reverse.map UInt8.toNat) : d < 256 := by
  obtain ⟨x, -, rfl⟩ := List.mem_map.mp h
  exact x.toNat_lt

theorem value_lt (b : Bytes) : value b < 256 ^ b.length := by
  have h := Nat.ofDigits_lt_base_pow_length (by decide) fun d => lt_of_mem_toNat (b := b) (d := d)
  rwa [← value_eq_ofDigits, List.length_map, List.length_reverse] at h

theorem value_cons (x : UInt8) (b : Bytes) : value (x :: b) = x.toNat * 256 ^ b.length + value b := by
  rw [value_eq_ofDigits, value_eq_ofDigits, List.reverse_cons, List.map_append, Nat.ofDigits_append,
    List.length_map, List.length_reverse, List.map_singleton, Nat.ofDigits_singleton, Nat.mul_comm, Nat.add_comm]

theorem eq_of_value_eq (hlength : b.length = b'.length) (hvalue : value b = value b') : b = b' := by
  rw [value_eq_ofDigits, value_eq_ofDigits] at hvalue
  have h := Nat.ofDigits_inj_of_len_eq (by decide) (by simp only [List.length_map, List.length_reverse, hlength])
    (fun d => lt_of_mem_toNat) (fun d => lt_of_mem_toNat) hvalue
  exact List.reverse_injective (List.map_injective_iff.mpr (fun _ _ => UInt8.toNat_inj.mp) h)

/-- The one string that writes `n` and is shorter than any other that does. -/
structure Shortest (n : Int) (b : Bytes) : Prop where
  nonempty : b ≠ []
  value_eq : (value b : Int) = n
  shorter : ∀ b', b' ≠ [] → (value b' : Int) = n → b' ≠ b → b.length < b'.length

theorem Shortest.unique (h : Shortest n b) (h' : Shortest n b') : b = b' := by
  by_contra hne
  have hlt := h.shorter b' h'.nonempty h'.value_eq (Ne.symm hne)
  have hgt := h'.shorter b h.nonempty h.value_eq hne
  omega

theorem shortest_cons {x : UInt8} {rest : Bytes} (h : rest = [] ∨ x ≠ 0) :
    Shortest (value (x :: rest)) (x :: rest) where
  nonempty := List.cons_ne_nil x rest
  value_eq := rfl
  shorter := by
    intro b' hb' hvalue hne
    have hvalue : value b' = value (x :: rest) := Int.natCast_inj.mp hvalue
    have hlength : b'.length ≠ (x :: rest).length := fun hl => hne (eq_of_value_eq hl hvalue)
    by_contra hle
    have hrest : b'.length ≤ rest.length := by
      simp only [List.length_cons] at hlength hle
      omega
    -- A string that is shorter still cannot write what a first byte other than zero weighs.
    have hx : 1 ≤ x.toNat := by
      rcases h with rfl | hx
      · exact absurd (List.length_eq_zero_iff.mp (Nat.le_zero.mp hrest)) hb'
      · exact Nat.one_le_iff_ne_zero.mpr fun h0 => hx (UInt8.toNat_inj.mp h0)
    have hweight : value b' < value b' := calc
      value b' < 256 ^ b'.length := value_lt b'
      _ ≤ 256 ^ rest.length := Nat.pow_le_pow_right (by decide) hrest
      _ ≤ x.toNat * 256 ^ rest.length := Nat.le_mul_of_pos_left _ hx
      _ ≤ x.toNat * 256 ^ rest.length + value rest := Nat.le_add_right _ _
      _ = value b' := by rw [hvalue, value_cons]
    exact Nat.lt_irrefl _ hweight

end Bytes

namespace Offset
variable {n : Int} {b : Bytes}

theorem bytes_cases (o : UInt16) : (∃ x, bytes o = [x]) ∨ ∃ x y, bytes o = [x, y] ∧ x ≠ 0 := by
  have ho := o.toNat_lt
  by_cases h : o ≤ 0xFF
  · exact .inl ⟨_, if_pos h⟩
  · refine .inr ⟨_, _, if_neg h, fun h0 => ?_⟩
    have h' : ¬ o.toNat ≤ 255 := fun hle => h (UInt16.le_iff_toNat_le.mpr hle)
    have h0 := congrArg UInt8.toNat h0
    simp only [UInt8.toNat_ofNat', UInt8.toNat_zero] at h0
    omega

theorem shortest_of_cases (h : (∃ x, b = [x]) ∨ ∃ x y, b = [x, y] ∧ x ≠ 0) :
    Bytes.Shortest (Bytes.value b) b := by
  obtain ⟨x, rfl⟩ | ⟨x, y, rfl, hx⟩ := h
  · exact Bytes.shortest_cons (.inl rfl)
  · exact Bytes.shortest_cons (.inr hx)

theorem encode_of_le (h : 0 ≤ n ∧ n ≤ 0xFFFF) : encode n = .ok (bytes (.ofNat n.toNat)) := by
  simp only [encode, ofInt, h, and_self, if_true]
  rfl

theorem encode_of_not_le (h : ¬ (0 ≤ n ∧ n ≤ 0xFFFF)) : encode n = .error (.refusing n (.offset n)) := by
  simp only [encode, ofInt, h, if_false]
  rfl

theorem le_of_encode (h : encode n = .ok b) : 0 ≤ n ∧ n ≤ 0xFFFF := by
  by_contra hn
  rw [encode_of_not_le hn] at h
  cases h

theorem refused_encode_iff : (∃ why, encode n = .error { head := .refused why }) ↔ ¬ (0 ≤ n ∧ n ≤ 0xFFFF) := by
  constructor
  · rintro ⟨why, hwhy⟩ hn
    rw [encode_of_le hn] at hwhy
    cases hwhy
  · intro hn
    rw [encode_of_not_le hn, Failure.refusing, Fault.writing]
    -- A number too long to be written is refused as well, only in other words.
    split_ifs <;> exact ⟨_, rfl⟩

theorem encode_eq_ok_iff : encode n = .ok b ↔ (0 ≤ n ∧ n ≤ 0xFFFF) ∧ b.Shortest n := by
  have shortest (hn : 0 ≤ n ∧ n ≤ 0xFFFF) : Bytes.Shortest n (bytes (.ofNat n.toNat)) := by
    have h := shortest_of_cases (bytes_cases (.ofNat n.toNat))
    have hvalue : (Bytes.value (bytes (.ofNat n.toNat)) : Int) = n := by
      rw [value_bytes, UInt16.toNat_ofNat']
      omega
    rwa [hvalue] at h
  constructor
  · intro h
    have hn := le_of_encode h
    rw [encode_of_le hn] at h
    exact ⟨hn, Except.ok.inj h ▸ shortest hn⟩
  · rintro ⟨hn, hb⟩
    rw [encode_of_le hn, hb.unique (shortest hn)]

theorem encode_value_iff :
    encode (Bytes.value b) = .ok b ↔ (∃ x, b = [x]) ∨ ∃ x y, b = [x, y] ∧ x ≠ 0 := by
  constructor
  · intro h
    rw [encode_of_le (le_of_encode h)] at h
    rw [← Except.ok.inj h]
    exact bytes_cases _
  · intro h
    refine encode_eq_ok_iff.mpr ⟨⟨Int.natCast_nonneg _, ?_⟩, shortest_of_cases h⟩
    have hlength : b.length ≤ 2 := by
      obtain ⟨x, rfl⟩ | ⟨x, y, rfl, -⟩ := h
      · exact Nat.le_succ 1
      · exact Nat.le_refl 2
    have hvalue : Bytes.value b < 256 ^ 2 := (Bytes.value_lt b).trans_le (Nat.pow_le_pow_right (by decide) hlength)
    omega

theorem eq_of_encode_eq {m : Int} (hm : encode m = .ok b) (hn : encode n = .ok b) : m = n :=
  (encode_eq_ok_iff.mp hm).2.value_eq.symm.trans (encode_eq_ok_iff.mp hn).2.value_eq

end Offset

namespace Controller
variable {σ : Type} {c : Controller σ}

def Executes (c : Controller σ) (q : Query) (s : σ) (result : Except Failure Outcome × Bytes) : Prop :=
  ∃ h s', c.connect { bus := q.bus } s = (.ok h, s') ∧
    (c.execute h q.device q.data (List.replicate q.size.toNat 0) s').1 = result

theorem execute_of_failed {h : c.Handle} {d : Device} {address buffer b : Bytes} {s : σ} {f : Failure}
    (hreply : (c.transfer h d.address.toNat address buffer s).1 = ⟨.error f, b⟩) :
    (c.execute h d address buffer s).1 = (.error (d.transferFailure (Bytes.value address) f), b) := by
  simp only [execute, bind_run, hreply, pure_run]

theorem Replies.executes {q : Query} {s : σ} {f : Failure} {b : Bytes} (hq : q.InRange)
    (h : c.Replies q s ⟨.error f, b⟩) (hf : f.head.isOs = true) :
    c.Executes q s (.error ⟨.postBox q.transferProblem none, f.head :: f.causes⟩, b) := by
  obtain ⟨h, s', hconnect, hreply⟩ := h
  refine ⟨h, s', hconnect, ?_⟩
  change (c.transfer h q.address q.data (List.replicate q.size.toNat 0) s').1 = _ at hreply
  rw [← hq.address_toNat] at hreply
  rw [execute_of_failed hreply, hq.value_data, Device.transferFailure_of_isOs hq.offset_writable hf]
  rfl

end Controller

namespace Offset

/-- Address bytes and offsets stand for each other, and whatever sends the bytes, a fault of its system is told of the
offset that was asked for. -/
theorem address_tells_offset :
    (∀ n : Int, (∃ why, encode n = .error { head := .refused why }) ↔ ¬ (0 ≤ n ∧ n ≤ 65535)) ∧
    (∀ n : Int, 0 ≤ n → n ≤ 65535 → ∃ b : Bytes, encode n = .ok b ∧ b.Shortest n) ∧
    (∀ b : Bytes, encode (Bytes.value b) = .ok b ↔ (∃ x, b = [x]) ∨ ∃ x y, b = [x, y] ∧ x ≠ 0) ∧
    (∀ (m n : Int) (b : Bytes), encode m = .ok b → encode n = .ok b → m = n) ∧
    ∀ {σ : Type} (r : Reader σ) (q : Query) (s : σ) (f : Failure) (b : Bytes), q.Admitted →
      r.controller.Replies q s ⟨.error f, b⟩ → f.head.isOs = true →
      let problem : Problem :=
        .bus ("Unable to complete i2c transfer with " ++ q.device.text ++ " at +" ++ Decimal.text q.offset) q.device
          (some q.offset)
      encode q.offset = .ok q.data ∧
      r.controller.Executes q s (.error ⟨.postBox problem none, f.head :: f.causes⟩, b) ∧
      (r.controller.Closes q s (.ok ()) →
        (r.read q s).1.result = .error ⟨.postBox problem (some q.context), f.head :: f.causes⟩) := by
  refine ⟨fun n => refused_encode_iff, fun n hlow hhigh => ?_, fun b => encode_value_iff,
    fun m n b => eq_of_encode_eq, ?_⟩
  · have h := encode_of_le ⟨hlow, hhigh⟩
    exact ⟨_, h, (encode_eq_ok_iff.mp h).2⟩
  · intro σ r q s f b hq h hf problem
    exact ⟨hq.1.encode_offset, h.executes hq.1 hf, r.result_of_failed hq h hf⟩

theorem address_tells_offset_long :
    let q : Query := ⟨1, 0x50, 0x1234, 4⟩
    let b : Bench := { transfers := [{ fault := some { head := .osCode 6 "No such device or address" } }] }
    (Reader.read ⟨Bench.linux, false⟩ q b).1.result = .error
      ⟨.postBox (.bus "Unable to complete i2c transfer with /dev/i2c-1 @0x50 at +4660" ⟨1, 0x50⟩ (some 4660))
        (some "Unable to read post-box at +4660, size=4"), [.osCode 6 "No such device or address"]⟩ := by
  intro q b
  have hr : Bench.linux.Replies q b ⟨.error { head := .osCode 6 "No such device or address" }, [0, 0, 0, 0]⟩ :=
    ⟨_, _, rfl, rfl⟩
  obtain ⟨-, -, -, -, hread⟩ := address_tells_offset
  obtain ⟨-, -, hresult⟩ := hread ⟨Bench.linux, false⟩ q b _ _ (by decide) hr rfl
  exact (hresult ⟨_, _, rfl, rfl⟩).trans (congrArg Except.error (by decide))

end Offset

end SmbusPostBox
