import SmbusPostBox.Proofs.BenchRuns

/-! Whole reads over the three controllers: whether they are opened, the course that they take, with the calls that
it makes, and what their transfer leaves. -/

namespace SmbusPostBox.Controller
variable {σ : Type} {c : Controller σ} {q : Query} {s s' : σ}

theorem course_of_unopened {f : Failure} (h : c.connect { bus := q.bus } s = (.error f, s')) :
    c.course q s = (.unopened f, s') := by
  simp only [course, h]

theorem course_of_opened {n n' : c.Handle} {s'' s''' : σ} {reply : Reply} {closing : Except Failure Unit}
    (h : c.connect { bus := q.bus } s = (.ok n, s'))
    (ht : c.transfer n q.address (Offset.bytes q.request.offset) (List.replicate q.size.toNat 0) s' = (reply, s''))
    (hr : c.release n s'' = ((closing, n'), s''')) : c.course q s = (.closed reply closing, s''') := by
  simp only [course, h, ht, hr]

end SmbusPostBox.Controller

namespace SmbusPostBox.Bench
variable {q : Query} {b : Bench}

/-! ### Openings -/

theorem direct_unopened_iff {f : Failure} : direct.Unopened q b f ↔ b.openFault = some f := by
  unfold Controller.Unopened
  rw [direct_connect_run]
  exact answer_eq_error_iff

theorem direct_opened_iff {h : direct.Handle} : direct.Opened q b h ↔ b.openFault = none := by
  unfold Controller.Opened
  rw [direct_connect_run]
  exact answer_eq_ok_iff.trans (and_iff_left rfl)

theorem linux_unopened_iff {f : Failure} : linux.Unopened q b f ↔ b.openFault = some f := by
  unfold Controller.Unopened
  rw [linux_connect_run]
  rcases b.openFault with _ | g
  · exact iff_of_false nofun nofun
  · exact ⟨fun h => congrArg some (Except.error.inj h), fun h => congrArg Except.error (Option.some.inj h)⟩

theorem linux_opened_iff {n : linux.Handle} :
    linux.Opened q b n ↔ b.openFault = none ∧ (⟨some (101 + b.descriptors)⟩ : Node) = n := by
  unfold Controller.Opened
  rw [linux_connect_run]
  rcases b.openFault with _ | g
  · exact ⟨fun h => ⟨rfl, Except.ok.inj h⟩, fun h => congrArg Except.ok h.2⟩
  · exact iff_of_false nofun nofun

theorem attachFault_eq_none_iff : b.attachFault = none ↔ b.openFault = none ∧ b.speedFault = none :=
  Option.or_eq_none_iff

theorem mcp2221_unopened_iff {f : Failure} :
    mcp2221.Unopened q b f ↔ ∃ g, b.attachFault = some g ∧ Adapter.unavailable q.bus g = f := by
  unfold Controller.Unopened
  change (Adapter.attach _ b).1 = _ ↔ _
  rw [Adapter.attach_answer, ← Option.map_eq_some_iff]
  exact answer_eq_error_iff

theorem exists_mcp2221_opened_iff : (∃ a, mcp2221.Opened q b a) ↔ b.attachFault = none := by
  unfold Controller.Opened
  change (∃ a, (Adapter.attach _ b).1 = .ok a) ↔ _
  rw [Adapter.attach_answer, ← Option.map_eq_none_iff]
  constructor
  · rintro ⟨a, h⟩
    exact (answer_eq_ok_iff.mp h).1
  · intro h
    exact ⟨_, answer_eq_ok_iff.mpr ⟨h, rfl⟩⟩

/-! ### Courses -/

theorem direct_course_of_unopened {f : Failure} (h : b.openFault = some f) :
    direct.course q b = (.unopened f,
      { b with opens := b.opens.tail, calls := b.calls ++ [.connect q.bus] }) := by
  refine Controller.course_of_unopened ?_
  rw [direct_connect_run, h]
  rfl

theorem direct_course_of_opened (h : b.openFault = none) :
    direct.course q b =
      (.closed (directReply b.exchange q.address (Offset.bytes q.request.offset) (List.replicate q.size.toNat 0))
        (answer b.closeFault ()),
      { b with
        opens := b.opens.tail
        transfers := b.transfers.tail
        closes := b.closes.tail
        calls := b.calls ++ [.connect q.bus,
          .transfer q.address (Offset.bytes q.request.offset) q.size.toNat, .release] }) := by
  have hc := direct_connect_run b { bus := q.bus }
  rw [h, answer_none] at hc
  rw [Controller.course_of_opened hc (direct_transfer_run _ _ _ _ _) (direct_release_run _ _)]
  simp only [exchange, closeFault, List.length_replicate, List.append_assoc, List.cons_append, List.nil_append]

theorem linux_course_of_unopened {f : Failure} (h : b.openFault = some f) :
    linux.course q b = (.unopened f,
      { b with opens := b.opens.tail, calls := b.calls ++ [.openNode (Device.node q.bus)] }) := by
  refine Controller.course_of_unopened ?_
  rw [linux_connect_run, h]

theorem linux_course_of_opened (h : b.openFault = none) :
    linux.course q b =
      (.closed (nodeReply b.exchange q.address (Offset.bytes q.request.offset) (List.replicate q.size.toNat 0))
        (answer b.closeFault ()),
      { b with
        opens := b.opens.tail
        transfers := b.transfers.tail
        closes := b.closes.tail
        descriptors := b.descriptors + 1
        calls := b.calls ++ [.openNode (Device.node q.bus),
          combinedCall (some (101 + b.descriptors)) q.address (Offset.bytes q.request.offset) q.size.toNat,
          .closeNode (some (101 + b.descriptors))] }) := by
  have hc := linux_connect_run b { bus := q.bus }
  rw [h] at hc
  rw [Controller.course_of_opened hc (linux_transfer_run _ _ _ _ _) (linux_release_run _ _)]
  simp only [exchange, closeFault, List.length_replicate, List.append_assoc, List.cons_append, List.nil_append]

theorem mcp2221_course_of_unattached {f : Failure} (h : b.openFault = some f) :
    mcp2221.course q b = (.unopened (Adapter.unavailable q.bus f),
      { b with opens := b.opens.tail, calls := b.calls ++ [.attach q.bus] }) := by
  refine Controller.course_of_unopened ?_
  change Adapter.attach _ b = _
  rw [Adapter.attach_run, h]
  rfl

theorem mcp2221_course_of_untuned {f : Failure} (h : b.openFault = none)
    (hs : b.speedFault = some f) :
    mcp2221.course q b = (.unopened (Adapter.unavailable q.bus f),
      { b with
        opens := b.opens.tail
        speeds := b.speeds.tail
        calls := b.calls ++ [.attach q.bus, .setSpeed 100000] }) := by
  refine Controller.course_of_unopened ?_
  change Adapter.attach _ b = _
  rw [Adapter.attach_run, h, hs]
  rfl

theorem mcp2221_connect_run (h : b.attachFault = none) :
    mcp2221.connect { bus := q.bus } b = (.ok (⟨true, 20⟩ : Adapter),
      { b with
        opens := b.opens.tail
        speeds := b.speeds.tail
        calls := b.calls ++ [.attach q.bus, .setSpeed 100000] }) := by
  obtain ⟨ho, hs⟩ := attachFault_eq_none_iff.mp h
  change Adapter.attach _ b = _
  rw [Adapter.attach_run, ho, hs]
  rfl

theorem mcp2221_course_of_wide (h : b.attachFault = none) (ha : 0x7F < q.address) :
    mcp2221.course q b =
      (.closed ⟨.error (Adapter.sevenBitsOnly q.address), List.replicate q.size.toNat 0⟩ (.ok ()),
      { b with
        opens := b.opens.tail
        speeds := b.speeds.tail
        calls := b.calls ++ [.attach q.bus, .setSpeed 100000] }) :=
  Controller.course_of_opened (mcp2221_connect_run h) (Adapter.transfer_run_of_lt _ _ ha _ _) rfl

theorem mcp2221_course_of_opened (h : b.attachFault = none) (ha : 0 ≤ q.address ∧ q.address ≤ 0x7F) :
    mcp2221.course q b =
      (.closed (Adapter.reply b.exchange q.address (Offset.bytes q.request.offset) (List.replicate q.size.toNat 0))
        (.ok ()),
      { b with
        opens := b.opens.tail
        speeds := b.speeds.tail
        transfers := b.transfers.tail
        calls := b.calls ++ .attach q.bus :: .setSpeed 100000 ::
          Adapter.transferCalls b.exchange q.address (Offset.bytes q.request.offset) q.size.toNat 20 }) := by
  rw [Controller.course_of_opened (mcp2221_connect_run h) (Adapter.transfer_run _ _ ha _ _) rfl]
  simp only [exchange, List.length_replicate, List.append_assoc, List.cons_append, List.nil_append]

/-! ### Replies -/

theorem direct_replies (h : b.openFault = none) :
    direct.Replies q b
      (directReply b.exchange q.address (Offset.bytes q.request.offset) (List.replicate q.size.toNat 0)) :=
  (Controller.course_eq_closed_iff.mp (congrArg Prod.fst (direct_course_of_opened h))).1

theorem linux_replies (h : b.openFault = none) :
    linux.Replies q b
      (nodeReply b.exchange q.address (Offset.bytes q.request.offset) (List.replicate q.size.toNat 0)) :=
  (Controller.course_eq_closed_iff.mp (congrArg Prod.fst (linux_course_of_opened h))).1

theorem mcp2221_replies_of_wide (h : b.attachFault = none) (ha : 0x7F < q.address) :
    mcp2221.Replies q b ⟨.error (Adapter.sevenBitsOnly q.address), List.replicate q.size.toNat 0⟩ :=
  (Controller.course_eq_closed_iff.mp (congrArg Prod.fst (mcp2221_course_of_wide h ha))).1

theorem mcp2221_replies (hq : q.Admitted) (h : b.attachFault = none) (ha : q.address ≤ 0x7F) :
    mcp2221.Replies q b
      (Adapter.reply b.exchange q.address (Offset.bytes q.request.offset) (List.replicate q.size.toNat 0)) :=
  (Controller.course_eq_closed_iff.mp
    (congrArg Prod.fst (mcp2221_course_of_opened h ⟨hq.1.2.2.2.1, ha⟩))).1

theorem openFault_of_direct_replies {reply : Reply} (h : direct.Replies q b reply) : b.openFault = none := by
  rcases hb : b.openFault with _ | f
  · rfl
  · exact absurd (direct_unopened_iff.mpr hb) h.not_unopened

theorem openFault_of_linux_replies {reply : Reply} (h : linux.Replies q b reply) : b.openFault = none := by
  rcases hb : b.openFault with _ | f
  · rfl
  · exact absurd (linux_unopened_iff.mpr hb) h.not_unopened

theorem attachFault_of_replies {reply : Reply} (h : mcp2221.Replies q b reply) : b.attachFault = none := by
  rcases hb : b.attachFault with _ | f
  · rfl
  · exact absurd (mcp2221_unopened_iff.mpr ⟨f, hb, rfl⟩) h.not_unopened

theorem mcp2221_closes {closing : Except Failure Unit} (h : mcp2221.Closes q b closing) : closing = .ok () := by
  obtain ⟨_, _, -, rfl⟩ := h
  rfl

end SmbusPostBox.Bench
