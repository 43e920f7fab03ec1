import SmbusPostBox.CommandLine.Run
import SmbusPostBox.Proofs.QueryAdmission

/-! Numbers that were parsed lie in the ranges of their options, so that no query from a command line is refused. -/

namespace SmbusPostBox.CommandLine

theorem exists_of_bind_eq_ok {ε α β : Type} {x : Except ε α} {f : α → Except ε β} {b : β} (h : x >>= f = .ok b) :
    ∃ a, x = .ok a ∧ f a = .ok b := by
  rcases x with e | a
  · cases h
  · exact ⟨a, rfl, h⟩

theorem exists_of_map_toOption {ε α β : Type} {x : Except ε α} {f : α → β} {b : β} (h : x.toOption.map f = some b) :
    ∃ a, x = .ok a ∧ f a = b := by
  rcases x with e | a
  · cases h
  · exact ⟨a, rfl, Option.some.inj h⟩

namespace Draft
variable {d d' : Draft}

def Bounded (d : Draft) : Prop := ∀ f n, d.number f = some (some n) → f.bounds.Contains n

theorem eq_ok_of_stop_eq_ok {α : Type} {x : Except Misuse α} {a : α} (h : stop x = .ok a) : x = .ok a := by
  rcases x with m | b
  · cases h
  · exact congrArg Except.ok (Except.ok.inj h)

theorem Bounded.set {f : Field} {n : Option Int} (hd : d.Bounded) (hn : ∀ m ∈ n, f.bounds.Contains m) :
    (d.set f n).Bounded := by
  intro g m hg
  by_cases hgf : g = f
  · subst hgf
    simp only [Draft.set, if_true] at hg
    exact hn m (Option.some.inj hg)
  · simp only [Draft.set, hgf, if_false] at hg
    exact hd g m hg

theorem contains_of_read {b : Bounds} {text : String} {n : Int} (h : b.read text = .ok n) : b.Contains n := by
  unfold Bounds.read at h
  split at h
  · cases h
  · split_ifs at h with hn
    obtain rfl := Except.ok.inj h
    exact hn

theorem Bounded.assign {s : Switch} {x : List Char} (hd : d.Bounded) (h : d.assign s x = .ok d') : d'.Bounded := by
  cases s with
  | number f =>
    simp only [Draft.assign] at h
    split_ifs at h
    · obtain rfl := Except.ok.inj h
      exact hd.set nofun
    · rcases hread : f.bounds.read (String.ofList x) with why | n
      · rw [hread] at h
        cases h
      · rw [hread] at h
        obtain rfl := Except.ok.inj h
        apply hd.set
        rintro _ ⟨⟩
        exact contains_of_read hread
  | backend =>
    simp only [Draft.assign] at h
    split_ifs at h
    · obtain rfl := Except.ok.inj h
      exact hd
    · rcases hname : Backend.ofName? (String.ofList x) with _ | b
      · rw [hname] at h
        cases h
      · rw [hname] at h
        obtain rfl := Except.ok.inj h
        exact hd
  | help | verbose =>
    obtain rfl := Except.ok.inj h
    exact hd

theorem Bounded.mark {ss : List Switch} (hd : d.Bounded) (h : d.mark ss = .ok d') : d'.Bounded := by
  induction ss generalizing d with
  | nil =>
    obtain rfl := Except.ok.inj h
    exact hd
  | cons s ss ih =>
    cases s with
    | help => cases h
    | verbose => exact ih (d := { d with verbose := true }) hd h
    | number f => exact ih hd h
    | backend => exact ih hd h

theorem Bounded.scan {ws : List Word} (hd : d.Bounded) (h : d.scan ws = .ok d') : d'.Bounded := by
  fun_induction Draft.scan d ws with
  | case1 d =>
    obtain rfl := Except.ok.inj h
    exact hd
  | case2 d s single hs x ws ih =>
    obtain ⟨d₁, hassign, hscan⟩ := exists_of_bind_eq_ok h
    exact ih d₁ (hd.assign (eq_ok_of_stop_eq_ok hassign)) hscan
  | case3 d s single hs x ws ih =>
    obtain ⟨d₁, hassign, hscan⟩ := exists_of_bind_eq_ok h
    exact ih d₁ (hd.assign (eq_ok_of_stop_eq_ok hassign)) hscan
  | case4 => cases h
  | case5 d s single attached ws hs ih =>
    obtain ⟨ss, -, hmarked⟩ := exists_of_bind_eq_ok h
    obtain ⟨d₁, hmark, hscan⟩ := exists_of_bind_eq_ok hmarked
    exact ih d₁ (hd.mark hmark) hscan
  | case6 d w ws hw ih => exact ih hd h

end Draft

namespace Options
variable {o : Options} {q : Query}

def Bounded (o : Options) : Prop := ∀ f n, o.number f = some n → f.bounds.Contains n

theorem bounded_of_ofWords {ws more : List (List Char)} (h : ofWords ws = .ok (o, more)) : o.Bounded := by
  obtain ⟨words, -, hscan⟩ := exists_of_bind_eq_ok h
  obtain ⟨d, hd, hgiven⟩ := exists_of_bind_eq_ok hscan
  have hbounded : d.Bounded := Draft.Bounded.scan (d := {}) nofun hd
  split_ifs at hgiven
  obtain ⟨rfl, -⟩ := Prod.mk.inj (Except.ok.inj hgiven)
  intro f n hn
  exact hbounded f n (Option.join_eq_some_iff.mp hn)

theorem bounded_of_ofLine {extras ws : List (List Char)} (h : ofLine extras ws = .ok o) : o.Bounded := by
  fun_induction ofLine extras ws with
  | case6 extras w ws hd x hw ih => exact ih h
  | case7 extras ws word hswitch hunknown hd hw =>
    -- The command itself: what follows it is read as options.
    obtain ⟨⟨given, more⟩, hwords, hleft⟩ := exists_of_bind_eq_ok h
    dsimp only at hleft
    split at hleft
    · obtain rfl := Except.ok.inj hleft
      exact bounded_of_ofWords hwords
    · cases hleft
  | case1 | case2 | case3 | case4 | case5 | case8 => cases h

theorem bounded_of_parse {argv : List String} (h : parse argv = .ok o) : o.Bounded := bounded_of_ofLine h

theorem number_of_query? (h : o.query? = some q) :
    o.number .bus = some q.bus ∧ o.number .address = some q.address ∧ o.number .offset = some q.offset ∧
      o.number .size = some q.size := by
  unfold query? at h
  obtain ⟨bus, hbus, h⟩ := Option.bind_eq_some_iff.mp h
  obtain ⟨address, haddress, h⟩ := Option.bind_eq_some_iff.mp h
  obtain ⟨offset, hoffset, h⟩ := Option.bind_eq_some_iff.mp h
  obtain ⟨size, hsize, h⟩ := Option.bind_eq_some_iff.mp h
  obtain rfl := Option.some.inj h
  exact ⟨hbus, haddress, hoffset, hsize⟩

theorem query?_of_number {bus address offset size : Int} (hbus : o.number .bus = some bus)
    (haddress : o.number .address = some address) (hoffset : o.number .offset = some offset)
    (hsize : o.number .size = some size) : o.query? = some ⟨bus, address, offset, size⟩ := by
  simp only [query?, hbus, haddress, hoffset, hsize]
  rfl

theorem exists_query?_iff : (∃ q, o.query? = some q) ↔ ∀ f, o.number f ≠ none := by
  constructor
  · rintro ⟨q, hq⟩ f hf
    obtain ⟨hbus, haddress, hoffset, hsize⟩ := number_of_query? hq
    cases f with
    | bus => cases hbus.symm.trans hf
    | address => cases haddress.symm.trans hf
    | offset => cases hoffset.symm.trans hf
    | size => cases hsize.symm.trans hf
  · intro h
    obtain ⟨bus, hbus⟩ := Option.ne_none_iff_exists'.mp (h .bus)
    obtain ⟨address, haddress⟩ := Option.ne_none_iff_exists'.mp (h .address)
    obtain ⟨offset, hoffset⟩ := Option.ne_none_iff_exists'.mp (h .offset)
    obtain ⟨size, hsize⟩ := Option.ne_none_iff_exists'.mp (h .size)
    exact ⟨_, query?_of_number hbus haddress hoffset hsize⟩

theorem query?_eq_none_iff : o.query? = none ↔ ∃ f, o.number f = none := by
  constructor
  · intro h
    refine Classical.byContradiction fun hnone => ?_
    have hgiven : ∀ f, o.number f ≠ none := fun f hf => hnone ⟨f, hf⟩
    obtain ⟨q, hq⟩ := exists_query?_iff.mpr hgiven
    cases h.symm.trans hq
  · rintro ⟨f, hf⟩
    rcases hq : o.query? with _ | q
    · rfl
    · exact absurd hf (exists_query?_iff.mp ⟨q, hq⟩ f)

theorem Bounded.inRange (ho : o.Bounded) (h : o.query? = some q) : q.InRange := by
  obtain ⟨hbus, haddress, hoffset, hsize⟩ := number_of_query? h
  have hb := ho _ _ hbus
  have ha := ho _ _ haddress
  have hf := ho _ _ hoffset
  have hs := ho _ _ hsize
  exact ⟨⟨hf.1, hf.2 _ rfl⟩, hs.1, ⟨hb.1, hb.2 _ rfl⟩, ha.1, ha.2 _ rfl⟩

end Options

end SmbusPostBox.CommandLine
