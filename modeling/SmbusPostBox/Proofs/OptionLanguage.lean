import Mathlib.Tactic.SplitIfs
import SmbusPostBox.CommandLine.Run
import SmbusPostBox.Proofs.OptionSpelling

/-! The language of a read's options. A line is taken if each value is one of its option and no number is missing, and
then the last value of each option counts; else the first value that is not taken is told, or what is missing. -/

namespace SmbusPostBox.CommandLine
open Text

/-- The number that a value stands for. The divider, which can only be attached, stands for none. -/
def Field.number? (f : Field) (x : List Char) : Option Int :=
  if x = Word.dividerText then none else (f.bounds.read (String.ofList x)).toOption

def Backend.choice? (x : List Char) : Option Backend :=
  if x = Word.dividerText then none else Backend.ofName? (String.ofList x)

namespace Switch

/-- The values that an option takes. The divider passes whatever the option. -/
inductive Takes : Switch → List Char → Prop
  | number {f : Field} {x : List Char} {n : Int} (h : f.bounds.read (String.ofList x) = .ok n) :
    Takes (.number f) x
  | backend (b : Backend) : Takes .backend b.name.toList
  | divider (s : Switch) : Takes s Word.dividerText

inductive Rejects : Switch → List Char → Misuse → Prop
  | number {f : Field} {x : List Char} {why : Rejection} (hx : x ≠ Word.dividerText)
    (h : f.bounds.read (String.ofList x) = .error why) : Rejects (.number f) x (.number f (String.ofList x) why)
  | backend {x : List Char} (hx : x ≠ Word.dividerText) (h : ∀ b : Backend, String.ofList x ≠ b.name) :
    Rejects .backend x (.backend (String.ofList x))

def rejection? (s : Switch) (x : List Char) : Option Misuse :=
  if x = Word.dividerText then none
  else
    match s with
    | .number f =>
      match f.bounds.read (String.ofList x) with
      | .ok _ => none
      | .error why => some (.number f (String.ofList x) why)
    | .backend => if (Backend.ofName? (String.ofList x)).isSome then none else some (.backend (String.ofList x))
    | _ => none

end Switch

namespace Occurrence

def setting? : Occurrence → Option (Switch × List Char)
  | @attached s _ x => some (s, x)
  | @separate s _ x _ => some (s, x)
  | _ => none

def value? (s : Switch) (o : Occurrence) : Option (List Char) :=
  o.setting?.bind fun p => if p.1 = s then some p.2 else none

def values (s : Switch) (os : List Occurrence) : List (List Char) := os.filterMap (value? s)

def Taken (o : Occurrence) : Prop := ∀ s x, o.setting? = some (s, x) → s.Takes x

def rejection? (o : Occurrence) : Option Misuse := o.setting?.bind fun p => p.1.rejection? p.2

def missing (os : List Occurrence) : List Field := Field.all.filter fun f => values (.number f) os = []

def line (os : List Occurrence) : List String := "read" :: (os.flatMap texts).map String.ofList

/-- What is told about a line that is not taken. -/
inductive Complaint (os : List Occurrence) : Misuse → Prop
  | rejected {before after : List Occurrence} {o : Occurrence} {s : Switch} {x : List Char} {m : Misuse}
    (hos : os = before ++ o :: after) (hbefore : ∀ p ∈ before, p.Taken)
    (ho : o.setting? = some (s, x)) (hx : ¬ s.Takes x) (hm : s.Rejects x m)
    (htitle : ∃ detail, m.message = "argument " ++ s.long ++ ": " ++ detail) : Complaint os m
  | missing (hos : ∀ o ∈ os, o.Taken) (hne : missing os ≠ []) : Complaint os (.missing (missing os))

end Occurrence

namespace Draft

def after (d : Draft) (o : Occurrence) : Draft :=
  match o.setting? with
  | some (.number f, x) => d.set f (f.number? x)
  | some (.backend, x) => { d with backend := Backend.choice? x }
  | some _ => d
  | none => { d with verbose := true }

end Draft

/-! ### Single occurrences -/

theorem Backend.ofName?_eq_some_iff {text : String} {b : Backend} : ofName? text = some b ↔ text = b.name := by
  constructor
  · intro h
    have hname : b.name = text := by simpa using List.find?_some h
    exact hname.symm
  · rintro rfl
    exact ofName?_name b

theorem Spelling.rejection?_eq_none_iff {s : Switch} (n : Spelling s) {x : List Char} :
    s.rejection? x = none ↔ s.Takes x := by
  by_cases hx : x = Word.dividerText
  · subst hx
    exact iff_of_true (by simp only [Switch.rejection?, if_true]) (.divider s)
  · have htakes := n.takesValue
    cases s with
    | number f =>
      simp only [Switch.rejection?, hx, if_false]
      rcases h : f.bounds.read (String.ofList x) with why | m
      · refine iff_of_false nofun ?_
        rintro (hn | _ | _)
        · rw [h] at hn
          cases hn
        · exact hx rfl
      · exact iff_of_true rfl (.number h)
    | backend =>
      simp only [Switch.rejection?, hx, if_false, ite_eq_left_iff, reduceCtorEq, imp_false, not_not]
      constructor
      · intro h
        obtain ⟨b, hb⟩ := Option.isSome_iff_exists.mp h
        have hname := Backend.ofName?_eq_some_iff.mp hb
        have hlist : x = b.name.toList := by rw [← hname, String.toList_ofList]
        exact hlist ▸ .backend b
      · rintro (_ | b | _)
        · rw [String.ofList_toList, Backend.ofName?_name]
          rfl
        · exact absurd rfl hx
    | help => cases htakes
    | verbose => cases htakes

namespace Switch
variable {s : Switch} {x : List Char} {m : Misuse}

theorem rejects_of_rejection? (h : s.rejection? x = some m) : s.Rejects x m := by
  cases s with
  | number f =>
    simp only [rejection?] at h
    split_ifs at h with hx
    rcases hread : f.bounds.read (String.ofList x) with why | n
    · rw [hread] at h
      obtain rfl := Option.some.inj h
      exact .number hx hread
    · rw [hread] at h
      cases h
  | backend =>
    simp only [rejection?] at h
    split_ifs at h with hx hname
    obtain rfl := Option.some.inj h
    refine .backend hx fun b hb => hname ?_
    rw [hb, Backend.ofName?_name]
    rfl
  | help | verbose =>
    simp only [rejection?, ite_self] at h
    cases h

theorem Rejects.message (h : s.Rejects x m) : ∃ detail, m.message = "argument " ++ s.long ++ ": " ++ detail := by
  cases h with
  | number | backend => exact ⟨_, rfl⟩

theorem bundle_replicate (k : Nat) :
    Switch.bundle .read .verbose (List.replicate k 'v') = .ok (List.replicate (k + 1) .verbose) := by
  induction k with
  | zero => rfl
  | succ k ih =>
    have hletter : Vocabulary.read.ofLetter? 'v' = some .verbose := rfl
    rw [List.replicate_succ, Switch.bundle, hletter]
    simp only [ih]
    rfl

end Switch

namespace Draft
variable (d : Draft)

theorem mark_replicate (k : Nat) :
    d.mark (List.replicate (k + 1) .verbose) = .ok { d with verbose := true } := by
  induction k generalizing d with
  | zero => rfl
  | succ k ih =>
    rw [List.replicate_succ, mark]
    exact ih _

theorem assign_number (f : Field) (x : List Char) :
    d.assign (.number f) x = match (Switch.number f).rejection? x with
      | some m => .error m
      | none => .ok (d.set f (f.number? x)) := by
  by_cases hx : x = Word.dividerText
  · simp only [assign, Switch.rejection?, Field.number?, hx, if_true]
  · simp only [assign, Switch.rejection?, Field.number?, hx, if_false]
    rcases f.bounds.read (String.ofList x) with why | n <;> rfl

theorem assign_backend (x : List Char) :
    d.assign .backend x = match Switch.backend.rejection? x with
      | some m => .error m
      | none => .ok { d with backend := Backend.choice? x } := by
  by_cases hx : x = Word.dividerText
  · simp only [assign, Switch.rejection?, Backend.choice?, hx, if_true]
  · simp only [assign, Switch.rejection?, Backend.choice?, hx, if_false]
    rcases Backend.ofName? (String.ofList x) with _ | b <;> rfl

theorem scan_attached {s : Switch} (hs : s.takesValue = true) (single : Bool) (x : List Char) (ws : List Word) :
    d.scan (.switch s single (some x) :: ws) = (stop (d.assign s x)).bind (·.scan ws) := by
  simp only [scan, hs, if_true]
  rfl

theorem scan_separate {s : Switch} (hs : s.takesValue = true) (single : Bool) (x : List Char) (ws : List Word) :
    d.scan (.switch s single none :: .value x :: ws) = (stop (d.assign s x)).bind (·.scan ws) := by
  simp only [scan, hs, if_true]
  rfl

theorem scan_flags {s : Switch} {ss : List Switch} {single : Bool} {attached : Option (List Char)} {d' : Draft}
    (hs : s.takesValue = false) (hflags : s.flags .read single attached = .ok ss) (hmark : d.mark ss = .ok d')
    (ws : List Word) : d.scan (.switch s single attached :: ws) = d'.scan ws := by
  rw [scan.eq_def]
  simp only [hs, Bool.false_eq_true, if_false, hflags]
  change (d.mark ss).bind (·.scan ws) = _
  rw [hmark]
  rfl

theorem assign_eq {s : Switch} (n : Spelling s) (x : List Char) {o : Occurrence} (ho : o.setting? = some (s, x)) :
    d.assign s x = match o.rejection? with
      | some m => .error m
      | none => .ok (d.after o) := by
  have hrejection : o.rejection? = s.rejection? x := by
    rw [Occurrence.rejection?, ho]
    rfl
  have htakes := n.takesValue
  rw [hrejection]
  cases s with
  | number f =>
    simp only [after, ho]
    exact d.assign_number f x
  | backend =>
    simp only [after, ho]
    exact d.assign_backend x
  | help => cases htakes
  | verbose => cases htakes

theorem scan_words (o : Occurrence) (ws : List Word) :
    d.scan (o.words ++ ws) = match o.rejection? with
      | some m => .error (.misuse .read m)
      | none => (d.after o).scan ws := by
  cases o with
  | attached n x =>
    have hassign := d.assign_eq n x (o := .attached n x) rfl
    refine (d.scan_attached n.takesValue false x ws).trans ?_
    rw [hassign]
    rcases (Occurrence.attached n x).rejection? with _ | m <;> rfl
  | separate n x hx =>
    have hassign := d.assign_eq n x (o := .separate n x hx) rfl
    refine (d.scan_separate n.takesValue false x ws).trans ?_
    rw [hassign]
    rcases (Occurrence.separate n x hx).rejection? with _ | m <;> rfl
  | letters more =>
    have hbundle := Switch.bundle_replicate more
    have hmark := d.mark_replicate more
    cases more with
    | zero => exact d.scan_flags rfl rfl hmark ws
    | succ more =>
      have hflags : Switch.flags .read .verbose true (some (List.replicate (more + 1) 'v')) =
          .ok (List.replicate (more + 2) .verbose) := hbundle
      exact d.scan_flags rfl hflags hmark ws
  | verbose => exact d.scan_flags rfl rfl (d.mark_replicate 0) ws

theorem scan_flatMap (os : List Occurrence) :
    d.scan (os.flatMap Occurrence.words) = match os.findSome? Occurrence.rejection? with
      | some m => .error (.misuse .read m)
      | none => .ok (os.foldl after d) := by
  induction os generalizing d with
  | nil => rfl
  | cons o os ih =>
    rw [List.flatMap_cons, scan_words, List.findSome?_cons, List.foldl_cons]
    rcases o.rejection? with _ | m
    · exact ih _
    · rfl

end Draft

/-! ### Drafts of whole lines -/

theorem getLast?_filterMap_cons {α β : Type} (f : α → Option β) (a : α) (l : List α) :
    ((a :: l).filterMap f).getLast? = (l.filterMap f).getLast?.or (f a) := by
  rw [List.filterMap_cons]
  rcases f a with _ | b
  · rw [Option.or_none]
  · rw [List.getLast?_cons]
    rcases (l.filterMap f).getLast? with _ | c <;> rfl

namespace Draft
variable (d : Draft)

theorem number_after (o : Occurrence) (f : Field) :
    (d.after o).number f = ((o.value? (.number f)).map f.number?).or (d.number f) := by
  unfold after Occurrence.value?
  rcases o.setting? with _ | ⟨_ | g | _ | _, x⟩
  · rfl
  · rfl
  · by_cases hg : f = g
    · subst hg
      simp [set]
    · have hg' : ¬ g = f := fun h => hg h.symm
      simp [set, hg, hg']
  · rfl
  · rfl

theorem backend_after (o : Occurrence) :
    (d.after o).backend = ((o.value? .backend).map Backend.choice?).getD d.backend := by
  unfold after Occurrence.value?
  rcases o.setting? with _ | ⟨_ | g | _ | _, x⟩ <;> rfl

theorem verbose_after (o : Occurrence) : (d.after o).verbose = (o.setting?.isNone || d.verbose) := by
  unfold after
  rcases o.setting? with _ | ⟨_ | g | _ | _, x⟩ <;> rfl

theorem extras_after (o : Occurrence) : (d.after o).extras = d.extras := by
  unfold after
  rcases o.setting? with _ | ⟨_ | g | _ | _, x⟩ <;> rfl

theorem number_foldl (os : List Occurrence) (f : Field) :
    (os.foldl after d).number f =
      ((Occurrence.values (.number f) os).getLast?.map f.number?).or (d.number f) := by
  induction os generalizing d with
  | nil => rfl
  | cons o os ih =>
    rw [List.foldl_cons, ih, number_after, Occurrence.values, Occurrence.values, getLast?_filterMap_cons]
    rcases (os.filterMap (Occurrence.value? (.number f))).getLast? with _ | x <;> rfl

theorem backend_foldl (os : List Occurrence) :
    (os.foldl after d).backend =
      ((Occurrence.values .backend os).getLast?.map Backend.choice?).getD d.backend := by
  induction os generalizing d with
  | nil => rfl
  | cons o os ih =>
    rw [List.foldl_cons, ih, backend_after, Occurrence.values, Occurrence.values, getLast?_filterMap_cons]
    rcases (os.filterMap (Occurrence.value? .backend)).getLast? with _ | x <;> rfl

theorem verbose_foldl (os : List Occurrence) :
    (os.foldl after d).verbose = (os.any (·.setting?.isNone) || d.verbose) := by
  induction os generalizing d with
  | nil => rfl
  | cons o os ih =>
    rw [List.foldl_cons, ih, verbose_after, List.any_cons, Bool.or_left_comm, Bool.or_assoc]

theorem extras_foldl (os : List Occurrence) : (os.foldl after d).extras = d.extras := by
  induction os generalizing d with
  | nil => rfl
  | cons o os ih => rw [List.foldl_cons, ih, extras_after]

theorem missing_foldl (os : List Occurrence) : (os.foldl after {}).missing = Occurrence.missing os := by
  unfold missing Occurrence.missing
  apply List.filter_congr
  intro f _
  rw [number_foldl]
  rcases h : Occurrence.values (.number f) os with _ | ⟨x, xs⟩
  · rfl
  · rw [List.getLast?_cons]
    simp

end Draft

namespace Options
variable {ws : List (List Char)}

theorem ofLine_read {o : Options} (h : ofWords ws = .ok (o, [])) : ofLine [] ("read".toList :: ws) = .ok o := by
  change (ofWords ws).bind _ = _
  rw [h]
  rfl

theorem ofLine_read_error {stop : Stop} (h : ofWords ws = .error stop) :
    ofLine [] ("read".toList :: ws) = .error stop := by
  change (ofWords ws).bind _ = _
  rw [h]
  rfl

end Options

namespace Occurrence
variable (os : List Occurrence)

theorem ofWords_texts :
    Options.ofWords (os.flatMap texts) = match os.findSome? rejection? with
      | some m => .error (.misuse .read m)
      | none =>
        if missing os = [] then .ok ((os.foldl Draft.after {}).options, [])
        else .error (.misuse .read (.missing (missing os))) := by
  unfold Options.ofWords
  rw [ofTexts_flatMap]
  change (Draft.scan {} (os.flatMap words)).bind _ = _
  rw [Draft.scan_flatMap]
  rcases os.findSome? rejection? with _ | m
  · have hextras := Draft.extras_foldl {} os
    change (if _ = [] then _ else _) = if _ = [] then _ else _
    rw [Draft.missing_foldl, hextras]
  · rfl

theorem parse_line_eq :
    Options.parse (line os) = match os.findSome? rejection? with
      | some m => .error (.misuse .read m)
      | none =>
        if missing os = [] then .ok (os.foldl Draft.after {}).options
        else .error (.misuse .read (.missing (missing os))) := by
  have hargv : (line os).map String.toList = "read".toList :: os.flatMap texts := by
    simp [line, Function.comp_def]
  have hwords := ofWords_texts os
  rw [Options.parse, hargv]
  generalize os.findSome? rejection? = found at hwords ⊢
  rcases found with _ | m
  · by_cases hmissing : missing os = []
    · simp only [hmissing, if_true] at hwords ⊢
      exact Options.ofLine_read hwords
    · simp only [hmissing, if_false] at hwords ⊢
      exact Options.ofLine_read_error hwords
  · exact Options.ofLine_read_error hwords

variable {os}

theorem rejection?_eq_none_iff {o : Occurrence} : o.rejection? = none ↔ o.Taken := by
  cases o with
  | attached n x =>
    refine n.rejection?_eq_none_iff.trans ⟨?_, fun h => h _ _ rfl⟩
    rintro h _ _ ⟨⟩
    exact h
  | separate n x hx =>
    refine n.rejection?_eq_none_iff.trans ⟨?_, fun h => h _ _ rfl⟩
    rintro h _ _ ⟨⟩
    exact h
  | letters more => exact iff_of_true rfl nofun
  | verbose => exact iff_of_true rfl nofun

theorem mem_values_iff {s : Switch} {x : List Char} :
    x ∈ values s os ↔ ∃ o ∈ os, o.setting? = some (s, x) := by
  have hvalue (o : Occurrence) : o.value? s = some x ↔ o.setting? = some (s, x) := by
    unfold value?
    rcases o.setting? with _ | ⟨t, y⟩
    · exact iff_of_false nofun nofun
    · by_cases hts : t = s
      · simp [hts]
      · simp [hts]
  simp only [values, List.mem_filterMap, hvalue]

theorem findSome?_rejection?_eq_none_iff :
    os.findSome? rejection? = none ↔ ∀ s, ∀ x ∈ values s os, s.Takes x := by
  rw [List.findSome?_eq_none_iff]
  simp only [rejection?_eq_none_iff, Taken, mem_values_iff]
  constructor
  · rintro h s x ⟨o, ho, hset⟩
    exact h o ho s x hset
  · intro h o ho s x hset
    exact h s x ⟨o, ho, hset⟩

theorem missing_eq_nil_iff : missing os = [] ↔ ∀ f, values (.number f) os ≠ [] := by
  simp only [missing, List.filter_eq_nil_iff, decide_eq_true_eq]
  exact ⟨fun h f => h f f.mem_all, fun h f _ => h f⟩

theorem exists_setting?_eq_none_iff :
    os.any (·.setting?.isNone) = true ↔ (∃ more, letters more ∈ os) ∨ verbose ∈ os := by
  rw [List.any_eq_true]
  constructor
  · rintro ⟨o, ho, hnone⟩
    cases o with
    | attached | separate => cases hnone
    | letters more => exact .inl ⟨more, ho⟩
    | verbose => exact .inr ho
  · rintro (⟨more, h⟩ | h)
    · exact ⟨_, h, rfl⟩
    · exact ⟨_, h, rfl⟩

theorem complaint_of_findSome? {m : Misuse} (h : os.findSome? rejection? = some m) : Complaint os m := by
  obtain ⟨before, o, after, hos, ho, hbefore⟩ := List.findSome?_eq_some_iff.mp h
  obtain ⟨⟨s, x⟩, hset, hm⟩ := Option.bind_eq_some_iff.mp ho
  have hx : ¬ s.Takes x := by
    intro hx
    have hnone : o.rejection? = none := by
      rw [rejection?_eq_none_iff, Taken, hset]
      rintro _ _ ⟨⟩
      exact hx
    rw [hnone] at ho
    cases ho
  have htaken : ∀ p ∈ before, p.Taken := fun p hp => rejection?_eq_none_iff.mp (hbefore p hp)
  have hrejects := Switch.rejects_of_rejection? hm
  exact .rejected hos htaken hset hx hrejects hrejects.message

theorem run_of_misuse {σ : Type} {argv : List String} {m : Misuse} (h : Options.parse argv = .error (.misuse .read m))
    (controllers : Backend → Controller σ) (s : σ) :
    run controllers argv s =
      (⟨.ok 2, "", Level.usage .read ++ "smbpbi read: error: " ++ m.message ++ "\n"⟩, s) := by
  have hstderr : (Stop.misuse .read m).stderr =
      Level.usage .read ++ "smbpbi read: error: " ++ m.message ++ "\n" := by
    simp only [Stop.stderr, Level.title, String.append_assoc]
    rfl
  rw [← hstderr]
  simp only [run, h]
  rfl

theorem options_foldl (hmissing : missing os = []) :
    let o := (os.foldl Draft.after {}).options
    (∀ f, ∃ x, (values (.number f) os).getLast? = some x ∧ o.number f = f.number? x) ∧
    o.backend = ((values .backend os).getLast?.map Backend.choice?).getD (some .linux) ∧
    (o.verbose = true ↔ (∃ more, letters more ∈ os) ∨ verbose ∈ os) := by
  refine ⟨fun f => ?_, Draft.backend_foldl {} os, ?_⟩
  · have hgiven := missing_eq_nil_iff.mp hmissing f
    have hnumber := Draft.number_foldl {} os f
    rcases hlast : (values (.number f) os).getLast? with _ | x
    · exact absurd (List.getLast?_eq_none_iff.mp hlast) hgiven
    · rw [hlast] at hnumber
      exact ⟨x, rfl, congrArg Option.join hnumber⟩
  · have hverbose := Draft.verbose_foldl {} os
    rw [← exists_setting?_eq_none_iff, ← Bool.eq_iff_iff]
    exact hverbose.trans (Bool.or_false _)

theorem exists_parse_line_eq_ok_iff :
    (∃ o, Options.parse (line os) = .ok o) ↔
      (∀ s, ∀ x ∈ values s os, s.Takes x) ∧ ∀ f, values (.number f) os ≠ [] := by
  rw [← findSome?_rejection?_eq_none_iff, ← missing_eq_nil_iff, parse_line_eq]
  rcases os.findSome? rejection? with _ | m
  · by_cases hmissing : missing os = []
    · simp only [hmissing, if_true]
      exact iff_of_true ⟨_, rfl⟩ ⟨trivial, trivial⟩
    · simp only [hmissing, if_false]
      exact iff_of_false nofun fun h => h.2
  · exact iff_of_false nofun nofun

theorem options_of_parse_line {o : Options} (h : Options.parse (line os) = .ok o) :
    missing os = [] ∧ (os.foldl Draft.after {}).options = o := by
  rw [parse_line_eq] at h
  rcases hfind : os.findSome? rejection? with _ | m
  · simp only [hfind] at h
    split_ifs at h with hmissing
    exact ⟨hmissing, Except.ok.inj h⟩
  · simp only [hfind] at h
    cases h

theorem complaint_of_parse_line {stop : Stop} (h : Options.parse (line os) = .error stop) :
    ∃ m, stop = .misuse .read m ∧ Complaint os m := by
  rw [parse_line_eq] at h
  rcases hfind : os.findSome? rejection? with _ | m
  · simp only [hfind] at h
    split_ifs at h with hmissing
    have htaken : ∀ o ∈ os, o.Taken := fun o ho =>
      rejection?_eq_none_iff.mp (List.findSome?_eq_none_iff.mp hfind o ho)
    exact ⟨_, (Except.error.inj h).symm, .missing htaken hmissing⟩
  · simp only [hfind] at h
    exact ⟨m, (Except.error.inj h).symm, complaint_of_findSome? hfind⟩

theorem parse_line (os : List Occurrence) :
    let result := Options.parse (line os)
    ((∃ o, result = .ok o) ↔
      (∀ s, ∀ x ∈ values s os, s.Takes x) ∧ ∀ f, values (.number f) os ≠ []) ∧
    (∀ o, result = .ok o →
      (∀ f, ∃ x, (values (.number f) os).getLast? = some x ∧ o.number f = f.number? x) ∧
      o.backend = ((values .backend os).getLast?.map Backend.choice?).getD (some .linux) ∧
      (o.verbose = true ↔ (∃ more, letters more ∈ os) ∨ verbose ∈ os)) ∧
    ∀ stop, result = .error stop → ∃ m, stop = .misuse .read m ∧ Complaint os m ∧
      ∀ (σ : Type) (controllers : Backend → Controller σ) (s : σ), run controllers (line os) s =
        (⟨.ok 2, "", Level.usage .read ++ "smbpbi read: error: " ++ m.message ++ "\n"⟩, s) := by
  refine ⟨exists_parse_line_eq_ok_iff, ?_, ?_⟩
  · intro o ho
    obtain ⟨hmissing, rfl⟩ := options_of_parse_line ho
    exact options_foldl hmissing
  · intro stop hstop
    obtain ⟨m, rfl, hm⟩ := complaint_of_parse_line hstop
    exact ⟨m, rfl, hm, fun σ controllers s => run_of_misuse hstop controllers s⟩

theorem parse_line_divider :
    let argv := ["read", "--bus=--", "--address", "0x50", "--offset", "0x10", "--size", "4"]
    Field.bus.bounds.read "--" = .error .malformed ∧
      ∃ o, Options.parse argv = .ok o ∧ o.number .bus = none ∧ o.number .size = some 4 := by
  intro argv
  let os : List Occurrence := [
    .attached (.whole (.number .bus) rfl) "--".toList,
    .separate (.whole (.number .address) rfl) "0x50".toList (.undashed (by decide)),
    .separate (.whole (.number .offset) rfl) "0x10".toList (.undashed (by decide)),
    .separate (.whole (.number .size) rfl) "4".toList (.undashed (by decide))]
  have htaken : ∀ s, ∀ x ∈ values s os, s.Takes x := by
    intro s x hx
    obtain ⟨o, ho, hset⟩ := mem_values_iff.mp hx
    simp only [os, List.mem_cons, List.not_mem_nil, or_false] at ho
    rcases ho with rfl | rfl | rfl | rfl <;> cases hset
    · exact .divider _
    · exact .number (n := 0x50) rfl
    · exact .number (n := 0x10) rfl
    · exact .number (n := 4) rfl
  have hgiven : ∀ f, values (.number f) os ≠ [] := by
    intro f
    cases f <;> exact nofun
  obtain ⟨htakes, hoptions, -⟩ := parse_line os
  obtain ⟨o, ho⟩ := htakes.mpr ⟨htaken, hgiven⟩
  obtain ⟨hnumber, -⟩ := hoptions o ho
  obtain ⟨x, hx, hbus⟩ := hnumber .bus
  obtain ⟨y, hy, hsize⟩ := hnumber .size
  obtain rfl := Option.some.inj hx
  obtain rfl := Option.some.inj hy
  exact ⟨rfl, o, ho, hbus, hsize⟩

end Occurrence

end SmbusPostBox.CommandLine
