import Mathlib.Data.List.Forall2
import Mathlib.Tactic.SplitIfs
import SmbusPostBox.Printout

/-! Reading the report of a failure back. Nothing of its messages is lost in the report, as long as each of them fits
on a line. -/

namespace SmbusPostBox

namespace Diagnosis

inductive Shows : Fault → String → Prop
  | noted {p : Problem} {c : String} (hc : c ≠ "") : Shows (.postBox p (some c)) (c ++ ": " ++ p.message)
  | unnoted {p : Problem} {c : Option String} (hc : c = none ∨ c = some "") : Shows (.postBox p c) p.message
  | other {f : Fault} (hf : f.isPostBox = false) : Shows f f.bare

/-- All that there is to tell about a failure, from the outermost message on. The context of a post-box problem at its
head is told on its own. -/
inductive Tells : Failure → List String → Prop
  | noted {p : Problem} {c : String} {causes : List Fault} {ms : List String} (hc : c ≠ "")
    (hms : List.Forall₂ Shows causes ms) : Tells ⟨.postBox p (some c), causes⟩ (c :: p.message :: ms)
  | unnoted {p : Problem} {c : Option String} {causes : List Fault} {ms : List String} (hc : c = none ∨ c = some "")
    (hms : List.Forall₂ Shows causes ms) : Tells ⟨.postBox p c, causes⟩ (p.message :: ms)
  | other {f : Fault} {causes : List Fault} {ms : List String} (hf : f.isPostBox = false)
    (hms : List.Forall₂ Shows causes ms) : Tells ⟨f, causes⟩ (f.bare :: ms)

def linesOf (text : String) : List String := (text.split '\n').toList.map (·.copy)

def behind (k : Nat) (line : String) : String := String.ofList (line.toList.drop k)

/-- The messages that a report holds: one behind its heading, the others on the lines under theirs. -/
def ofText (report : String) : List String :=
  match linesOf report with
  | [] => []
  | l :: ls => behind 7 l :: (ls.drop 2).map (behind 4)

def causeLines? (report : String) : Option (List String) :=
  match (linesOf report).dropWhile (· != "Caused by:") with
  | [] => none
  | _ :: ls => some ls

/-! ### What is told -/

section
variable {p : Problem}

theorem context?_of_noted {c : String} (hc : c ≠ "") : Fault.context? (.postBox p (some c)) = some c := if_neg hc

theorem context?_of_unnoted {c : Option String} (hc : c = none ∨ c = some "") :
    Fault.context? (.postBox p c) = none := by
  rcases hc with rfl | rfl <;> rfl

theorem context?_of_other {f : Fault} (hf : f.isPostBox = false) : f.context? = none := by
  cases f with
  | postBox => cases hf
  | refused | os | raised | detached | numberless => rfl

end

theorem fault_cases (f : Fault) :
    (∃ p c, c ≠ "" ∧ f = .postBox p (some c)) ∨ (∃ p c, (c = none ∨ c = some "") ∧ f = .postBox p c) ∨
      f.isPostBox = false := by
  rcases hf : f.isPostBox
  · exact .inr (.inr rfl)
  · cases f with
    | postBox p c =>
      rcases c with _ | c
      · exact .inr (.inl ⟨p, none, .inl rfl, rfl⟩)
      · by_cases hc : c = ""
        · exact .inr (.inl ⟨p, some c, .inr (congrArg some hc), rfl⟩)
        · exact .inl ⟨p, c, hc, rfl⟩
    | refused | os | raised | detached | numberless => cases hf

theorem shows_iff {f : Fault} {m : String} : Shows f m ↔ f.message = m := by
  constructor
  · intro h
    cases h with
    | noted hc => rw [Fault.message, context?_of_noted hc, Fault.bare]
    | unnoted hc => rw [Fault.message, context?_of_unnoted hc, Fault.bare]
    | other hf => rw [Fault.message, context?_of_other hf]
  · rintro rfl
    obtain ⟨p, c, hc, rfl⟩ | ⟨p, c, hc, rfl⟩ | hf := fault_cases f
    · rw [Fault.message, context?_of_noted hc]
      exact .noted hc
    · rw [Fault.message, context?_of_unnoted hc]
      exact .unnoted hc
    · rw [Fault.message, context?_of_other hf]
      exact .other hf

theorem forall₂_shows_iff {causes : List Fault} {ms : List String} :
    List.Forall₂ Shows causes ms ↔ causes.map Fault.message = ms := by
  have hshows : Shows = fun f m => f.message = m := by
    funext f m
    exact propext shows_iff
  rw [hshows, ← List.forall₂_map_left_iff, List.forall₂_eq_eq_eq]

theorem tells_iff {f : Failure} {ms : List String} : Tells f ms ↔ messages f = ms := by
  constructor
  · intro h
    cases h with
    | noted hc hms =>
      rw [messages, context?_of_noted hc, forall₂_shows_iff.mp hms]
      rfl
    | unnoted hc hms =>
      rw [messages, context?_of_unnoted hc, forall₂_shows_iff.mp hms]
      rfl
    | other hf hms =>
      rw [messages, context?_of_other hf, forall₂_shows_iff.mp hms]
      rfl
  · rintro rfl
    obtain ⟨f, causes⟩ := f
    have hcauses : List.Forall₂ Shows causes (causes.map Fault.message) := forall₂_shows_iff.mpr rfl
    obtain ⟨p, c, hc, rfl⟩ | ⟨p, c, hc, rfl⟩ | hf := fault_cases f
    · rw [messages, context?_of_noted hc]
      exact .noted hc hcauses
    · rw [messages, context?_of_unnoted hc]
      exact .unnoted hc hcauses
    · rw [messages, context?_of_other hf]
      exact .other hf hcauses

/-! ### Lines -/

def OneLine (m : String) : Prop := '\n' ∉ m.toList

instance (m : String) : Decidable (OneLine m) := inferInstanceAs (Decidable (_ ∉ _))

theorem linesOf_intercalate {ls : List String} (hne : ls ≠ []) (h : ∀ l ∈ ls, OneLine l) :
    linesOf ("\n".intercalate ls) = ls := by
  have hsplit := String.toList_split_intercalate h
  rwa [if_neg hne] at hsplit

theorem behind_append {s : String} {k : Nat} (hk : s.length = k) (m : String) : behind k (s ++ m) = m := by
  rw [behind, String.toList_append, List.drop_left' hk, String.ofList_toList]

theorem OneLine.append {s m : String} (hs : OneLine s) (hm : OneLine m) : OneLine (s ++ m) := by
  rw [OneLine, String.toList_append, List.mem_append]
  exact not_or.mpr ⟨hs, hm⟩

variable {m : String} {ms : List String}

def reportLines (m : String) (ms : List String) : List String :=
  ("Error: " ++ m) :: if ms = [] then [] else "" :: "Caused by:" :: ms.map ("    " ++ ·)

theorem layout_eq (m : String) (ms : List String) : layout (m :: ms) = "\n".intercalate (reportLines m ms) := by
  rcases ms with _ | ⟨m', ms⟩
  · rw [reportLines, if_pos rfl, String.intercalate_singleton]
    rfl
  · have hheading : "\n\nCaused by:\n" = "\n" ++ ("" ++ ("\n" ++ ("Caused by:" ++ "\n"))) := rfl
    have hlayout : layout (m :: m' :: ms) =
        "Error: " ++ m ++ "\n\nCaused by:\n" ++ "\n".intercalate ((m' :: ms).map ("    " ++ ·)) := rfl
    rw [reportLines, if_neg (List.cons_ne_nil m' ms), hlayout, hheading, List.map_cons, String.intercalate_cons_cons,
      String.intercalate_cons_cons, String.intercalate_cons_cons]
    simp only [String.append_assoc]

theorem reportLines_ne_nil (m : String) (ms : List String) : reportLines m ms ≠ [] := List.cons_ne_nil _ _

theorem oneLine_reportLines (hm : OneLine m) (hms : ∀ m ∈ ms, OneLine m) : ∀ l ∈ reportLines m ms, OneLine l := by
  have hheading : OneLine "Error: " := by decide
  have hblank : OneLine "" := by decide
  have hcaused : OneLine "Caused by:" := by decide
  have hindent : OneLine "    " := by decide
  unfold reportLines
  refine List.forall_mem_cons.mpr ⟨hheading.append hm, ?_⟩
  split_ifs
  · exact nofun
  · refine List.forall_mem_cons.mpr ⟨hblank, List.forall_mem_cons.mpr ⟨hcaused, ?_⟩⟩
    exact List.forall_mem_map.mpr fun m hm => hindent.append (hms m hm)

theorem linesOf_layout (hm : OneLine m) (hms : ∀ m ∈ ms, OneLine m) :
    linesOf (layout (m :: ms)) = reportLines m ms := by
  rw [layout_eq]
  exact linesOf_intercalate (reportLines_ne_nil m ms) (oneLine_reportLines hm hms)

theorem ofText_layout (hm : OneLine m) (hms : ∀ m ∈ ms, OneLine m) : ofText (layout (m :: ms)) = m :: ms := by
  have hheading : "Error: ".length = 7 := by decide
  have hindent : "    ".length = 4 := by decide
  have hindented : (ms.map ("    " ++ ·)).map (behind 4) = ms := by
    rw [List.map_map]
    exact (List.map_congr_left fun m _ => behind_append hindent m).trans (List.map_id ms)
  rw [ofText, linesOf_layout hm hms, reportLines]
  refine List.cons_eq_cons.mpr ⟨behind_append hheading m, ?_⟩
  split_ifs with h
  · exact h.symm
  · exact hindented

theorem causeLines?_layout (hm : OneLine m) (hms : ∀ m ∈ ms, OneLine m) :
    causeLines? (layout (m :: ms)) = if ms = [] then none else some (ms.map ("    " ++ ·)) := by
  have hfirst : ("Error: " ++ m != "Caused by:") = true := by
    rw [bne_iff_ne]
    intro h
    have hchars := congrArg String.toList h
    rw [String.toList_append] at hchars
    have hhead : some 'E' = some 'C' := congrArg List.head? hchars
    exact absurd hhead (by decide)
  rw [causeLines?, linesOf_layout hm hms, reportLines, List.dropWhile_cons_of_pos (p := (· != "Caused by:")) hfirst]
  split_ifs <;> rfl

theorem exists_messages (f : Failure) : ∃ m ms, messages f = m :: ms := by
  unfold messages
  rcases f.head.context? with _ | c
  · exact ⟨_, _, rfl⟩
  · exact ⟨_, _, rfl⟩

/-- A report whose messages fit on a line each tells them all apart, and has a section for all but the first. -/
theorem report_lossless (f : Failure) :
    (∃! ms, Tells f ms) ∧
    ∀ ms, Tells f ms → (∀ m ∈ ms, OneLine m) →
      ofText (text f) = ms ∧
      (∀ g ns, Tells g ns → (∀ n ∈ ns, OneLine n) → ns ≠ ms → text g ≠ text f) ∧
      ((∃ ls, causeLines? (text f) = some ls) ↔ 1 < ms.length) ∧
      ∀ ls, causeLines? (text f) = some ls → ls.length = ms.length - 1 := by
  have hread {g : Failure} {ns : List String} (hns : Tells g ns) (hlines : ∀ n ∈ ns, OneLine n) :
      ofText (text g) = ns := by
    obtain rfl := tells_iff.mp hns
    obtain ⟨m, ms, hms⟩ := exists_messages g
    rw [hms] at hlines
    obtain ⟨hm, hrest⟩ := List.forall_mem_cons.mp hlines
    rw [text, hms, ofText_layout hm hrest]
  refine ⟨⟨messages f, tells_iff.mpr rfl, fun ms hms => (tells_iff.mp hms).symm⟩, fun ms hms hlines => ?_⟩
  refine ⟨hread hms hlines, ?_, ?_⟩
  · intro g ns hns hlines' hne htext
    apply hne
    rw [← hread hns hlines', htext, hread hms hlines]
  · obtain rfl := tells_iff.mp hms
    obtain ⟨m, ms, hmessages⟩ := exists_messages f
    rw [hmessages] at hlines ⊢
    obtain ⟨hm, hrest⟩ := List.forall_mem_cons.mp hlines
    rw [text, hmessages, causeLines?_layout hm hrest]
    rcases ms with _ | ⟨m', ms⟩
    · simp
    · simp

theorem report_lossless_lookalike :
    let f : Failure := ⟨.postBox (.other "    Error: ") (some "Caused by:"),
      [.raised .value [.text "Caused by:"], .postBox (.other "m") (some "c"), .raised .runtime []]⟩
    ofText (text f) = ["Caused by:", "    Error: ", "Caused by:", "c: m", ""] := by
  intro f
  have hcauses : List.Forall₂ Shows [.raised .value [.text "Caused by:"], .postBox (.other "m") (some "c"),
      .raised .runtime []] ["Caused by:", "c: m", ""] :=
    .cons (.other rfl) (.cons (.noted (by decide)) (.cons (.other rfl) .nil))
  exact ((report_lossless f).2 _ (.noted (by decide) hcauses) (by decide)).1

end Diagnosis

end SmbusPostBox
