import Mathlib.Data.List.Nodup
import Mathlib.Data.List.TakeWhile
import SmbusPostBox.CommandLine.Options

/-! The ways to write an option of a read: by its whole name or by a part of it that no other name begins with, and
with the value attached or as the next text. Whichever way is taken, the words that are meant are the ones read. -/

namespace SmbusPostBox.CommandLine
open Text

structure Spelling (s : Switch) where
  name : List Char
  takesValue : s.takesValue = true
  front : name <+: s.long.toList
  distinct : name = s.long.toList ∨ ∀ t ∈ Vocabulary.read, name <+: t.long.toList → t = s

inductive Negative : List Char → Prop
  | whole {ds tail : List Char} (hne : ds ≠ []) (hds : ∀ c ∈ ds, DecimalDigit.isDigit c = true)
    (ht : tail = [] ∨ tail = ['\n']) : Negative ('-' :: (ds ++ tail))
  | point {ds es tail : List Char} (hds : ∀ c ∈ ds, DecimalDigit.isDigit c = true) (hne : es ≠ [])
    (hes : ∀ c ∈ es, DecimalDigit.isDigit c = true) (ht : tail = [] ∨ tail = ['\n']) :
    Negative ('-' :: (ds ++ '.' :: es ++ tail))

inductive Plain : List Char → Prop
  | undashed {x : List Char} (h : x.head? ≠ some '-') : Plain x
  | dash : Plain ['-']
  | negative {x : List Char} (h : Negative x) : Plain x

/-- One option or flag as it stands on the command line. -/
inductive Occurrence
  | attached {s : Switch} (spelling : Spelling s) (x : List Char)
  | separate {s : Switch} (spelling : Spelling s) (x : List Char) (h : Plain x)
  | letters (more : Nat)
  | verbose

namespace Occurrence

def texts : Occurrence → List (List Char)
  | attached n x => [n.name ++ '=' :: x]
  | separate n x _ => [n.name, x]
  | letters more => ['-' :: List.replicate (more + 1) 'v']
  | verbose => [Switch.verbose.long.toList]

def words : Occurrence → List Word
  | @attached s _ x => [.switch s false (some x)]
  | @separate s _ x _ => [.switch s false none, .value x]
  | letters 0 => [.switch .verbose true none]
  | letters (more + 1) => [.switch .verbose true (some (List.replicate (more + 1) 'v'))]
  | verbose => [.switch .verbose false none]

end Occurrence

namespace Switch

theorem mem_read (s : Switch) : s ∈ Vocabulary.read := by
  rcases s with _ | f | _ | _
  · decide
  · cases f <;> decide
  · decide
  · decide

theorem long_eq_dashed (s : Switch) : ∃ c cs, s.long.toList = '-' :: '-' :: c :: cs := by
  rcases s with _ | f | _ | _
  · exact ⟨_, _, rfl⟩
  · cases f <;> exact ⟨_, _, rfl⟩
  · exact ⟨_, _, rfl⟩
  · exact ⟨_, _, rfl⟩

theorem equals_notMem_long (s : Switch) : '=' ∉ s.long.toList := by
  rcases s with _ | f | _ | _
  · decide
  · cases f <;> decide
  · decide
  · decide

theorem find?_long (s : Switch) :
    Vocabulary.read.find? (fun t => t.long.toList == s.long.toList) = some s := by
  rcases s with _ | f | _ | _
  · rfl
  · cases f <;> rfl
  · rfl
  · rfl

end Switch

namespace Spelling

def whole (s : Switch) (h : s.takesValue = true) : Spelling s := ⟨s.long.toList, h, List.prefix_refl _, .inl rfl⟩

variable {s : Switch} (n : Spelling s)

theorem not_front_dashes : ¬ n.name <+: Word.dividerText := by
  intro h
  obtain ⟨c, cs, hlong⟩ := s.long_eq_dashed
  rcases n.distinct with hname | honly
  · have hle := h.length_le
    rw [hname, hlong] at hle
    simp [Word.dividerText] at hle
  · have hfront (t : Switch) : n.name <+: t.long.toList := by
      obtain ⟨c, cs, ht⟩ := t.long_eq_dashed
      rw [ht]
      exact h.trans ⟨c :: cs, rfl⟩
    have hhelp := honly .help (Switch.mem_read _) (hfront _)
    have hverbose := honly .verbose (Switch.mem_read _) (hfront _)
    rw [← hhelp] at hverbose
    cases hverbose

theorem ne_divider : n.name ≠ Word.dividerText := by
  intro h
  have hnot := n.not_front_dashes
  rw [h] at hnot
  exact hnot (List.prefix_refl _)

theorem exists_eq_dashed : ∃ cs, n.name = '-' :: '-' :: cs := by
  obtain ⟨c, cs, hlong⟩ := s.long_eq_dashed
  have hdashes : Word.dividerText <+: s.long.toList := by
    rw [hlong]
    exact ⟨c :: cs, rfl⟩
  rcases List.prefix_or_prefix_of_prefix hdashes n.front with h | h
  · obtain ⟨rest, hrest⟩ := h
    exact ⟨rest, hrest.symm⟩
  · exact absurd h n.not_front_dashes

theorem equals_notMem : '=' ∉ n.name := fun h => s.equals_notMem_long (n.front.subset h)

theorem candidates_eq : Word.candidates .read n.name = [s] := by
  unfold Word.candidates
  rcases n.distinct with hname | honly
  · rw [hname, s.find?_long]
  · rcases hfind : Vocabulary.read.find? (fun t => t.long.toList == n.name) with _ | t
    · have hiff : ∀ t ∈ Vocabulary.read, n.name.isPrefixOf t.long.toList = (t == s) := by
        intro t ht
        rw [Bool.eq_iff_iff, List.isPrefixOf_iff_prefix, beq_iff_eq]
        constructor
        · exact honly t ht
        · rintro rfl
          exact n.front
      have hcount : Vocabulary.read.count s = 1 :=
        List.count_eq_one_of_mem (by decide) s.mem_read
      rw [hfind]
      change Vocabulary.read.filter (fun t => n.name.isPrefixOf t.long.toList) = [s]
      rw [List.filter_congr hiff, List.filter_beq, hcount, List.replicate_one]
    · have hlong : t.long.toList = n.name := by simpa using List.find?_some hfind
      have ht : t = s := honly t (Switch.mem_read t) (hlong ▸ List.prefix_refl _)
      rw [hfind, ht]

theorem splitAttached_attached (x : List Char) :
    Word.splitAttached (n.name ++ '=' :: x) = (n.name, some x) := by
  have hpos : ∀ c ∈ n.name, decide (c ≠ '=') = true := by
    intro c hc
    rw [decide_eq_true_iff]
    rintro rfl
    exact n.equals_notMem hc
  simp only [Word.splitAttached, List.dropWhile_append_of_pos hpos, List.takeWhile_append_of_pos hpos,
    List.dropWhile_cons, List.takeWhile_cons, ne_eq, not_true_eq_false, decide_false, Bool.false_eq_true,
    if_false, List.append_nil]

theorem splitAttached_name : Word.splitAttached n.name = (n.name, none) := by
  have hnil : n.name.dropWhile (· ≠ '=') = [] := by
    rw [List.dropWhile_eq_nil_iff]
    intro c hc
    rw [decide_eq_true_iff]
    rintro rfl
    exact n.equals_notMem hc
  simp only [Word.splitAttached, hnil]

theorem ofText_attached (x : List Char) :
    Word.ofText .read (n.name ++ '=' :: x) = .ok (.switch s false (some x)) := by
  have hsplit := n.splitAttached_attached x
  obtain ⟨cs, hname⟩ := n.exists_eq_dashed
  rw [hname, List.cons_append, List.cons_append] at hsplit ⊢
  simp only [Word.ofText, hsplit]
  rw [← hname, n.candidates_eq]

theorem ofText_name : Word.ofText .read n.name = .ok (.switch s false none) := by
  have hsplit := n.splitAttached_name
  obtain ⟨cs, hname⟩ := n.exists_eq_dashed
  rw [hname] at hsplit ⊢
  simp only [Word.ofText, hsplit]
  rw [← hname, n.candidates_eq]

end Spelling

/-! ### Values that stand alone -/

theorem chomp_append {cs tail : List Char} (h : cs.getLast? ≠ some '\n') (ht : tail = [] ∨ tail = ['\n']) :
    (if (cs ++ tail).getLast? = some '\n' then (cs ++ tail).dropLast else cs ++ tail) = cs := by
  rcases ht with rfl | rfl
  · rw [List.append_nil, if_neg h]
  · rw [List.getLast?_concat, if_pos rfl, List.dropLast_concat]

theorem getLast?_ne_newline {cs : List Char} (h : ∀ c ∈ cs, DecimalDigit.isDigit c = true) :
    cs.getLast? ≠ some '\n' := by
  intro hlast
  have hdigit := h _ (List.mem_of_getLast? hlast)
  revert hdigit
  decide

namespace Negative
variable {x : List Char}

theorem looksNegative (h : Negative x) : Word.looksNegative x = true := by
  cases h with
  | @whole ds tail hne hds ht =>
    have hchomp := chomp_append (getLast?_ne_newline hds) ht
    have hdrop : ds.dropWhile DecimalDigit.isDigit = [] := List.dropWhile_eq_nil_iff.mpr hds
    simp only [Word.looksNegative, hchomp, hdrop]
    simpa using hne
  | @point ds es tail hds hne hes ht =>
    have hlast : (ds ++ '.' :: es).getLast? ≠ some '\n' := by
      have hes' := getLast?_ne_newline hes
      rw [List.getLast?_append, List.getLast?_cons]
      rcases hl : es.getLast? with _ | c
      · exact absurd (List.getLast?_eq_none_iff.mp hl) hne
      · rw [hl] at hes'
        simpa using hes'
    have hchomp := chomp_append hlast ht
    have hdrop : (ds ++ '.' :: es).dropWhile DecimalDigit.isDigit = '.' :: es := by
      rw [List.dropWhile_append_of_pos hds]
      rfl
    simp only [Word.looksNegative, hchomp, hdrop, Bool.and_eq_true, List.all_eq_true]
    exact ⟨by simpa using hne, hes⟩

theorem exists_eq_cons (h : Negative x) :
    ∃ c cs, x = '-' :: c :: cs ∧ c ≠ '-' ∧ Vocabulary.read.ofLetter? c = none := by
  have hdigit {c : Char} (hc : DecimalDigit.isDigit c = true) :
      c ≠ '-' ∧ Vocabulary.read.ofLetter? c = none := by
    constructor
    · rintro rfl
      revert hc
      decide
    · apply List.find?_eq_none.mpr
      intro s _ hs
      have hs : s.letter? = some c := by simpa using hs
      rcases s with _ | f | _ | _ <;> cases hs <;> revert hc <;> decide
  cases h with
  | @whole ds tail hne hds ht =>
    obtain ⟨d, ds, rfl⟩ := List.exists_cons_of_ne_nil hne
    obtain ⟨hd, hletter⟩ := hdigit (hds d List.mem_cons_self)
    exact ⟨d, ds ++ tail, rfl, hd, hletter⟩
  | @point ds es tail hds hne hes ht =>
    rcases ds with _ | ⟨d, ds⟩
    · exact ⟨'.', es ++ tail, rfl, by decide, by decide⟩
    · obtain ⟨hd, hletter⟩ := hdigit (hds d List.mem_cons_self)
      exact ⟨d, ds ++ '.' :: es ++ tail, rfl, hd, hletter⟩

end Negative

namespace Plain
variable {x : List Char}

theorem ofText_eq_value (h : Plain x) : Word.ofText .read x = .ok (.value x) := by
  cases h with
  | undashed h =>
    unfold Word.ofText
    split
    · exact absurd rfl h
    · exact absurd rfl h
    · rfl
  | dash => rfl
  | negative h =>
    obtain ⟨c, cs, rfl, hc, hletter⟩ := h.exists_eq_cons
    have hvalue : Word.nameless ('-' :: c :: cs) = .value ('-' :: c :: cs) := by
      simp only [Word.nameless, h.looksNegative, Bool.true_or, if_true]
    unfold Word.ofText
    split
    · next heq =>
      cases heq
      exact absurd rfl hc
    · next heq =>
      cases heq
      rw [hletter]
      exact congrArg Except.ok hvalue
    · rfl

theorem ne_divider (h : Plain x) : x ≠ Word.dividerText := by
  rintro rfl
  cases h with
  | undashed h => exact h rfl
  | negative h =>
    obtain ⟨c, cs, hx, hc, -⟩ := h.exists_eq_cons
    cases hx
    exact hc rfl

end Plain

/-! ### Whole lines -/

namespace Word

theorem ofTexts_cons {w : List Char} {word : Word} (hd : w ≠ dividerText) (h : ofText .read w = .ok word)
    (ws : List (List Char)) : ofTexts .read (w :: ws) = (ofTexts .read ws).map (word :: ·) := by
  simp only [ofTexts, hd, if_false, h]

end Word

namespace Occurrence

theorem ofTexts_texts (o : Occurrence) (ws : List (List Char)) :
    Word.ofTexts .read (o.texts ++ ws) = (Word.ofTexts .read ws).map (o.words ++ ·) := by
  cases o with
  | attached n x =>
    have hne : n.name ++ '=' :: x ≠ Word.dividerText := by
      intro h
      have hmem : '=' ∈ Word.dividerText := h ▸ List.mem_append_right _ List.mem_cons_self
      revert hmem
      decide
    exact Word.ofTexts_cons hne (n.ofText_attached x) ws
  | separate n x hx =>
    have hvalue := Word.ofTexts_cons hx.ne_divider hx.ofText_eq_value ws
    have hname := Word.ofTexts_cons n.ne_divider n.ofText_name (x :: ws)
    rw [hvalue] at hname
    refine hname.trans ?_
    rcases Word.ofTexts .read ws with _ | words <;> rfl
  | letters more =>
    have hne : '-' :: List.replicate (more + 1) 'v' ≠ Word.dividerText := by
      simp [Word.dividerText, List.replicate_succ]
    cases more with
    | zero => exact Word.ofTexts_cons hne rfl ws
    | succ more => exact Word.ofTexts_cons hne rfl ws
  | verbose => exact Word.ofTexts_cons (by decide) rfl ws

theorem ofTexts_flatMap (os : List Occurrence) :
    Word.ofTexts .read (os.flatMap texts) = .ok (os.flatMap words) := by
  induction os with
  | nil => rfl
  | cons o os ih =>
    rw [List.flatMap_cons, ofTexts_texts, ih, List.flatMap_cons]
    rfl

end Occurrence

end SmbusPostBox.CommandLine
