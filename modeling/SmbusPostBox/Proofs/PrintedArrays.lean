import SmbusPostBox.Proofs.HexArrayReading
import SmbusPostBox.Proofs.ReportReading
import SmbusPostBox.Proofs.RunReports

/-! Byte strings as they are printed, one byte on a line. The text tells its bytes, and nothing that a run prints is
taken for the bytes of a read unless the read gave them. -/

namespace SmbusPostBox
open Text

namespace HexArray
open Diagnosis (linesOf OneLine linesOf_intercalate)

/-- A byte on a line of its own, by the places of its two digits among all sixteen. -/
inductive Entry : UInt8 → String → Prop
  | mk {x : UInt8} {i j : Nat} {high low : Char} (hhigh : "0123456789abcdef".toList[i]? = some high)
    (hlow : "0123456789abcdef".toList[j]? = some low) (hx : x.toNat = i * 16 + j) :
    Entry x ("    0x" ++ String.ofList [high, low] ++ ",")

def entry (x : UInt8) : String := String.ofList (line x)

def rows (b : Bytes) : List String := "[" :: (b.map entry ++ ["]"])

variable {b : Bytes}

/-! ### Entries -/

theorem digitChar_place {d : Nat} (h : d < 16) : "0123456789abcdef".toList[d]? = some (Nat.digitChar d) := by
  revert d
  decide

theorem entry_eq (x : UInt8) : entry x = "    0x" ++ String.ofList (Hex.pair x) ++ "," := by
  rw [entry, line_eq, String.ofList_append, String.ofList_append, String.ofList_toList, String.ofList_toList]

theorem entry_written (x : UInt8) : Entry x (entry x) := by
  have hx : x.toNat < 256 := x.toNat_lt
  have hhigh : x.toNat / 16 < 16 := by omega
  have hlow : x.toNat % 16 < 16 := by omega
  rw [entry_eq]
  exact .mk (digitChar_place hhigh) (digitChar_place hlow) (Nat.div_add_mod' x.toNat 16).symm

theorem forall₂_entries (b : Bytes) : List.Forall₂ Entry b (b.map entry) := by
  induction b with
  | nil => exact .nil
  | cons x b ih => exact .cons (entry_written x) ih

theorem Entry.oneLine {x : UInt8} {l : String} (h : Entry x l) : OneLine l := by
  have hdigits : '\n' ∉ "0123456789abcdef".toList := by decide
  have hfront : OneLine "    0x" := by decide
  have hend : OneLine "," := by decide
  cases h with
  | @mk _ _ high low hhigh hlow _ =>
    have hhigh : '\n' ≠ high := fun h => hdigits (h ▸ List.mem_of_getElem? hhigh)
    have hlow : '\n' ≠ low := fun h => hdigits (h ▸ List.mem_of_getElem? hlow)
    have hpair : OneLine (String.ofList [high, low]) := by
      rw [OneLine, String.toList_ofList]
      exact List.not_mem_cons_of_ne_of_not_mem hhigh (List.not_mem_cons_of_ne_of_not_mem hlow List.not_mem_nil)
    exact (hfront.append hpair).append hend

/-! ### Lines -/

theorem oneLine_rows (b : Bytes) : ∀ l ∈ rows b, OneLine l := by
  have hfront : OneLine "[" := by decide
  have hend : OneLine "]" := by decide
  have hentries : ∀ l ∈ b.map entry, OneLine l := List.forall_mem_map.mpr fun x _ => (entry_written x).oneLine
  exact List.forall_mem_cons.mpr ⟨hfront, List.forall_mem_append.mpr ⟨hentries, List.forall_mem_singleton.mpr hend⟩⟩

theorem lines_entries (b : Bytes) : lines (b.map entry) = String.ofList (b.flatMap (fun x => line x ++ ['\n'])) := by
  induction b with
  | nil => rfl
  | cons x b ih =>
    rw [List.map_cons, lines_cons, ih, List.flatMap_cons, String.ofList_append, String.ofList_append, entry]

theorem chars_of_ne_nil (hb : b ≠ []) :
    chars b = "[\n".toList ++ b.flatMap (fun x => line x ++ ['\n']) ++ "]".toList := by
  cases b with
  | nil => exact absurd rfl hb
  | cons x b => rfl

theorem text_append_newline (hb : b ≠ []) : text b ++ "\n" = lines (rows b) := by
  have hfront : "[\n" = "[" ++ "\n" := rfl
  have hend : "]" ++ "\n" = lines ["]"] := rfl
  rw [text, chars_of_ne_nil hb, String.ofList_append, String.ofList_append, String.ofList_toList,
    String.ofList_toList, rows, lines_cons, lines_append, lines_entries, ← hend, hfront]
  simp only [String.append_assoc]

theorem linesOf_text (hb : b ≠ []) : linesOf (text b) = rows b := by
  -- The last row has no end of line in the text. It gets one on both sides, so that all rows are alike.
  have htext : text b = "\n".intercalate (rows b) := by
    rw [← String.append_left_inj "\n", text_append_newline hb]
    exact (intercalate_append_newline _ _).symm
  rw [htext]
  exact linesOf_intercalate (List.cons_ne_nil _ _) (oneLine_rows b)

theorem length_linesOf_text (hb : b ≠ []) : (linesOf (text b)).length = b.length + 2 := by
  rw [linesOf_text hb, rows, List.length_cons, List.length_append, List.length_map, List.length_singleton]

theorem length_text (hb : b ≠ []) : (text b).length = 10 * b.length + 3 := by
  have hline (x : UInt8) : (line x ++ ['\n']).length = 10 := rfl
  have hfront : "[\n".toList.length = 2 := by decide
  have hend : "]".toList.length = 1 := by decide
  rw [text, String.length_ofList, chars_of_ne_nil hb, List.length_append, List.length_append, List.length_flatMap,
    hfront, hend]
  simp only [hline, List.map_const', List.sum_replicate_nat]
  omega

end HexArray

namespace CommandLine
variable {σ : Type} {b : Bytes}

/-! ### What a run prints -/

theorem nothing_ne_array (b : Bytes) : "" ≠ HexArray.text b ++ "\n" := by
  intro h
  have hnewline := (String.append_eq_empty_iff.mp h.symm).2
  exact absurd hnewline (by decide)

theorem Level.head?_usage (level : Level) : level.usage.toList.head? = some 'u' := by
  cases level with
  | program => decide +kernel
  | read => decide +kernel

theorem Stop.stdout_ne (stop : Stop) (b : Bytes) : stop.stdout ≠ HexArray.text b ++ "\n" := by
  cases stop with
  | misuse level what => exact nothing_ne_array b
  | help level =>
    -- A help text starts with a letter, an array with a bracket.
    have hbracket : (HexArray.text b ++ "\n").toList.head? = some '[' := by
      rw [String.toList_append, HexArray.text, String.toList_ofList]
      cases b <;> rfl
    have husage : (Stop.help level).stdout.toList.head? = some 'u' := by
      rw [Stop.stdout, String.toList_append, List.head?_append, level.head?_usage]
      rfl
    intro h
    rw [h, hbracket] at husage
    exact absurd husage (by decide)

theorem Report.stdout_ofReading_of_error {reading : Reading} {f : Failure} (h : reading.result = .error f) :
    (Report.ofReading reading).stdout = "" := by
  simp only [Report.ofReading, h]
  split_ifs <;> rfl

theorem Report.stdout_ofReading_iff {reading : Reading} :
    (Report.ofReading reading).stdout = HexArray.text b ++ "\n" ↔ reading.result = .ok b := by
  rcases h : reading.result with f | b'
  · rw [Report.stdout_ofReading_of_error h]
    exact iff_of_false (nothing_ne_array b) nofun
  · rw [Report.ofReading_of_ok h, String.append_left_inj, HexArray.text_injective.eq_iff, Except.ok.injEq]

theorem stdout_run_iff (controllers : Backend → Controller σ) (argv : List String) (s : σ) :
    (run controllers argv s).1.stdout = HexArray.text b ++ "\n" ↔
      ∃ o q, Options.parse argv = .ok o ∧ o.query? = some q ∧
        (Reader.read ⟨controllers (o.backend.getD .linux), o.verbose⟩ q s).1.result = .ok b := by
  rcases hparse : Options.parse argv with stop | o
  · rw [run_of_stop hparse]
    exact iff_of_false (stop.stdout_ne b) nofun
  · rcases hquery : o.query? with _ | q
    · rw [run_of_numberless hparse hquery]
      refine iff_of_false (nothing_ne_array b) ?_
      rintro ⟨o, q, ⟨⟩, hq, -⟩
      rw [hquery] at hq
      cases hq
    · rw [run_of_query? hparse hquery, Report.stdout_ofReading_iff]
      constructor
      · exact fun h => ⟨o, q, rfl, hquery, h⟩
      · rintro ⟨o, q, ⟨⟩, hq, h⟩
        obtain rfl := Option.some.inj (hquery.symm.trans hq)
        exact h

end CommandLine

namespace HexArray
open Diagnosis (linesOf)

/-- Arrays and byte strings stand for each other, a byte for a line, and a run prints the array of some bytes exactly if
it has read them. -/
theorem array_tells_bytes :
    (∀ b : Bytes, read? (text b) = some b) ∧
    (∀ t : String, (∃ b, read? t = some b) ↔ ∃ b, text b = t) ∧
    (∀ b b' : Bytes, text b = text b' → b = b') ∧
    text [] = "[]" ∧
    (∀ b : Bytes, b ≠ [] →
      (linesOf (text b)).length = b.length + 2 ∧ (text b).length = 10 * b.length + 3 ∧
      ∃ entries, List.Forall₂ Entry b entries ∧ linesOf (text b) = "[" :: (entries ++ ["]"])) ∧
    ∀ {σ : Type} (controllers : CommandLine.Backend → Controller σ) (argv : List String) (s : σ) (b : Bytes),
      (CommandLine.run controllers argv s).1.stdout = text b ++ "\n" ↔
        ∃ o q, CommandLine.Options.parse argv = .ok o ∧ o.query? = some q ∧
          (Reader.read ⟨controllers (o.backend.getD .linux), o.verbose⟩ q s).1.result = .ok b := by
  refine ⟨read?_text, fun t => ?_, fun b b' h => text_injective h, rfl, fun b hb => ?_, ?_⟩
  · simp only [read?_eq_some_iff]
  · exact ⟨length_linesOf_text hb, length_text hb, b.map entry, forall₂_entries b, linesOf_text hb⟩
  · intro σ controllers argv s b
    exact CommandLine.stdout_run_iff controllers argv s

theorem array_tells_bytes_pair :
    let b : Bytes := [0x00, 0x0f]
    b ≠ [] ∧ (linesOf (text b)).length = 4 ∧ (text b).length = 23 ∧
    ¬ (∃ b, text b = "[\n    0x00,\n    0x0F,\n]") ∧
    ∃ entries, List.Forall₂ Entry b entries ∧ linesOf (text b) = "[" :: (entries ++ ["]"]) := by
  intro b
  have hb : b ≠ [] := List.cons_ne_nil _ _
  obtain ⟨-, haccepts, -, -, hlayout, -⟩ := array_tells_bytes
  obtain ⟨hlines, hlength, hentries⟩ := hlayout b hb
  refine ⟨hb, hlines, hlength, fun hcapital => ?_, hentries⟩
  obtain ⟨b', hb'⟩ := (haccepts _).mpr hcapital
  have hnone : read? "[\n    0x00,\n    0x0F,\n]" = none := by decide +kernel
  rw [hnone] at hb'
  cases hb'

end HexArray

end SmbusPostBox
