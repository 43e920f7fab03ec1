import SmbusPostBox.Proofs.FaultConversion
import SmbusPostBox.Proofs.ParsedNumbers

/-! What a run of the program leaves behind. A problem of the post-box is told with the read that it befell and with
its whole chain of causes, wherever it was raised and whatever context it had before. -/

namespace SmbusPostBox
open Text

namespace Text

def lines (ls : List String) : String := String.join (ls.map (· ++ "\n"))

theorem lines_cons (l : String) (ls : List String) : lines (l :: ls) = l ++ "\n" ++ lines ls := by
  simp only [lines, List.map_cons, String.join_cons]

theorem lines_append (ls ls' : List String) : lines (ls ++ ls') = lines ls ++ lines ls' := by
  simp only [lines, List.map_append, String.join_append]

theorem intercalate_append_newline (l : String) (ls : List String) :
    "\n".intercalate (l :: ls) ++ "\n" = lines (l :: ls) := by
  induction ls generalizing l with
  | nil => simp [lines]
  | cons l' ls ih =>
    rw [String.intercalate_cons_cons, String.append_assoc, ih, lines_cons l]

end Text

namespace Query

def told (q : Query) (p : Problem) (causes : List Fault) : List String :=
  ["Error: Unable to read post-box at +" ++ Decimal.text q.offset ++ ", size=" ++ Decimal.text q.size, "",
    "Caused by:"] ++ (p.message :: causes.map Fault.message).map ("    " ++ ·)

theorem context_ne_empty (q : Query) : q.context ≠ "" := by
  intro h
  unfold context at h
  have hfront := (String.append_eq_empty_iff.mp h).1
  have hstart := (String.append_eq_empty_iff.mp (String.append_eq_empty_iff.mp hfront).1).1
  exact absurd hstart (by decide)

theorem lines_told (q : Query) (p : Problem) (causes : List Fault) :
    Diagnosis.text ⟨.postBox p (some q.context), causes⟩ ++ "\n" = lines (q.told p causes) := by
  have hcontext : Fault.context? (.postBox p (some q.context)) = some q.context := by
    simp only [Fault.context?, q.context_ne_empty, if_false]
  have hmessages : Diagnosis.messages ⟨.postBox p (some q.context), causes⟩ =
      q.context :: p.message :: causes.map Fault.message := by
    simp only [Diagnosis.messages, hcontext]
    rfl
  have hindented := intercalate_append_newline ("    " ++ p.message) ((causes.map Fault.message).map ("    " ++ ·))
  have hheading : "Error: Unable to read post-box at +" = "Error: " ++ "Unable to read post-box at +" := rfl
  have hcaused : "\n\nCaused by:\n" = "\n" ++ ("" ++ ("\n" ++ ("Caused by:" ++ "\n"))) := rfl
  simp only [Diagnosis.text, hmessages, Diagnosis.layout, List.map_cons, String.append_assoc, hindented, told,
    hheading, hcaused]
  unfold context
  simp only [List.cons_append, List.nil_append, lines_cons, String.append_assoc]

def verdict {σ : Type} (q : Query) (c : Controller σ) (s : σ) : Except Failure Bytes :=
  if q.size ≤ 8 then (c.course q s).1.verdict q
  else .error { head := .writing [q.size] (.postBox (.sizeBounds q.size 8) none) }

end Query

namespace Controller
variable {σ : Type}

/-- The failures of a read's steps that nothing hides. -/
inductive Raises (c : Controller σ) (q : Query) (s : σ) (f : Failure) : Prop
  | opening (h : c.Unopened q s f)
  | transfer {b : Bytes} (h : c.Replies q s ⟨.error f, b⟩) (hc : c.Closes q s (.ok ()))
  | closing (h : c.Closes q s (.error f))

variable {c : Controller σ} {q : Query} {s : σ} {f : Failure}

theorem Raises.verdict_eq (h : c.Raises q s f) (hf : f.head.isOs = false) (hs : q.size ≤ 8) :
    q.verdict c s = .error f := by
  rw [Query.verdict, if_pos hs]
  cases h with
  | opening h =>
    rw [unopened_iff.mp h]
    exact congrArg Except.error (Device.openingFailure_of_not_isOs hf)
  | transfer h hc =>
    rw [course_eq_closed_iff.mpr ⟨h, hc⟩]
    exact congrArg Except.error (Device.transferFailure_of_not_isOs hf)
  | closing h =>
    obtain ⟨reply, hr⟩ := h.replies
    rw [course_eq_closed_iff.mpr ⟨hr, h⟩]
    rfl

end Controller

namespace Reader
variable {σ : Type} (r : Reader σ) {q : Query} {s : σ}

theorem result_of_inRange (hq : q.InRange) :
    (r.read q s).1.result = (q.verdict r.controller s).mapError (·.inContext q.context) := by
  unfold Query.verdict
  by_cases hs : q.size ≤ 8
  · rw [if_pos hs, read_of_admitted r ⟨hq, hs⟩]
  · rw [if_neg hs, read_of_oversize r hq (Int.not_le.mp hs)]
    rfl

def Debugs (notes : List String) : Prop :=
  (∀ l ∈ notes, ∃ text, l = "[DEBUG] " ++ text) ∧ (r.verbose = false → notes = [])

theorem debugs_nil : r.Debugs [] := ⟨nofun, fun _ => rfl⟩

theorem Debugs.append {r : Reader σ} {notes more : List String} (h : r.Debugs notes) (h' : r.Debugs more) :
    r.Debugs (notes ++ more) := by
  constructor
  · intro l hl
    rcases List.mem_append.mp hl with hl | hl
    · exact h.1 l hl
    · exact h'.1 l hl
  · intro hv
    rw [h.2 hv, h'.2 hv, List.append_nil]

theorem debugs_note (d : Device) (text : String) : r.Debugs (r.note d text) := by
  unfold note
  rcases hv : r.verbose
  · exact ⟨nofun, fun _ => rfl⟩
  · refine ⟨?_, fun h => nomatch hv.symm.trans h⟩
    intro l hl
    obtain rfl := List.mem_singleton.mp hl
    exact ⟨_, by rw [String.append_assoc, String.append_assoc]⟩

theorem debugs_courseNotes (q : Query) (course : Course) : r.Debugs (r.courseNotes q course) := by
  rcases course with f | ⟨⟨f | n, b⟩, closing⟩
  · exact r.debugs_nil
  · exact (r.debugs_note _ _).append r.debugs_nil
  · apply (r.debugs_note _ _).append
    dsimp only
    split_ifs
    · exact r.debugs_note _ _
    · exact r.debugs_nil

theorem debugs_read (q : Query) (s : σ) : r.Debugs (r.read q s).1.notes := by
  by_cases hq : q.Admitted
  · rw [read_of_admitted r hq]
    exact r.debugs_courseNotes q _
  · obtain ⟨f, h⟩ := read_of_not_admitted r (s := s) hq
    rw [h]
    exact r.debugs_nil

end Reader

theorem Failure.inContext_of_not_isPostBox {context : String} (f : Failure) (h : f.head.isPostBox = false) :
    f.inContext context = f := by
  obtain ⟨head, causes⟩ := f
  cases head <;> first | rfl | cases h

namespace CommandLine
variable {σ : Type}

theorem run_of_stop {argv : List String} {stop : Stop} (h : Options.parse argv = .error stop)
    (controllers : Backend → Controller σ) (s : σ) : run controllers argv s = (.ofStop stop, s) := by
  simp only [run, h]
  rfl

theorem run_of_numberless {argv : List String} {o : Options} (h : Options.parse argv = .ok o) (hq : o.query? = none)
    (controllers : Backend → Controller σ) (s : σ) :
    run controllers argv s = (⟨.error { head := .numberless o.need }, "", ""⟩, s) := by
  simp only [run, h, perform, hq]
  rfl

theorem exitCode_eq (stop : Stop) : stop.exitCode = 0 ∨ stop.exitCode = 2 := by
  cases stop with
  | help level => exact .inl rfl
  | misuse level what => exact .inr rfl

namespace Report
variable {reading : Reading}

theorem ofReading_of_ok {b : Bytes} (h : reading.result = .ok b) :
    ofReading reading = ⟨.ok 0, HexArray.text b ++ "\n", lines reading.notes⟩ := by
  simp only [ofReading, h]
  rfl

theorem ofReading_of_postBox {q : Query} {p : Problem} {causes : List Fault}
    (h : reading.result = .error ⟨.postBox p (some q.context), causes⟩) :
    ofReading reading = ⟨.ok 1, "", lines (reading.notes ++ q.told p causes)⟩ := by
  have hlog : reading.log = lines reading.notes := rfl
  simp only [ofReading, h, Fault.isPostBox, if_true, hlog, String.append_assoc, q.lines_told, lines_append]

theorem ofReading_of_uncaught {f : Failure} (h : reading.result = .error f) (hf : f.head.isPostBox = false) :
    ofReading reading = ⟨.error f, "", lines reading.notes⟩ := by
  simp only [ofReading, h, hf, Bool.false_eq_true, if_false]
  rfl

end Report

theorem run_reports (controllers : Backend → Controller σ) (argv : List String) (s : σ) :
    (∀ stop, Options.parse argv = .error stop →
      run controllers argv s = (.ofStop stop, s) ∧ (stop.exitCode = 0 ∨ stop.exitCode = 2)) ∧
    ∀ o, Options.parse argv = .ok o →
      let r : Reader σ := ⟨controllers (o.backend.getD .linux), o.verbose⟩
      let report := (run controllers argv s).1
      (o.query? = none → run controllers argv s = (⟨.error { head := .numberless o.need }, "", ""⟩, s)) ∧
      ∀ q, o.query? = some q → ∃ notes, r.Debugs notes ∧
        (r.read q s).1.result = (q.verdict r.controller s).mapError (·.inContext q.context) ∧
        (∀ b, q.verdict r.controller s = .ok b → report = ⟨.ok 0, HexArray.text b ++ "\n", lines notes⟩) ∧
        (∀ p old causes, q.verdict r.controller s = .error ⟨.postBox p old, causes⟩ →
          report = ⟨.ok 1, "", lines (notes ++ q.told p causes)⟩) ∧
        (∀ f, q.verdict r.controller s = .error f → f.head.isPostBox = false →
          report = ⟨.error f, "", lines notes⟩) ∧
        ∀ p old causes, q.size ≤ 8 → r.controller.Raises q s ⟨.postBox p old, causes⟩ →
          report = ⟨.ok 1, "", lines (notes ++ q.told p causes)⟩ := by
  refine ⟨fun stop h => ⟨run_of_stop h controllers s, exitCode_eq stop⟩, fun o hparse => ?_⟩
  intro r report
  refine ⟨fun hq => run_of_numberless hparse hq controllers s, fun q hquery => ?_⟩
  have hq : q.InRange := (Options.bounded_of_parse hparse).inRange hquery
  have hreport : report = .ofReading (r.read q s).1 := run_of_query? hparse hquery s
  have hresult := r.result_of_inRange (s := s) hq
  have htold (p : Problem) (old : Option String) (causes : List Fault)
      (h : q.verdict r.controller s = .error ⟨.postBox p old, causes⟩) :
      report = ⟨.ok 1, "", lines ((r.read q s).1.notes ++ q.told p causes)⟩ := by
    rw [h] at hresult
    exact hreport.trans (Report.ofReading_of_postBox hresult)
  refine ⟨_, r.debugs_read q s, hresult, ?_, htold, ?_, ?_⟩
  · intro b h
    rw [h] at hresult
    exact hreport.trans (Report.ofReading_of_ok hresult)
  · intro f h hf
    rw [h] at hresult
    have hfail : (r.read q s).1.result = .error f :=
      hresult.trans (congrArg Except.error (f.inContext_of_not_isPostBox hf))
    exact hreport.trans (Report.ofReading_of_uncaught hfail hf)
  · intro p old causes hs hraised
    exact htold p old causes (hraised.verdict_eq rfl hs)

theorem run_reports_late :
    let late : Failure := ⟨.postBox (.other "late") (some "elsewhere"), [.osCode 5 "Input/output error"]⟩
    let b : Bench := { closes := [some late] }
    let argv := ["read", "--bus=1", "--address", "80", "--offset=0x1_0", "--size=0b100"]
    (run (fun _ => Bench.linux) argv b).1 = ⟨.ok 1, "", lines ["Error: Unable to read post-box at +16, size=4", "",
      "Caused by:", "    late", "    [Errno 5] Input/output error"]⟩ := by
  intro late b argv
  let q : Query := ⟨1, 80, 16, 4⟩
  obtain ⟨o, hparse, hgiven⟩ : ∃ o, Options.parse argv = .ok o ∧ (o.query?, o.verbose) = (some q, false) :=
    exists_of_map_toOption (by decide +kernel)
  obtain ⟨hquery, hquiet⟩ := Prod.mk.inj hgiven
  obtain ⟨notes, ⟨-, hnone⟩, -, -, -, -, hraised⟩ :=
    ((run_reports (fun _ => Bench.linux) argv b).2 o hparse).2 q hquery
  have hclosing : Bench.linux.Closes q b (.error late) := ⟨_, _, rfl, rfl⟩
  have hreport := hraised (.other "late") (some "elsewhere") _ (by decide) (.closing hclosing)
  have htold : q.told (.other "late") [.osCode 5 "Input/output error"] =
      ["Error: Unable to read post-box at +16, size=4", "", "Caused by:", "    late",
        "    [Errno 5] Input/output error"] := by decide +kernel
  rw [hnone hquiet, htold] at hreport
  exact hreport

end CommandLine

end SmbusPostBox
