import SmbusPostBox.Proofs.ReadRuns
import SmbusPostBox.Proofs.RunReports

/-! What a verbose reader notes. Its lines follow from how far the read got, and but for them it is a quiet reader: it
comes to the same and leaves the hardware the same. -/

namespace SmbusPostBox
open Text

namespace Query

def sentLine (q : Query) : String :=
  "[DEBUG] " ++ q.device.text ++ ": offset +" ++ Decimal.text q.offset ++ " -> " ++
    Hex.ofBytes (Offset.bytes q.request.offset)

def countLine (q : Query) (n : Int) : String := "[DEBUG] " ++ q.device.text ++ ": " ++ Decimal.text n ++ "/2 messages"

end Query

/-- The lines of a verbose read. Only the transfer matters, not what the release comes to. -/
structure Noted {σ : Type} (c : Controller σ) (q : Query) (s : σ) (notes : List String) : Prop where
  refused : ¬ q.Admitted → notes = []
  unopened : ∀ f, c.Unopened q s f → notes = []
  failed : q.Admitted → ∀ f x, c.Replies q s ⟨.error f, x⟩ → notes = [q.sentLine]
  counted : q.Admitted → ∀ n x, c.Replies q s ⟨.ok n, x⟩ → Decimal.Writable n → notes = [q.sentLine, q.countLine n]
  uncounted : q.Admitted → ∀ n x, c.Replies q s ⟨.ok n, x⟩ → ¬ Decimal.Writable n → notes = [q.sentLine]

namespace Reader

section
variable {σ : Type} {c : Controller σ} {q : Query} {s : σ}

/-! ### Lines of a read -/

theorem note_sent (c : Controller σ) (q : Query) :
    note ⟨c, true⟩ q.device
      ("offset +" ++ Decimal.text q.offset ++ " -> " ++ Hex.ofBytes (Offset.bytes q.request.offset)) =
        [q.sentLine] := by
  have hcolon : ": offset +" = ": " ++ "offset +" := rfl
  simp only [note, if_true, Query.sentLine, hcolon, String.append_assoc]

theorem note_count (c : Controller σ) (q : Query) (n : Int) :
    note ⟨c, true⟩ q.device (Decimal.text n ++ "/" ++ Decimal.text 2 ++ " messages") = [q.countLine n] := by
  have hmessages : "/2 messages" = "/" ++ (Decimal.text 2 ++ " messages") := by decide
  simp only [note, if_true, Query.countLine, hmessages, String.append_assoc]

theorem transferNotes_error (c : Controller σ) (q : Query) (f : Failure) (x : Bytes) :
    transferNotes ⟨c, true⟩ q ⟨.error f, x⟩ = [q.sentLine] := by
  simp only [transferNotes, note_sent, List.append_nil]

theorem transferNotes_ok (c : Controller σ) (q : Query) (n : Int) (x : Bytes) :
    transferNotes ⟨c, true⟩ q ⟨.ok n, x⟩ =
      q.sentLine :: if Decimal.Writable n then [q.countLine n] else [] := by
  simp only [transferNotes, note_sent, note_count, List.singleton_append]

theorem notes_of_replies {reply : Reply} (hq : q.Admitted) (h : c.Replies q s reply) :
    (Reader.read ⟨c, true⟩ q s).1.notes = transferNotes ⟨c, true⟩ q reply := by
  obtain ⟨closing, hc⟩ := h.closes
  rw [read_of_admitted _ hq, Controller.course_eq_closed_iff.mpr ⟨h, hc⟩]
  rfl

theorem noted_read (c : Controller σ) (q : Query) (s : σ) : Noted c q s (Reader.read ⟨c, true⟩ q s).1.notes := by
  have hrefused (hq : ¬ q.Admitted) : (Reader.read ⟨c, true⟩ q s).1.notes = [] := by
    obtain ⟨f, h⟩ := read_of_not_admitted ⟨c, true⟩ (s := s) hq
    rw [h]
  constructor
  case refused => exact hrefused
  case unopened =>
    intro f h
    by_cases hq : q.Admitted
    · rw [read_of_admitted _ hq, Controller.unopened_iff.mp h]
      rfl
    · exact hrefused hq
  case failed =>
    intro hq f x h
    rw [notes_of_replies hq h, transferNotes_error]
  case counted =>
    intro hq n x h hn
    rw [notes_of_replies hq h, transferNotes_ok, if_pos hn]
  case uncounted =>
    intro hq n x h hn
    rw [notes_of_replies hq h, transferNotes_ok, if_neg hn]

/-! ### The same reads without their lines -/

theorem read_verbose (c : Controller σ) (verbose : Bool) (q : Query) (s : σ) :
    (Reader.read ⟨c, verbose⟩ q s).1.result = (Reader.read ⟨c, false⟩ q s).1.result ∧
      (Reader.read ⟨c, verbose⟩ q s).2 = (Reader.read ⟨c, false⟩ q s).2 := by
  by_cases hq : q.Admitted
  · rw [read_of_admitted _ hq, read_of_admitted _ hq]
    exact ⟨rfl, rfl⟩
  · refine ⟨congrArg Reading.result (reading_of_not_admitted _ _ s s hq), ?_⟩
    obtain ⟨f, h⟩ := read_of_not_admitted ⟨c, verbose⟩ (s := s) hq
    obtain ⟨g, h'⟩ := read_of_not_admitted ⟨c, false⟩ (s := s) hq
    rw [h, h']

end

section
variable (c : Controller Bench)

theorem callsOf_verbose (verbose : Bool) (q : Query) (b : Bench) :
    callsOf ⟨c, verbose⟩ q b = callsOf ⟨c, false⟩ q b :=
  congrArg Bench.calls (read_verbose c verbose q b.unlogged).2

theorem benchAfter_verbose (verbose : Bool) (q : Query) (b : Bench) :
    benchAfter ⟨c, verbose⟩ q b = benchAfter ⟨c, false⟩ q b := by
  simp only [benchAfter, Bench.observe_run, (read_verbose c verbose q b.unlogged).2]

/-- What a run comes to and does, read by read, without what is noted. -/
def deeds (r : Reader Bench) (qs : List Query) (b : Bench) : List (Except Failure Bytes × List Call) :=
  (r.readAll qs b).1.map fun x => (x.1.result, x.2)

theorem deeds_cons (r : Reader Bench) (q : Query) (qs : List Query) (b : Bench) :
    r.deeds (q :: qs) b = ((r.read q b.unlogged).1.result, r.callsOf q b) :: r.deeds qs (r.benchAfter q b) := by
  simp only [deeds, readAll_cons, List.map_cons]
  rfl

theorem deeds_verbose (verbose : Bool) (qs : List Query) (b : Bench) :
    deeds ⟨c, verbose⟩ qs b = deeds ⟨c, false⟩ qs b ∧
      (readAll ⟨c, verbose⟩ qs b).2 = (readAll ⟨c, false⟩ qs b).2 := by
  induction qs generalizing b with
  | nil => exact ⟨rfl, rfl⟩
  | cons q qs ih =>
    obtain ⟨hdeeds, hbench⟩ := ih (benchAfter ⟨c, false⟩ q b)
    rw [deeds_cons, deeds_cons, readAll_cons, readAll_cons, benchAfter_verbose, callsOf_verbose,
      (read_verbose c verbose q b.unlogged).1, hdeeds, hbench]
    exact ⟨rfl, rfl⟩

theorem log_of_mem_readAll_quiet {qs : List Query} {b : Bench} {x : Reading × List Call}
    (h : x ∈ (readAll ⟨c, false⟩ qs b).1) : x.1.log = "" := by
  obtain ⟨i, hi⟩ := List.mem_iff_getElem?.mp h
  obtain ⟨hlt, -⟩ := List.getElem?_eq_some_iff.mp hi
  rw [length_readAll] at hlt
  have hread := getElem?_readAll ⟨c, false⟩ qs b (List.getElem?_eq_getElem hlt)
  obtain rfl := Option.some.inj (hi.symm.trans hread)
  have hquiet : (Reader.read ⟨c, false⟩ qs[i] (benchAt ⟨c, false⟩ qs b i).unlogged).1.notes = [] :=
    (debugs_read _ _ _).2 rfl
  simp only [Bench.observe_run, Reading.log, hquiet, List.map_nil]
  rfl

end

end Reader

namespace CommandLine

/-! ### Runs of the program -/

theorem Report.ofReading_notes (result : Except Failure Bytes) (notes : List String) :
    ofReading ⟨result, notes⟩ =
      { ofReading ⟨result, []⟩ with stderr := lines notes ++ (ofReading ⟨result, []⟩).stderr } := by
  have hquiet : Reading.log ⟨result, []⟩ = "" := rfl
  have hlog : Reading.log ⟨result, notes⟩ = lines notes := rfl
  unfold ofReading
  rw [hquiet, hlog]
  rcases result with f | b
  · dsimp only
    split_ifs
    · simp only [String.append_assoc, String.empty_append]
    · simp only [String.append_empty]
  · simp only [String.append_empty]

variable {σ : Type} (controllers : Backend → Controller σ) {argv argv' : List String} {o o' : Options}

theorem run_verbose (h : Options.parse argv = .ok o) (h' : Options.parse argv' = .ok o')
    (hnumber : o.number = o'.number) (hbackend : o.backend = o'.backend) (hverbose : o.verbose = true)
    (hquiet : o'.verbose = false) (s : σ) :
    let spoken := run controllers argv s
    let silent := run controllers argv' s
    spoken.2 = silent.2 ∧ ∃ notes, spoken.1 = { silent.1 with stderr := lines notes ++ silent.1.stderr } ∧
      (o.query? = none → notes = []) ∧
      ∀ q, o.query? = some q → Noted (controllers (o.backend.getD .linux)) q s notes := by
  intro spoken silent
  have hsame : o'.query? = o.query? := by
    unfold Options.query?
    rw [hnumber]
  rcases hq : o.query? with _ | q
  · have hspoken : spoken = _ := run_of_numberless h hq controllers s
    have hsilent : silent = _ := run_of_numberless h' (hsame.trans hq) controllers s
    have hneed : o'.need = o.need := by rw [Options.need, Options.need, hnumber]
    rw [hspoken, hsilent, hneed]
    exact ⟨rfl, [], rfl, fun _ => rfl, nofun⟩
  · let c := controllers (o.backend.getD .linux)
    obtain ⟨hresult, hstate⟩ := Reader.read_verbose c true q s
    have hnone : (Reader.read ⟨c, false⟩ q s).1.notes = [] := (Reader.debugs_read _ q s).2 rfl
    have hspoken : spoken = _ := run_eq controllers h hq s
    have hsilent : silent = _ := run_eq controllers h' (hsame.trans hq) s
    rw [hverbose] at hspoken
    rw [hquiet, ← hbackend] at hsilent
    have hloud := Report.ofReading_notes (Reader.read ⟨c, true⟩ q s).1.result (Reader.read ⟨c, true⟩ q s).1.notes
    have hstill : (Reader.read ⟨c, false⟩ q s).1 = ⟨(Reader.read ⟨c, true⟩ q s).1.result, []⟩ := by
      rw [hresult, ← hnone]
    rw [hspoken, hsilent, hstill]
    refine ⟨hstate, (Reader.read ⟨c, true⟩ q s).1.notes, hloud, nofun, ?_⟩
    rintro _ ⟨⟩
    exact Reader.noted_read c q s

end CommandLine

theorem verbose_noninterference (c : Controller Bench) (qs : List Query) (b : Bench) :
    let loud : Reader Bench := ⟨c, true⟩
    let quiet : Reader Bench := ⟨c, false⟩
    (loud.deeds qs b = quiet.deeds qs b ∧ (loud.readAll qs b).2 = (quiet.readAll qs b).2) ∧
    (∀ x ∈ (quiet.readAll qs b).1, x.1.log = "") ∧
    (∀ i q, qs[i]? = some q → ∃ x notes, (loud.readAll qs b).1[i]? = some x ∧ x.1.log = lines notes ∧
      Noted c q (loud.benchAt qs b i).unlogged notes) ∧
    ∀ {σ : Type} (controllers : CommandLine.Backend → Controller σ) (argv argv' : List String)
      (o o' : CommandLine.Options) (s : σ), CommandLine.Options.parse argv = .ok o →
      CommandLine.Options.parse argv' = .ok o' → o.number = o'.number → o.backend = o'.backend →
      o.verbose = true → o'.verbose = false →
      let spoken := CommandLine.run controllers argv s
      let silent := CommandLine.run controllers argv' s
      spoken.2 = silent.2 ∧ ∃ notes, spoken.1 = { silent.1 with stderr := lines notes ++ silent.1.stderr } ∧
        (o.query? = none → notes = []) ∧
        ∀ q, o.query? = some q → Noted (controllers (o.backend.getD .linux)) q s notes := by
  intro loud quiet
  refine ⟨Reader.deeds_verbose c true qs b, fun x hx => Reader.log_of_mem_readAll_quiet c hx, ?_, ?_⟩
  · intro i q hi
    exact ⟨_, _, Reader.getElem?_readAll loud qs b hi, rfl, Reader.noted_read c q _⟩
  · intro σ controllers argv argv' o o' s h h' hnumber hbackend hverbose hquiet
    exact CommandLine.run_verbose controllers h h' hnumber hbackend hverbose hquiet s

example :
    let b : Bench := { closes := [some { head := .osCode 5 "Input/output error" }] }
    (Reader.read ⟨Bench.linux, true⟩ ⟨1, 0x50, 0x10, 4⟩ b).1.notes =
      ["[DEBUG] /dev/i2c-1 @0x50: offset +16 -> 10", "[DEBUG] /dev/i2c-1 @0x50: 2/2 messages"] := by
  decide +kernel

end SmbusPostBox
