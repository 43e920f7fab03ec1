import SmbusPostBox.CommandLine.Usage
import SmbusPostBox.Printout
import SmbusPostBox.Reader

/-! Runs of the command line: the bytes read are printed, or the whole chain of what went wrong. -/

namespace SmbusPostBox.CommandLine

/-- What a run leaves: an exit code, unless a failure goes beyond what the program reports, and the texts
printed. -/
structure Report where
  status : Except Failure Nat
  stdout : String := ""
  stderr : String := ""

namespace Options

def query? (o : Options) : Option Query := do
  return ⟨← o.number .bus, ← o.number .address, ← o.number .offset, ← o.number .size⟩

/-- What the first missing number is needed for. The offset is held against its range first, then the size against
zero. -/
def need (o : Options) : Need :=
  if (o.number .offset).isSome ∧ (o.number .size).isNone then .sign else .range

end Options

namespace Report

def ofReading (r : Reading) : Report :=
  match r.result with
  | .ok b => ⟨.ok 0, HexArray.text b ++ "\n", r.log⟩
  | .error f =>
    if f.head.isPostBox then ⟨.ok 1, "", r.log ++ Diagnosis.text f ++ "\n"⟩ else ⟨.error f, "", r.log⟩

def ofStop (s : Stop) : Report := ⟨.ok s.exitCode, s.stdout, s.stderr⟩

end Report

def perform (controllers : Backend → Controller σ) (o : Options) : StateM σ Report :=
  match o.query? with
  | none => return ⟨.error { head := .numberless o.need }, "", ""⟩
  | some q => do
    let reader : Reader σ := ⟨controllers (o.backend.getD .linux), o.verbose⟩
    return .ofReading (← reader.read q)

def run (controllers : Backend → Controller σ) (argv : List String) : StateM σ Report :=
  match Options.parse argv with
  | .error stop => return .ofStop stop
  | .ok o => perform controllers o

end SmbusPostBox.CommandLine
