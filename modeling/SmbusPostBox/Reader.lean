import SmbusPostBox.Bench
import SmbusPostBox.Controller

/-! Reads of a post-box. Each read opens the bus, sends the offset, takes the answer and closes the bus again;
nothing is kept from one read to the next and nothing is tried twice. -/

namespace SmbusPostBox

open Text

structure Reader (σ : Type) where
  controller : Controller σ
  verbose : Bool := false

structure Reading where
  result : Except Failure Bytes
  notes : List String := []

namespace Reading

def log (r : Reading) : String := String.join (r.notes.map (· ++ "\n"))

end Reading

namespace Reader

def note (r : Reader σ) (d : Device) (text : String) : List String :=
  if r.verbose then ["[DEBUG] " ++ d.text ++ ": " ++ text] else []

/-- The transfer on an open bus. Only a complete one has bytes to show. The count is noted before it is judged,
so one that is too long to be written fails as such. -/
def exchange (r : Reader σ) (h : r.controller.Handle) (d : Device) (q : Request) : StateM σ Reading := do
  let address := Offset.bytes q.offset
  let sent := r.note d ("offset +" ++ Decimal.text q.offset.toNat ++ " -> " ++ Hex.ofBytes address)
  match ← r.controller.execute h d address (List.replicate q.size 0) with
  | (.error f, _) => return ⟨.error f, sent⟩
  | (.ok o, buffer) =>
    if Decimal.Writable o.completed then
      let counted := r.note d (Decimal.text o.completed ++ "/" ++ Decimal.text o.expected ++ " messages")
      return ⟨o.validate.map fun _ => buffer, sent ++ counted⟩
    else return ⟨.error { head := .refused .tooManyDigits }, sent⟩

/-- A size out of bounds is refused before the bus is opened. An open bus is closed whatever happened on it,
and a failure to close it is what remains. -/
def fetch (r : Reader σ) (d : Device) (q : Request) : StateM σ Reading := do
  if Request.maxSize < q.size then
    return ⟨.error { head := .writing [q.size] (.postBox (.sizeBounds q.size Request.maxSize) none) }, []⟩
  match ← r.controller.connect { bus := d.bus.toNat } with
  | .error f => return ⟨.error (d.openingFailure f), []⟩
  | .ok h =>
    let reading ← r.exchange h d q
    match ← r.controller.release h with
    | (.error f, _) => return { reading with result := .error f }
    | (.ok (), _) => return reading

def read (r : Reader σ) (q : Query) : StateM σ Reading :=
  match q.check with
  | .error f => return ⟨.error f, []⟩
  | .ok (d, request) => do
    let reading ← r.fetch d request
    return { reading with result := reading.result.mapError (·.inContext request.context) }

def readAll (r : Reader Bench) (qs : List Query) : StateM Bench (List (Reading × List Call)) :=
  qs.mapM fun q => Bench.observe (r.read q)

end Reader

end SmbusPostBox
