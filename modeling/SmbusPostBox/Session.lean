import SmbusPostBox.Bench
import SmbusPostBox.Controller

/-! Sessions with one controller, step by step. The handle of the latest successful opening is used until
another opening succeeds, also after it was released. -/

namespace SmbusPostBox

inductive Step
  | connect (o : Opening)
  | transfer (address : Int) (write buffer : Bytes)
  | release
  | enter
  | leave
  deriving DecidableEq, Repr

inductive Answer
  | vacant
  | connected
  | transferred (completed : Int) (buffer : Bytes)
  | released
  | entered
  | left
  | failed (f : Failure)
  | transferFailed (f : Failure) (buffer : Bytes)
  deriving DecidableEq, Repr

namespace Controller

def finish (c : Controller σ) (h : c.Handle) (done : Answer) : StateM σ (Answer × Option c.Handle) := do
  match ← c.release h with
  | (.error f, h) => return (.failed f, some h)
  | (.ok (), h) => return (done, some h)

/-- One step with the handle at hand, if there is one yet. -/
def step (c : Controller σ) : Option c.Handle → Step → StateM σ (Answer × Option c.Handle)
  | h?, .connect o => do
    match ← c.connect o with
    | .error f => return (.failed f, h?)
    | .ok h => return (.connected, some h)
  | none, _ => return (.vacant, none)
  | some h, .transfer address write buffer => do
    let reply ← c.transfer h address write buffer
    match reply.completed with
    | .ok n => return (.transferred n reply.buffer, some h)
    | .error f => return (.transferFailed f reply.buffer, some h)
  | some h, .release => c.finish h .released
  | some h, .enter => return (.entered, some h)
  | some h, .leave => c.finish h .left

def session (c : Controller Bench) (h? : Option c.Handle) :
    List Step → StateM Bench (List (Answer × List Call))
  | [] => return []
  | s :: ss => do
    let ((answer, h?), calls) ← Bench.observe (c.step h? s)
    return (answer, calls) :: (← c.session h? ss)

end Controller

end SmbusPostBox
