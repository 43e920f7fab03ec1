import SmbusPostBox.CommandLine.Run

/-! The program. It is linked to no bus driver, so it answers as on a machine without any bus. -/

namespace SmbusPostBox

def busless : Controller Unit where
  Handle := Empty
  connect _ := return .error { head := .osCode 19 "No such device" }
  transfer h := h.elim
  release h := h.elim

end SmbusPostBox

def main (argv : List String) : IO UInt32 := do
  let (report, _) := SmbusPostBox.CommandLine.run (fun _ => SmbusPostBox.busless) argv ()
  (← IO.getStdout).putStr report.stdout
  (← IO.getStderr).putStr report.stderr
  match report.status with
  | .ok code => return UInt32.ofNat code
  | .error f =>
    (← IO.getStderr).putStrLn f.head.message
    return 1
