import SmbusPostBox.CommandLine.Options

/-! What is printed, and the exit code, when nothing is run. -/

namespace SmbusPostBox.CommandLine

namespace Level

def title : Level → String
  | program => "smbpbi"
  | read => "smbpbi read"

def usage : Level → String
  | program => "usage: smbpbi [-h] \x7bread\x7d ...\n"
  | read =>
    "usage: smbpbi read [-h] --bus BUS --address ADDRESS --offset OFFSET --size\n" ++
    "                   SIZE [--backend \x7blinux,mcp2221\x7d] [-v]\n"

def details : Level → String
  | program =>
    "\nSmbus post-box interface sensor management\n" ++
    "\npositional arguments:\n" ++
    "  \x7bread\x7d\n" ++
    "    read      Read a post-box\n" ++
    "\noptions:\n" ++
    "  -h, --help  show this help message and exit\n"
  | read =>
    "\noptions:\n" ++
    "  -h, --help            show this help message and exit\n" ++
    "  --bus BUS             Post-box interface I2C bus index\n" ++
    "  --address ADDRESS     Post-box interface I2C address\n" ++
    "  --offset OFFSET       Post-box offset\n" ++
    "  --size SIZE           Post-box size\n" ++
    "  --backend \x7blinux,mcp2221\x7d\n" ++
    "                        I2C adapter to use (default: linux)\n" ++
    "  -v, --verbose         Print [DEBUG] lines to stderr\n"

end Level

namespace Stop

def exitCode : Stop → Nat
  | help _ => 0
  | misuse .. => 2

def stdout : Stop → String
  | help level => level.usage ++ level.details
  | misuse .. => ""

def stderr : Stop → String
  | help _ => ""
  | misuse level what => level.usage ++ level.title ++ ": error: " ++ what.message ++ "\n"

end Stop

end SmbusPostBox.CommandLine
