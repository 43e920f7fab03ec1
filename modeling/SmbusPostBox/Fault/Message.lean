import SmbusPostBox.Fault
import SmbusPostBox.Text.Rendering

/-! The text of each fault. -/

namespace SmbusPostBox

open Text

namespace Refusal

def message : Refusal → String
  | offset n => "offset must be in [0, 0xFFFF], got " ++ Decimal.text n
  | size n => "size must be non-negative, got " ++ Decimal.text n
  | busIndex n => "bus index must be in [0, 255], got " ++ Decimal.text n
  | address n => "device address must be in [0, 0xFFFF], got " ++ Decimal.text n
  | tooManyDigits =>
    "Exceeds the limit (4300 digits) for integer string conversion; " ++
      "use sys.set_int_max_str_digits() to increase the limit"

end Refusal

namespace OsReport

def message : OsReport → String
  | blank => ""
  | note text => text
  | code number text => "[Errno " ++ Decimal.text number ++ "] " ++ text
  | codeAt number text file => "[Errno " ++ Decimal.text number ++ "] " ++ text ++ ": " ++ Quoted.text file

end OsReport

namespace Datum

def plain : Datum → String
  | text s => s
  | number n => Decimal.text n

def quoted : Datum → String
  | text s => Quoted.text s
  | number n => Decimal.text n

def tuple (data : List Datum) : String := "(" ++ ", ".intercalate (data.map quoted) ++ ")"

end Datum

namespace Signal

def name : Signal → String
  | value => "ValueError"
  | key => "KeyError"
  | runtime => "RuntimeError"
  | unimplemented => "NotImplementedError"
  | nack => "NotAckError"
  | adapterTimeout => "TimeoutError"
  | clockLow => "LowSCLError"
  | dataLow => "LowSDAError"

/-- A single datum is shown bare, but a missing key quoted. -/
def message : Signal → List Datum → String
  | _, [] => ""
  | key, [d] => d.quoted
  | _, [d] => d.plain
  | _, data => Datum.tuple data

def describe (s : Signal) (data : List Datum) : String := s.name ++ Datum.tuple data

end Signal

namespace Need

def message : Need → String
  | descriptor => "argument must be an int, or have a fileno() method."
  | range => "'<=' not supported between instances of 'int' and 'list'"
  | sign => "'<' not supported between instances of 'list' and 'int'"

end Need

namespace Problem

def message : Problem → String
  | other message => message
  | sizeBounds size maximum =>
    "Maximum post-box size is " ++ Decimal.text maximum ++ " bytes (requested " ++ Decimal.text size ++ ")"
  | bus message _ _ => message
  | incomplete completed expected =>
    "Only " ++ Decimal.text completed ++ "/" ++ Decimal.text expected ++
      " messages were transmitted successfully"

end Problem

namespace Fault

def context? : Fault → Option String
  | postBox _ (some c) => if c = "" then none else some c
  | _ => none

def bare : Fault → String
  | refused why => why.message
  | os _ report => report.message
  | raised signal data => signal.message data
  | detached => "'NoneType' object has no attribute 'I2C_write'"
  | numberless need => need.message
  | postBox problem _ => problem.message

def message (f : Fault) : String :=
  match f.context? with
  | some c => c ++ ": " ++ f.bare
  | none => f.bare

end Fault

end SmbusPostBox
