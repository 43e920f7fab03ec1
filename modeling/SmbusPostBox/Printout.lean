import SmbusPostBox.Fault.Message

/-! What is printed: the bytes of a read as an array, and the report of a failure. -/

namespace SmbusPostBox.HexArray

open Text

def line (x : UInt8) : List Char := "    0x".toList ++ Hex.pair x ++ [',']

def chars : Bytes → List Char
  | [] => ['[', ']']
  | b => '[' :: '\n' :: b.flatMap (fun x => line x ++ ['\n']) ++ [']']

def text (b : Bytes) : String := String.ofList (chars b)

end SmbusPostBox.HexArray

namespace SmbusPostBox.Diagnosis

/-- The messages of a failure from the outermost on. The context of its head comes first and stands alone;
deeper ones stay in front of their messages. -/
def messages (f : Failure) : List String :=
  f.head.context?.toList ++ f.head.bare :: f.causes.map Fault.message

def layout : List String → String
  | [] => ""
  | [m] => "Error: " ++ m
  | m :: ms => "Error: " ++ m ++ "\n\nCaused by:\n" ++ "\n".intercalate (ms.map ("    " ++ ·))

def text (f : Failure) : String := layout (messages f)

end SmbusPostBox.Diagnosis
