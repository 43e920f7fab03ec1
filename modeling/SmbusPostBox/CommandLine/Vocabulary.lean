import SmbusPostBox.Bounds

/-! The options of the command line, their names and the numbers that they take. -/

namespace SmbusPostBox.CommandLine

inductive Field
  | bus
  | address
  | offset
  | size
  deriving DecidableEq, Repr

inductive Backend
  | linux
  | mcp2221
  deriving DecidableEq, Repr

inductive Switch
  | help
  | number (field : Field)
  | backend
  | verbose
  deriving DecidableEq, Repr

namespace Field

def all : List Field := [bus, address, offset, size]

theorem mem_all (f : Field) : f ∈ all := by cases f <;> decide

def bounds : Field → Bounds
  | bus => ⟨0, some 255⟩
  | address => ⟨0, some 0xFFFF⟩
  | offset => ⟨0, some 0xFFFF⟩
  | size => ⟨0, none⟩

end Field

namespace Backend

def all : List Backend := [linux, mcp2221]

def name : Backend → String
  | linux => "linux"
  | mcp2221 => "mcp2221"

def ofName? (s : String) : Option Backend := all.find? (·.name == s)

theorem ofName?_name (b : Backend) : ofName? b.name = some b := by cases b <;> rfl

end Backend

namespace Switch

def long : Switch → String
  | help => "--help"
  | number .bus => "--bus"
  | number .address => "--address"
  | number .offset => "--offset"
  | number .size => "--size"
  | backend => "--backend"
  | verbose => "--verbose"

def letter? : Switch → Option Char
  | help => some 'h'
  | verbose => some 'v'
  | _ => none

def title (s : Switch) : String :=
  match s.letter? with
  | some c => "-" ++ String.singleton c ++ "/" ++ s.long
  | none => s.long

def takesValue : Switch → Bool
  | number _ => true
  | backend => true
  | _ => false

end Switch

/-- The switches known at some place of the command line, in the order in which they were declared. -/
abbrev Vocabulary := List Switch

namespace Vocabulary

def program : Vocabulary := [.help]

def read : Vocabulary := [.help] ++ Field.all.map .number ++ [.backend, .verbose]

def ofLetter? (v : Vocabulary) (c : Char) : Option Switch := v.find? (·.letter? == some c)

end Vocabulary

end SmbusPostBox.CommandLine
