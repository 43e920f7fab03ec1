import SmbusPostBox.CommandLine.Vocabulary
import SmbusPostBox.Text.Rendering

/-! How a command line is misused, and what the user is told about it. -/

namespace SmbusPostBox.CommandLine

open Text

inductive Misuse
  | noCommand
  | command (got : String)
  | ambiguous (got : String) (candidates : List Switch)
  | noValue (s : Switch)
  | ignored (s : Switch) (attached : String)
  | number (field : Field) (got : String) (why : Rejection)
  | backend (got : String)
  | missing (fields : List Field)
  | unrecognized (words : List String)
  deriving DecidableEq, Repr

namespace Misuse

def choice (got : String) (choices : List String) : String :=
  "invalid choice: " ++ Quoted.text got ++
    " (choose from " ++ ", ".intercalate (choices.map Quoted.text) ++ ")"

def required (names : List String) : String :=
  "the following arguments are required: " ++ ", ".intercalate names

def about (title message : String) : String := "argument " ++ title ++ ": " ++ message

def message : Misuse → String
  | noCommand => required ["command"]
  | command got => about "command" (choice got ["read"])
  | ambiguous got candidates =>
    "ambiguous option: " ++ got ++ " could match " ++ ", ".intercalate (candidates.map Switch.long)
  | noValue s => about s.title "expected one argument"
  | ignored s attached => about s.title ("ignored explicit argument " ++ Quoted.text attached)
  | number field got why =>
    about (Switch.number field).title
      ((field.bounds.message? got why).getD ("invalid parse value: " ++ Quoted.text got))
  | backend got => about Switch.backend.title (choice got (Backend.all.map Backend.name))
  | missing fields => required (fields.map fun f => (Switch.number f).long)
  | unrecognized words => "unrecognized arguments: " ++ " ".intercalate words

end Misuse

end SmbusPostBox.CommandLine
