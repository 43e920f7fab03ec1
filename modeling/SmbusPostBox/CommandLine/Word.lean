import SmbusPostBox.CommandLine.Vocabulary
import SmbusPostBox.Text.Characters

/-! The words of a command line: values, switches with the value that may be attached to them, and the
divider behind which all words are values. A long name may be cut short as long as it fits one switch. -/

namespace SmbusPostBox.CommandLine

open Text

inductive Word
  | value (text : List Char)
  | divider
  | switch (s : Switch) (single : Bool) (attached : Option (List Char))
  | unknown (text : List Char)
  deriving DecidableEq, Repr

namespace Word

def dividerText : List Char := ['-', '-']

def spelling? : Word → Option (List Char)
  | value s => some s
  | divider => some dividerText
  | unknown s => some s
  | switch .. => none

def looksNegative : List Char → Bool
  | '-' :: s =>
    let s := if s.getLast? = some '\n' then s.dropLast else s
    match s.dropWhile DecimalDigit.isDigit with
    | [] => !s.isEmpty
    | '.' :: t => !t.isEmpty && t.all DecimalDigit.isDigit
    | _ => false
  | _ => false

/-- A dashed word that names no switch may be a value all the same. -/
def nameless (w : List Char) : Word :=
  if looksNegative w || w.contains ' ' then value w else unknown w

def splitAttached (w : List Char) : List Char × Option (List Char) :=
  match w.dropWhile (· ≠ '=') with
  | [] => (w, none)
  | _ :: x => (w.takeWhile (· ≠ '='), some x)

/-- The switches whose long name is `name`, or else those whose long name starts with it. -/
def candidates (v : Vocabulary) (name : List Char) : List Switch :=
  match v.find? fun s => s.long.toList == name with
  | some s => [s]
  | none => v.filter fun s => name.isPrefixOf s.long.toList

def ofText (v : Vocabulary) (w : List Char) : Except (List Switch) Word :=
  match w with
  | '-' :: '-' :: _ =>
    let (name, attached) := splitAttached w
    match candidates v name with
    | [] => .ok (nameless w)
    | [s] => .ok (switch s false attached)
    | ss => .error ss
  | '-' :: c :: rest =>
    match v.ofLetter? c with
    | some s =>
      .ok (switch s true (match rest with
        | [] => none
        | '=' :: x => some x
        | x => some x))
    | none => .ok (nameless w)
  | _ => .ok (value w)

def ofTexts (v : Vocabulary) : List (List Char) → Except (List Char × List Switch) (List Word)
  | [] => .ok []
  | w :: ws =>
    if w = dividerText then .ok (divider :: ws.map value)
    else
      match ofText v w with
      | .error ss => .error (w, ss)
      | .ok word => (ofTexts v ws).map (word :: ·)

end Word

end SmbusPostBox.CommandLine
