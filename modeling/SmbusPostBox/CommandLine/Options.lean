import SmbusPostBox.CommandLine.Misuse
import SmbusPostBox.CommandLine.Word

/-! The options of a read, collected word by word. Each value is checked where it stands, and the last
one counts. -/

namespace SmbusPostBox.CommandLine

inductive Level
  | program
  | read
  deriving DecidableEq, Repr

inductive Stop
  | help (level : Level)
  | misuse (level : Level) (what : Misuse)
  deriving DecidableEq, Repr

/-- The options of a read. An option that was given without a value holds `none`. -/
structure Options where
  number : Field → Option Int
  backend : Option Backend := some .linux
  verbose : Bool := false

structure Draft where
  number : Field → Option (Option Int) := fun _ => none
  backend : Option Backend := some .linux
  verbose : Bool := false
  extras : List (List Char) := []

namespace Switch

def bundle (v : Vocabulary) (s : Switch) : List Char → Except Misuse (List Switch)
  | [] => .ok [s]
  | c :: cs =>
    match v.ofLetter? c with
    | some t => (t.bundle v cs).map (s :: ·)
    | none => .error (.ignored s (String.ofList (c :: cs)))

/-- The flags that a word raises. Only letters can be attached to a flag, and only to one that is spelled
as a letter itself. -/
def flags (v : Vocabulary) (s : Switch) (single : Bool) (attached : Option (List Char)) :
    Except Misuse (List Switch) :=
  match attached with
  | none => .ok [s]
  | some x => if single && !x.isEmpty then s.bundle v x else .error (.ignored s (String.ofList x))

end Switch

namespace Draft

def set (d : Draft) (field : Field) (n : Option Int) : Draft :=
  { d with number := fun f => if f = field then some n else d.number f }

/-- Takes a value for a switch. A value that is just the divider is dropped. -/
def assign (d : Draft) (s : Switch) (x : List Char) : Except Misuse Draft :=
  let text := String.ofList x
  match s with
  | .number field =>
    if x = Word.dividerText then .ok (d.set field none)
    else
      match field.bounds.read text with
      | .ok n => .ok (d.set field (some n))
      | .error why => .error (.number field text why)
  | .backend =>
    if x = Word.dividerText then .ok { d with backend := none }
    else
      match Backend.ofName? text with
      | some b => .ok { d with backend := some b }
      | none => .error (.backend text)
  | _ => .ok d

def mark (d : Draft) : List Switch → Except Stop Draft
  | [] => .ok d
  | .help :: _ => .error (.help .read)
  | .verbose :: ss => mark { d with verbose := true } ss
  | _ :: ss => mark d ss

def leave (d : Draft) (w : Word) : Draft := { d with extras := d.extras ++ w.spelling?.toList }

def stop (m : Except Misuse α) : Except Stop α := m.mapError (.misuse .read)

def scan (d : Draft) : List Word → Except Stop Draft
  | [] => .ok d
  | .switch s single attached :: ws =>
    if s.takesValue then
      match attached, ws with
      | some x, ws => do (← stop (d.assign s x)).scan ws
      | none, .value x :: ws => do (← stop (d.assign s x)).scan ws
      | none, _ => .error (.misuse .read (.noValue s))
    else do (← d.mark (← stop (s.flags .read single attached))).scan ws
  | w :: ws => (d.leave w).scan ws

def missing (d : Draft) : List Field := Field.all.filter fun f => (d.number f).isNone

def options (d : Draft) : Options :=
  { number := fun f => (d.number f).join, backend := d.backend, verbose := d.verbose }

end Draft

namespace Options

def ofWords (ws : List (List Char)) : Except Stop (Options × List (List Char)) := do
  let words ← (Word.ofTexts .read ws).mapError fun e =>
    .misuse .read (.ambiguous (String.ofList e.1) e.2)
  let d ← Draft.scan {} words
  if d.missing = [] then .ok (d.options, d.extras) else .error (.misuse .read (.missing d.missing))

def ofLine (extras : List (List Char)) : List (List Char) → Except Stop Options
  | [] => .error (.misuse .program .noCommand)
  | w :: ws =>
    if w = Word.dividerText then
      .error (.misuse .program (if ws = [] then .noCommand else .command "--"))
    else
      match Word.ofText .program w with
      | .error ss => .error (.misuse .program (.ambiguous (String.ofList w) ss))
      | .ok (.switch s single attached) =>
        match s.flags .program single attached with
        | .error m => .error (.misuse .program m)
        | .ok _ => .error (.help .program)
      | .ok (.unknown x) => ofLine (extras ++ [x]) ws
      | .ok _ =>
        if w = "read".toList then do
          let (options, more) ← ofWords ws
          match extras ++ more with
          | [] => .ok options
          | left => .error (.misuse .program (.unrecognized (left.map String.ofList)))
        else .error (.misuse .program (.command (String.ofList w)))

def parse (argv : List String) : Except Stop Options := ofLine [] (argv.map String.toList)

end Options

end SmbusPostBox.CommandLine
