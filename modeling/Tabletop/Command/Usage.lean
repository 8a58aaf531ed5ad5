/-
# Words of a command line

A command line is a row of words. A word that begins with two dashes names an
option, one that begins with a single dash gives options by their letters, and
a double dash alone says that only plain words follow. An option with a value
takes it from the rest of its word or from the next word, which then has to be
plain. Each option may be given once. The words are gone through from the left,
and the first one that does not fit decides. A value in a word of its own is
looked at when its option is closed: at the next option or plain word, but
after a command that begins there.

Key definitions: `Switch`, `Usage`, `Given`, `Open`, `Usage.scan`.
-/

namespace Tabletop
namespace Command

/-- An option: its name, its letter if it has one, whether it takes a value,
which values it takes, and what it is for. -/
structure Switch where
  name : String
  letter : Option Char
  valued : Bool
  admits : String → Bool
  about : String

/-- A plain word: the name of its place, whether it has to be there, which
words it may be, what it is for, and whether there may be more of them. -/
structure Operand where
  name : String
  needed : Bool
  admits : String → Bool
  about : String
  repeated : Bool

/-- What a command line may hold: options, and plain words; or, in the place of
plain words, one that begins a command. And what all of it is for. -/
structure Usage where
  about : String
  switches : List Switch
  operands : List Operand
  opensCommand : Bool

/-- What a command line gives: values of options, options without a value, and
plain words. -/
structure Given where
  values : List (String × String)
  marks : List String
  operands : List String
  deriving DecidableEq, Repr

/-- An option that is open: it wants its value, or has it and is not yet
closed. -/
structure Open where
  switch : Switch
  value : Option String

/-- Why reading stops early. -/
inductive Halt where
  | misuse
  | version
  | help
  deriving DecidableEq, Repr

/-- The form of a word. -/
inductive Word where
  | plain
  | divider
  | long (name : String) (value : Option String)
  | letters (cs : List Char)
  deriving DecidableEq, Repr

/-- A text up to its first equals sign, and what follows the sign. -/
def cutAtEquals (cs : List Char) : String × Option String :=
  match cs.dropWhile (· != '=') with
  | [] => (String.ofList cs, none)
  | _ :: value => (String.ofList (cs.takeWhile (· != '=')), some (String.ofList value))

/-- The form of a word. A single dash is plain. -/
def Word.ofText (text : String) : Word :=
  match text.toList with
  | ['-', '-'] => divider
  | '-' :: '-' :: cs =>
    let (name, value) := cutAtEquals cs
    long name value
  | '-' :: c :: cs => letters (c :: cs)
  | _ => plain

namespace Given

/-- Nothing given. -/
def empty : Given := ⟨[], [], []⟩

/-- The value of an option. -/
def value? (g : Given) (name : String) : Option String :=
  g.values.lookup name

/-- Whether an option without a value is given. -/
def isMarked (g : Given) (name : String) : Bool :=
  g.marks.contains name

/-- Takes an option with its value. -/
def store (g : Given) (s : Switch) (value : String) : Except Halt Given :=
  if (g.value? s.name).isSome || !s.admits value then .error .misuse
  else .ok { g with values := (s.name, value) :: g.values }

/-- Takes an option without a value; two of them end the reading. -/
def mark (g : Given) (s : Switch) : Except Halt Given :=
  if s.name = "version" then .error .version
  else if s.name = "help" then .error .help
  else if g.isMarked s.name then .error .misuse
  else .ok { g with marks := s.name :: g.marks }

/-- Takes a plain word. -/
def addOperand (g : Given) (u : Usage) (word : String) : Except Halt Given :=
  match u.operands[g.operands.length]? with
  | some operand =>
    if operand.admits word then .ok { g with operands := g.operands ++ [word] } else .error .misuse
  | none => .error .misuse

/-- Closes an option; it has to have its value by now. -/
def close (g : Given) : Option Open → Except Halt Given
  | none => .ok g
  | some ⟨_, none⟩ => .error .misuse
  | some ⟨s, some value⟩ => g.store s value

/-- Takes plain words. -/
def addOperands (g : Given) (u : Usage) : List String → Except Halt Given
  | [] => .ok g
  | word :: rest => do
    let g ← g.addOperand u word
    addOperands g u rest

end Given

namespace Usage

/-- Takes options by their letters; the last one may still want a value. What
follows the letter of an option with a value is that value. -/
def takeLetters (u : Usage) (g : Given) : List Char → Except Halt (Given × Option Switch)
  | [] => .ok (g, none)
  | c :: cs =>
    match u.switches.find? (·.letter == some c) with
    | none => .error .misuse
    | some s =>
      if s.valued then
        match cs with
        | [] => .ok (g, some s)
        | '=' :: value => (g.store s (String.ofList value)).map (·, none)
        | value => (g.store s (String.ofList value)).map (·, none)
      else do takeLetters u (← g.mark s) cs

/-- Takes an option by its name; it may still want a value. -/
def takeLong (u : Usage) (g : Given) (name : String) (value : Option String) :
    Except Halt (Given × Option Switch) :=
  match u.switches.find? (·.name == name), value with
  | none, _ => .error .misuse
  | some s, some v => if s.valued then (g.store s v).map (·, none) else .error .misuse
  | some s, none => if s.valued then .ok (g, some s) else (g.mark s).map (·, none)

/-- Goes through words; an option may still be open before them. Gives what was
found, the option that is open at the end, and the words from the one that
begins a command on. -/
def scan (u : Usage) :
    List String → Option Open → Given → Except Halt (Given × Option Open × List String)
  | [], held, g => (g.close held).map (·, none, [])
  | word :: rest, some ⟨s, none⟩, g =>
    if Word.ofText word = .plain then scan u rest (some ⟨s, some word⟩) g else .error .misuse
  | word :: rest, held, g =>
    match Word.ofText word with
    | .plain =>
      if u.opensCommand then .ok (g, held, word :: rest)
      else do scan u rest none (← (← g.close held).addOperand u word)
    | .divider => do
      let g ← (← g.close held).addOperands u rest
      return (g, none, [])
    | .long name value => do
      let (g, wanting) ← u.takeLong (← g.close held) name value
      scan u rest (wanting.map fun s => ⟨s, none⟩) g
    | .letters cs => do
      let (g, wanting) ← u.takeLetters (← g.close held) cs
      scan u rest (wanting.map fun s => ⟨s, none⟩) g

end Usage
end Command
end Tabletop
