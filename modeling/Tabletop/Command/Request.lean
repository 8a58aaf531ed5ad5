/-
# Requests

The commands of the program, and how a command line asks for one. Options that
all commands share may stand before or after the name of the command; of two
values the one after it counts.

Key definitions: `Action`, `Request`, `Request.ofArguments`.
-/
import Tabletop.Command.Usage
import Tabletop.Decimal

namespace Tabletop
namespace Command

/-- What the shared options say. -/
structure Shared where
  config : Option String
  dataFolder : Option String
  seed : Option UInt64
  verbose : Bool
  deriving DecidableEq, Repr

/-- What suggestions are for. -/
inductive SuggestKind where
  | checks
  | characters
  deriving DecidableEq, Repr

/-- A command with its arguments. -/
inductive Action where
  | check (character check : String) (system group : Option String)
  | roll (dice : String) (unrestricted faces : Bool) (group : Option String)
  | setSystem (key : String) (group : Option String)
  | systems
  | characters (system group : Option String)
  | diceStyle (style character system group : Option String)
  | suggest (kind : SuggestKind) (typed : String) (system group : Option String) (json : Bool)
  deriving DecidableEq, Repr

/-- What a command line asks for. -/
inductive Request where
  | misuse
  | help (command : Option String)
  | version (command : Option String)
  | run (shared : Shared) (action : Action)
  deriving DecidableEq, Repr

/-! ### Options -/

/-- An option with any value. -/
def valued (name : String) (letter : Option Char) (about : String) : Switch :=
  ⟨name, letter, true, fun _ => true, about⟩

/-- An option without a value. -/
def bare (name : String) (letter : Option Char) (about : String) : Switch :=
  ⟨name, letter, false, fun _ => true, about⟩

/-- Reads a seed of 64 bits. -/
def readSeed (text : String) : Option UInt64 :=
  let ds := match text.toList with
    | '+' :: ds => ds
    | ds => ds
  if ds ≠ [] ∧ ds.all Char.isDigit ∧ Decimal.value ds < UInt64.size then
    some (.ofNat (Decimal.value ds))
  else none

/-- The options that all commands share. -/
def sharedSwitches : List Switch := [
  ⟨"config", none, true, (· != ""), "TOML configuration file"⟩,
  ⟨"data-dir", none, true, (· != ""), "Data directory (overrides the config file)"⟩,
  ⟨"seed", none, true, fun s => (readSeed s).isSome, "RNG seed for reproducible rolls"⟩,
  bare "verbose" (some 'v') "Show debug logs on stderr"]

/-- The options that ask about the program. -/
def askingSwitches : List Switch := [
  bare "help" (some 'h') "Print help",
  bare "version" (some 'V') "Print version"]

/-- The option for a group. -/
def groupSwitch (about : String) : Switch := valued "group" (some 'g') about

/-- The option for a game system. -/
def systemSwitch : Switch :=
  valued "system" (some 's') "System key (default: the group's active system)"

/-- A plain word of any kind that has to be there. -/
def anyWord (name about : String) : Operand := ⟨name, true, fun _ => true, about, false⟩

/-- Reads what suggestions are for. -/
def SuggestKind.ofName : String → Option SuggestKind
  | "checks" => some .checks
  | "characters" => some .characters
  | _ => none

/-- The place of an option in a list of options: by its letter, or by its
name. -/
def Switch.rank (s : Switch) : String :=
  match s.letter with
  | some c => String.ofList [c, '0']
  | none => s.name

/-- Two lists of options in one, with an option of each by turns. -/
def braid : List Switch → List Switch → List Switch
  | a :: as, b :: bs => (if a.rank ≤ b.rank then [a, b] else [b, a]) ++ braid as bs
  | as, [] => as
  | [], bs => bs

/-- The use of a command with its own options and plain words. -/
def commandUsage (about : String) (own : List Switch) (operands : List Operand) : Usage :=
  ⟨about, braid sharedSwitches own ++ askingSwitches, operands, false⟩

/-- What may stand before the name of a command. -/
def rootUsage : Usage :=
  ⟨"Tirada: skill checks and dice rolls for tabletop role-playing",
    sharedSwitches ++ askingSwitches, [], true⟩

/-- The commands, and what may follow their names. -/
def commands : List (String × Usage) := [
  ("check", commandUsage "Roll an attribute or skill check for a character"
    [systemSwitch, groupSwitch "Group whose settings apply"]
    [anyWord "CHARACTER" "Character name (case-insensitive)",
      anyWord "CHECK" "Attribute or skill, e.g. \"stealth\" or \"sleight of hand\""]),
  ("roll", commandUsage "Roll a dice expression such as 2d6+3"
    [bare "any" none "Allow any die size and up to 100 dice",
      bare "faces" none "List the dice-face image for each die",
      groupSwitch "Group whose dice style applies"]
    [anyWord "EXPRESSION" "Dice expression"]),
  ("set-system", commandUsage "Choose the game system a group plays"
    [groupSwitch "Group to change"]
    [anyWord "KEY" "System key from the catalog"]),
  ("systems", commandUsage "List the game systems in the catalog" [] []),
  ("characters", commandUsage "List characters stored for a system"
    [systemSwitch, groupSwitch "Group whose settings apply"] []),
  ("dice-style", commandUsage "List dice styles, or pick one for a character or group"
    [valued "character" (some 'c') "Set the style on this character instead of the group",
      valued "system" (some 's')
        "System the character belongs to (default: the group's active system)",
      groupSwitch "Group to change"]
    [⟨"STYLE", false, fun _ => true, "Style to set (omit to list styles)", false⟩]),
  ("suggest", commandUsage "Autocomplete check or character names"
    [systemSwitch, groupSwitch "Group whose settings apply",
      bare "json" none "Print choices as JSON"]
    [⟨"KIND", true, fun w => (SuggestKind.ofName w).isSome,
        "What to complete [possible values: checks, characters]", false⟩,
      ⟨"PREFIX", false, fun _ => true, "Text typed so far [default: ]", false⟩])]

/-! ### Requests -/

/-- What the shared options say before and after the name of a command. -/
def Shared.ofGiven (before after : Given) : Shared where
  config := (after.value? "config").or (before.value? "config")
  dataFolder := (after.value? "data-dir").or (before.value? "data-dir")
  seed := ((after.value? "seed").or (before.value? "seed")).bind readSeed
  verbose := after.isMarked "verbose" || before.isMarked "verbose"

/-- The command with a name and arguments, unless a plain word is missing. -/
def Action.ofGiven (name : String) (g : Given) : Option Action :=
  let system := g.value? "system"
  let group := g.value? "group"
  match name, g.operands with
  | "check", [who, what] => some (.check who what system group)
  | "roll", [dice] => some (.roll dice (g.isMarked "any") (g.isMarked "faces") group)
  | "set-system", [key] => some (.setSystem key group)
  | "systems", [] => some .systems
  | "characters", [] => some (.characters system group)
  | "dice-style", [] => some (.diceStyle none (g.value? "character") system group)
  | "dice-style", [style] => some (.diceStyle (some style) (g.value? "character") system group)
  | "suggest", kind :: typed => do
    return .suggest (← SuggestKind.ofName kind) (typed.headD "") system group (g.isMarked "json")
  | _, _ => none

/-- The request that stopped the reading, within a command or before it. -/
def Request.ofHalt (command : Option String) : Halt → Request
  | .misuse => misuse
  | .version => version command
  | .help => help command

/-- The request for help that some words make: on the program, on one of its
commands, or on help itself. -/
def Request.ofHelp : List String → Request
  | [] => help none
  | [name] => if name = "help" || (commands.lookup name).isSome then help (some name) else misuse
  | _ => misuse

/-- What follows the name of a command. An option that is open before it is
closed once the command has been read. -/
def Request.ofCommand (before : Given) (held : Option Open) (name : String)
    (words : List String) : Request :=
  match commands.lookup name with
  | none => if name = "help" then ofHelp words else misuse
  | some u =>
    match u.scan words none .empty with
    | .error h => ofHalt (some name) h
    | .ok (after, _) =>
      match before.close held, Action.ofGiven name after with
      | .ok before, some a => run (.ofGiven before after) a
      | _, _ => misuse

/-- What a command line asks for. -/
def Request.ofArguments (words : List String) : Request :=
  match rootUsage.scan words none .empty with
  | .error h => ofHalt none h
  | .ok (_, _, []) => misuse
  | .ok (before, held, name :: rest) => ofCommand before held name rest

/-- The version of the program, under the name of a command. -/
def versionText : Option String → String
  | some command => s!"tirada-{command} 0.1.0"
  | none => "tirada 0.1.0"

end Command
end Tabletop
