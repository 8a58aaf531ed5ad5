/-
# Help

A page of help says what a command is for, how a line with it is put together,
and what its plain words and options mean, in two columns each.

Key definitions: `Usage.synopsis`, `Usage.page`, `helpText`.
-/
import Tabletop.Command.Request

namespace Tabletop
namespace Command

/-- What stands for the value of an option: its name in capitals. -/
def Switch.placeholder (s : Switch) : String :=
  String.ofList (s.name.toList.map fun c => if c = '-' then '_' else c.toUpper)

/-- An option as it is written. Options without a letter are moved in below
the others. -/
def Switch.form (s : Switch) : String :=
  let start := match s.letter with
    | some c => String.ofList ['-', c, ',', ' ']
    | none => "    "
  start ++ "--" ++ s.name ++ if s.valued then " <" ++ s.placeholder ++ ">" else ""

/-- A plain word as it is written; dots stand for any number of them. -/
def Operand.form (o : Operand) : String :=
  (if o.needed then "<" ++ o.name ++ ">" else "[" ++ o.name ++ "]") ++
    if o.repeated then "..." else ""

/-- Rows in two columns, below a heading. -/
def listing (heading : String) (rows : List (String × String)) : List String :=
  let width := rows.foldl (fun n row => max n row.1.length) 0
  heading :: rows.map fun row =>
    "  " ++ row.1 ++ String.ofList (List.replicate (width - row.1.length) ' ') ++ "  " ++ row.2

/-- How a line with a command is put together. -/
def Usage.synopsis (u : Usage) (name : String) : String :=
  " ".intercalate (["Usage:", name] ++ (if u.switches.isEmpty then [] else ["[OPTIONS]"]) ++
    u.operands.map Operand.form ++ if u.opensCommand then ["<COMMAND>"] else [])

/-- A page of help, with the names of commands and what they are for. -/
def Usage.page (u : Usage) (name : String) (names : List (String × String)) : String :=
  let sections :=
    [("Commands:", names), ("Arguments:", u.operands.map fun o => (o.form, o.about)),
      ("Options:", u.switches.map fun s => (s.form, s.about))]
  let filled := sections.filter fun s => !s.2.isEmpty
  "\n".intercalate ([u.about, "", u.synopsis name] ++
    filled.flatMap fun s => "" :: listing s.1 s.2)

/-- The use of the command that prints help. -/
def helpUsage : Usage :=
  ⟨"Print this message or the help of the given subcommand(s)", [],
    [⟨"COMMAND", false, fun _ => true, "Print help for the subcommand(s)", true⟩], false⟩

/-- The page on the program, or on a command. -/
def helpText : Option String → String
  | none =>
    rootUsage.page "tirada" ((commands ++ [("help", helpUsage)]).map fun c => (c.1, c.2.about))
  | some name => ((commands.lookup name).getD helpUsage).page ("tirada " ++ name) []

end Command
end Tabletop
