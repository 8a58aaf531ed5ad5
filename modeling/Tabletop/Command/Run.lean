/-
# Running a command

A command is planned, and then its change is made. It ends with the disk as it
is left, what was told, and the error if there was one.

Key definitions: `Completion`, `Change.apply`, `Action.run`, `runShared`.
-/
import Tabletop.Command.Plan

namespace Tabletop
namespace Command

/-- The end of a command. -/
structure Completion where
  disk : Disk
  journal : Journal
  error : Option CommandError

namespace Completion

/-- Zero for a command that did what was asked, one for a failed one. -/
def exitCode (c : Completion) : UInt8 :=
  if c.error.isSome then 1 else 0

/-- What was written, each line with a line feed. -/
def output (c : Completion) : String :=
  String.join (c.journal.output.map (· ++ "\n"))

end Completion

/-- Makes a change; gives the line that tells of it. -/
def Change.apply (c : Config) (d : Disk) : Change → Except StoreError (List String) × Disk
  | .none => (.ok [], d)
  | .activeSystem group key catalog =>
    match c.settings.setActiveSystem d group key catalog with
    | (.error e, d) => (.error e, d)
    | (.ok key, d) =>
      match catalog.get key with
      | .ok g => (.ok [s!"  Group '{group}' now plays {g.name} ({key})"], d)
      | .error e => (.error (.unknownSystem e), d)
  | .groupStyle group style =>
    match c.settings.setDiceStyle d group (some style) with
    | (.error e, d) => (.error e, d)
    | (.ok (), d) => (.ok [s!"  Group '{group}' now rolls with {style}"], d)
  | .characterStyle name system record style =>
    match c.characters.saveAs d name system { record with diceStyle := some style } with
    | (.error e, d) => (.error e, d)
    | (.ok _, d) => (.ok [s!"  {record.name} now rolls with {style}"], d)

/-- Runs a command under a configuration. -/
def Action.run (c : Config) (dice : DieSource) (d : Disk) (a : Action) : Completion :=
  match a.plan ⟨c, dice, d⟩ .empty with
  | (.error e, j) => ⟨d, j, some e⟩
  | (.ok change, j) =>
    match change.apply c d with
    | (.error e, d) => ⟨d, j, some (.store e)⟩
    | (.ok lines, d) => ⟨d, { j with output := j.output ++ lines }, none⟩

/-- The configuration that the shared options ask for. -/
def Shared.configuration (s : Shared) (d : Disk) : Except CommandError Config := do
  let c ← match s.config with
    | some path => (Config.load d path).mapError (.badConfig path)
    | none => .ok Config.default
  return match s.dataFolder with
    | some path => c.withDataFolder path
    | none => c

/-- Runs a command under the shared options. -/
def runShared (s : Shared) (dice : DieSource) (d : Disk) (a : Action) : Completion :=
  match s.configuration d with
  | .error e => ⟨d, .empty, some e⟩
  | .ok c => a.run c dice d

end Command
end Tabletop
