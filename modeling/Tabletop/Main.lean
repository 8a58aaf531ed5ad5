/-
# The program

The outermost layer: it takes a picture of the files that a command may read,
runs the command on the picture, and carries what has changed back to the
files. Nothing is decided here.

Key definition: `main`.
-/
import Tabletop.Command.Help
import Tabletop.Command.Run

namespace Tabletop
namespace Program

/-- The path of a location. -/
def pathOf (l : Location) : String :=
  "/" ++ "/".intercalate l

/-- Adds what is at a location, with all that is in it, to a picture; nothing
where it cannot be found. -/
partial def addTree (d : Disk) (l : Location) : IO Disk := do
  try
    let real ← IO.FS.realPath (pathOf l)
    if ← real.isDir then
      let d := d.put l .folder
      match ← real.readDir.toBaseIO with
      | .ok es => es.foldlM (fun d e => addTree d (l ++ [e.fileName])) d
      | .error _ => return d.hide l
    else
      match ← (IO.FS.readBinFile (pathOf l)).toBaseIO with
      | .ok content => return d.put l (.file content)
      | .error _ => return d.put l .locked
  catch _ => return d

/-- Adds what a path leads to, and the folders on its way, to a picture. -/
def addPath (d : Disk) (path : String) : IO Disk := do
  if path = "" then return d
  let l := d.place path
  let above := (List.range l.length).foldl (fun d n => d.put (l.take n) .folder) d
  let found ← addTree above l
  return if (found.entryAt l).isSome then found else d

/-- Carries a changed entry to the files. A file is filled next to its place
and then moved there. -/
def carry (e : Location × Entry) : IO Unit := do
  let path := pathOf e.1
  match e.2 with
  | .folder => IO.FS.createDirAll path
  | .locked => return
  | .file content =>
    let draft := path ++ ".new"
    IO.FS.writeBinFile draft content
    IO.FS.rename draft path

/-- Carries all that has changed to the files, the folders first. -/
def carryAll (old new : Disk) : IO Unit := do
  let (folders, files) := (old.since new).partition (·.2 = .folder)
  folders.forM carry
  files.forM carry

/-- The seed that is asked for, or one by chance. -/
def seedOf (s : Command.Shared) : IO UInt64 := do
  match s.seed with
  | some seed => return seed
  | none =>
    let bytes ← IO.getRandomBytes 8
    return bytes.foldl (fun n b => n * 256 + b.toUInt64) 0

/-- The picture of the files that a command may read. -/
def picture (s : Command.Shared) (a : Command.Action) : IO Disk := do
  let home := Path.names (← IO.currentDir).toString
  let mut d := Disk.blank home
  if let some path := s.config then d ← addPath d path
  match s.configuration d with
  | .error _ => return d
  | .ok c =>
    d ← addPath d (if c.dataFolder = "" then "." else c.dataFolder)
    d ← addPath d c.catalogPath
    match a with
    | .roll _ _ true _ => addPath d c.assetsFolder
    | _ => return d

/-- Runs a command on the files. -/
def perform (s : Command.Shared) (a : Command.Action) : IO UInt32 := do
  let d ← picture s a
  let result := Command.runShared s (DieSource.ofSeed (← seedOf s)) d a
  result.journal.warnings.forM fun w => IO.eprintln s!"WARN {w}"
  try carryAll d result.disk
  catch e =>
    IO.eprintln s!"error: {e}"
    return 1
  IO.print result.output
  if let some e := result.error then IO.eprintln s!"error: {e.message}"
  return result.exitCode.toUInt32

end Program
end Tabletop

/-- Does what the command line asks for. -/
def main (args : List String) : IO UInt32 := do
  match Tabletop.Command.Request.ofArguments args with
  | .misuse =>
    IO.eprintln (Tabletop.Command.helpText none)
    return 2
  | .help command =>
    IO.println (Tabletop.Command.helpText command)
    return 0
  | .version command =>
    IO.println (Tabletop.Command.versionText command)
    return 0
  | .run shared action => Tabletop.Program.perform shared action
