import Wireframe.CommandLine
import Wireframe.Picture.Encoding

/-!
# `Wireframe.Main` — the program

The outer layer: it hands the words of the command, the environment and the program file over to
`CommandLine.execute`, prints the log and writes the new files.
-/

open Wireframe Document

/-- How the program is called. -/
def usage : String :=
  "usage: mdl [-h] [--output-dir DIR] [--format gif|mp4] [--log-level LEVEL] [--no-display] [--trace] program"

/-- The variables that the program looks at. -/
def readEnvironment : IO Environment := do
  let names := ["MDL_TRACE_OPCODES", "MDL_LOG_LEVEL", "MDL_USE_NUMBA"]
  let found ← names.filterMapM fun name => return (← IO.getEnv name).map fun value => (name, value)
  return .ofList found

/-- The files that the program starts with: its program file, if there is one. -/
def readFiles (words : List String) : IO Files := do
  let home := Path.ofString ((← IO.getEnv "HOME").getD "/root")
  let empty : Files := { home := home }
  match CommandLine.Invocation.ofWords words with
  | .run a =>
    let path := Path.ofString a.program
    try
      return empty.put path (.text (← IO.FS.readFile path.text))
    catch
      | .noFileOrDirectory .. => return empty
      | .inappropriateType .. => return empty.put path .directory
      | e => throw e
  | _ => return empty

/-- Writes octets, if there are any. -/
def writeOctets (path : Path) (bytes : Option ByteArray) : IO Unit :=
  match bytes with
  | some bytes => do
    IO.FS.createDirAll path.parent.text
    IO.FS.writeBinFile path.text bytes
  | none => throw (IO.userError s!"{path.text}: this format cannot be written")

/-- Writes a new file. -/
def writeEntry (path : Path) : Entry → IO Unit
  | .directory => IO.FS.createDirAll path.text
  | .text _ => pure ()
  | .picture s | .page s => writeOctets path (Picture.encode? (Text.lower path.suffix) s)
  | .animation frames => writeOctets path (some (Picture.gif frames))

/-- The program. -/
def main (words : List String) : IO UInt32 := do
  let settings := (← readEnvironment).settings
  let session := CommandLine.execute words settings (← readFiles words)
  for (path, entry) in session.files.entries.entries do
    writeEntry path entry
  for r in session.records do
    IO.eprintln s!"[{r.level.name}] {r.source}: {r.text}"
  match CommandLine.Invocation.ofWords words with
  | .run _ => pure ()
  | _ => IO.println usage
  match session.ending with
  | .exit code => return code.toNat.toUInt32
  | .failed e => do
    IO.eprintln e.shown
    return 1
