import Wireframe.CommandLine.Arguments
import Wireframe.Config
import Wireframe.Environment
import Wireframe.Program
import Wireframe.Run.Preparation
import Wireframe.Run.Studio

/-!
# `Wireframe.CommandLine` — the command

The command runs one program file with the settings that come with it. Failures of the program and missing
files are reported in the log and end the command with the code 1; a command that cannot be understood
ends with the code 2. Any other failure is handed on.

## Contents
- `Ending`, `Session`: what comes of a command.
- `optionsFor`, `work`: from the arguments to a run.
- `execute`: the whole command.
-/

namespace Wireframe.CommandLine

open Document

/-- How a command ends. -/
inductive Ending where
  | exit (code : Int)
  | failed (e : Error)

/-- What comes of a command: its end, the records that its log keeps, and the files after it. -/
structure Session where
  ending : Ending
  records : List Record
  files : Files

/-- A record of the command itself. -/
def record (level : Level) (text : String) : Record := ⟨level, "mdl", text⟩

/-- The record of a picture on the display; without a display the picture is passed over. -/
def viewRecord (a : Arguments) (s : Screen) : Record :=
  if a.noDisplay then record .info "display skipped (--no-display)" else Picture.shownRecord s

/-- The record of a finished animation. -/
def finishedRecord (count : Int) (path : Path) : Record :=
  record .info s!"animation: {path.text} ({count} frames)"

/-- The level in the settings of the log; whatever is empty counts as no settings. -/
def configuredLevel (table : Config.Table) : Except Error Value :=
  match (table.find? (.text "logging")).getD .null with
  | .map entries => .ok (((Dict.mk entries).find? (.text "level")).getD .null)
  | v => if v.isTruthy then .error .notMapping else .ok .null

/-- The level of the log: that of the command, or else that of the settings. -/
def levelFor (settings : Environment.Settings) (table : Config.Table) (a : Arguments) :
    Except Error Int := do
  let configured ← configuredLevel table
  match a.logLevel with
  | some level => resolveLevel settings (if level.isEmpty then configured else .str level)
  | none => resolveLevel settings configured

/-- The options that the command gives. -/
def overrides (a : Arguments) : List (Label × Value) :=
  [(.text "output_dir", (a.outputDir.map Value.str).getD .null),
   (.text "format", (a.format.map fun f => Value.str f.name).getD .null)]

/-- The options of the run, with what there is to report. -/
def optionsFor (table : Config.Table) (a : Arguments) : List Record × Except Error Options :=
  let (notices, o) := Options.ofConfig (.map table.entries)
  (notices.map Options.ConfigNotice.record, o >>= fun o => o.withOverrides (overrides a))

/-- What came of the work: the report of the run, what was reported on the way, and the files. -/
structure Work where
  result : Except Error Run.Report
  records : List Record
  files : Files

/-- Reads the program and runs it. -/
def work (a : Arguments) (traced knobsShown : Bool) (table : Config.Table) (fs : Files) : Work :=
  match optionsFor table a with
  | (first, .error e) => ⟨.error e, first, fs⟩
  | (first, .ok options) =>
    match Program.load fs (.ofString a.program) with
    | .error e => ⟨.error e, first, fs⟩
    | .ok (ops, loaded) =>
      match Run.prepare ops options traced knobsShown (Run.studio (viewRecord a)) fs with
      | (second, .error e) => ⟨.error e, first ++ loaded :: second, fs⟩
      | (second, .ok (setup, state)) =>
        let r := setup.run state
        ⟨r.result, first ++ loaded :: second ++ r.notes.map Run.Note.record, r.state.world⟩

/-- Whether a failure is reported instead of being handed on. -/
def isReported (e : Error) : Bool := e.kind.isProgramError || e.kind == .missingFile

/-- How the work ends, with the last record. -/
def conclude : Except Error Run.Report → Ending × List Record
  | .ok report => (.exit 0, (report.animation.map (finishedRecord report.frameCount)).toList)
  | .error e => if isReported e then (.exit 1, [record .error e.logText]) else (.failed e, [])

/-- Runs a program file as the arguments say. -/
def runFile (a : Arguments) (settings : Environment.Settings) (table : Config.Table) (fs : Files) :
    Session :=
  match levelFor settings table a with
  | .error e => ⟨.failed e, [], fs⟩
  | .ok level =>
    let w := work a (settings.trace || a.trace) (level ≤ Level.debug.number) table fs
    let (ending, last) := conclude w.result
    ⟨ending, atLeast level (w.records ++ last), w.files⟩

/-- The whole command. -/
def execute (words : List String) (settings : Environment.Settings) (fs : Files) : Session :=
  match Invocation.ofWords words with
  | .help => ⟨.exit 0, [], fs⟩
  | .refused => ⟨.exit 2, [], fs⟩
  | .run a =>
    match Config.shippedTable with
    | .error e => ⟨.failed e, [], fs⟩
    | .ok table => runFile a settings table fs

end Wireframe.CommandLine
