import Wireframe.Document.Yaml
import Wireframe.Files
import Wireframe.Log

/-!
# `Wireframe.Config` — files of settings

Settings are read from `configs/default.yaml` and then from `config.yaml` below the root of a project; the
second file replaces whole parts of the first. A file that cannot be read is reported and counts as empty,
and so does one that holds no table.

## Contents
- `shipped`: the settings that come with the program.
- `readTable`, `load`: reading files.
- `projectRoot`: the root of a project.
-/

namespace Wireframe.Config

open Document

/-- The settings that come with the program. -/
def shipped : String :=
  "\n".intercalate
    ["render:", "  width: 500", "  height: 500", "  background: \"#FFFFFF\"",
     "  line_color: \"#000000\"", "  step: 20",
     "animation:", "  output_dir: anim", "  default_basename: default", "  frame_digits: 3",
     "  frame_ext: png", "  format: gif", "  frame_duration_ms: 50",
     "logging:", "  level: INFO", ""]

/-- Settings by name. -/
abbrev Table := Dict Label Value

/-- The record of a file that cannot be read. -/
def unreadableRecord (p : Path) (cause : String) : Record :=
  ⟨.warning, "util.utils", s!"設定ファイルを読み込めませんでした: {p.text} ({cause})"⟩

/-- The table in a document. -/
def tableOf (v : Value) : List (Label × Value) :=
  match v.opened with
  | .map entries => entries
  | _ => []

/-- The table in a file, with what there is to report. -/
def readTable (fs : Files) (p : Path) : List Record × Except Error (List (Label × Value)) :=
  match fs.readText p with
  | .error e => ([unreadableRecord p e.logText], .ok [])
  | .ok text =>
    match Yaml.read text with
    | .ok v => ([], .ok (tableOf v))
    | .error .malformed => ([unreadableRecord p Format.yaml.failure], .ok [])
    | .error (.faulty e) => ([], .error e)

/-- Reads one file of settings over others, if it is there. -/
def readOver (fs : Files) (table : Table) (p : Path) : List Record × Except Error Table :=
  if fs.exists? p then
    let (records, r) := readTable fs p
    (records, r.map table.merge)
  else ([], .ok table)

/-- The settings below a root, with what there is to report on the way to them or to a failure. -/
def load (fs : Files) (root : Path) : List Record × Except Error Table :=
  match readOver fs .empty ((root.child "configs").child "default.yaml") with
  | (first, .error e) => (first, .error e)
  | (first, .ok table) =>
    let (second, r) := readOver fs table (root.child "config.yaml")
    (first ++ second, r)

/-- The settings that come with the program, as a table. -/
def shippedTable : Except Error Table :=
  match Yaml.read shipped with
  | .ok v => .ok ⟨tableOf v⟩
  | .error (.faulty e) => .error e
  | .error .malformed => .ok .empty

/-! ## Projects -/

/-- What marks the root of a project. -/
def marks : List String := [".git", "pyproject.toml", "configs"]

/-- Whether a directory is the root of a project. -/
def isRoot (fs : Files) (p : Path) : Bool := marks.any fun m => fs.exists? (p.child m)

/-- Resolves double dots as far as possible. -/
def resolve (p : Path) : Path := p.parts.foldl (fun q name =>
  if name == ".." then Files.up q else q.child name) (Files.start p)

/-- The directories from a list of names up to its start, the innermost first. -/
def upwards (root : String) (parts : List String) : List Path :=
  ((List.range (parts.length + 1)).reverse).map fun n => ⟨root, parts.take n⟩

/-- The root of the project that a path is in, or two directories up if it is in none. -/
def projectRoot (fs : Files) (p : Path) : Path :=
  let p := resolve p
  ((upwards p.root p.parts).find? (isRoot fs)).getD p.parent.parent

end Wireframe.Config
