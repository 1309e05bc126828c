import Wireframe.Picture.Keeping
import Wireframe.Log

/-!
# `Wireframe.Picture` — saving and showing the picture

A picture is saved in the format that the ending of its file name says; a name without an ending gets one.
The directory of the file is made if it is missing. On the display the picture stands upside down in
memory: the lowest row comes first.

## Contents
- `withEnding`, `resolvePath`, `resolveWith`: file names.
- `prepare`, `writeAs`, `save`, `readsBack`: saving.
- `Window`, `show_`: the display.
-/

namespace Wireframe.Picture

open Document

/-- The ending that file names get. -/
def defaultEnding : String := ".png"

/-- An ending with its dot. -/
def dotted (ending : String) : String :=
  if ending.toList.head? == some '.' then ending else "." ++ ending

/-- A path whose last name has an ending; `ending` is given to a name without one. -/
def withEnding (ending : String) (p : Path) : Except Error Path :=
  if p.suffix.isEmpty then p.withName (p.name ++ dotted ending) else .ok p

/-- The path that a file name stands for. -/
def resolvePath (home : Path) (ending : String) (p : Path) : Except Error Path :=
  p.expandHome home >>= withEnding ending

/-- The path that a file name stands for, where the ending is a value that is looked at if it is needed. -/
def resolveWith (home : Path) (ending : Value) (p : Path) : Except Error Path :=
  match ending.str? with
  | some ending => resolvePath home ending p
  | none => do
    let path ← p.expandHome home
    if path.suffix.isEmpty then throw .notText else return path

/-- The record of a saved picture. -/
def savedRecord (p : Path) (s : Screen) : Record :=
  ⟨.debug, "engine.export.image", s!"saved {p.text} ({s.width}x{s.height})"⟩

/-- The path under which a picture is saved, and the files with the directory of the file. -/
def prepare (p : Path) (fs : Files) : Except Error (Path × Files) := do
  let path ← resolvePath fs.home defaultEnding p
  let fs ← if fs.exists? path.parent then pure fs else fs.makeDirectories path.parent
  return (path, fs)

/-- Writes a picture: the files after that, and the path or the cause of a failure. Where the format cannot be
written, an empty file is left. -/
def writeAs (k : Keeping) (s : Screen) (path : Path) (fs : Files) : Files × Except Error Path :=
  match fs.write path (k.entry s) with
  | .error e => (fs, .error e)
  | .ok fs =>
    match k.refusal? with
    | some e => (fs, .error e)
    | none => (fs, .ok path)

/-- Saves a picture in the format of its ending. -/
def save (s : Screen) (p : Path) (fs : Files) : Files × Except Error Path :=
  match prepare p fs with
  | .error e => (fs, .error e)
  | .ok (path, fs) =>
    match Keeping.ofEnding? path.suffix with
    | none => (fs, .error .unknownFormat)
    | some k => writeAs k s path fs

/-- Whether a picture is read back from a file as it was. -/
def readsBack (s : Screen) (path : Path) (fs : Files) : Except Error Bool := do
  let read ← fs.readFootage path
  match Keeping.ofEnding? path.suffix with
  | some k => return isKept k s read
  | none => return false

/-! ## Display -/

/-- What the display shows. -/
structure Window where
  width : Nat
  height : Nat
  caption : String
  /-- The components of the pixels, from the lowest row up. -/
  bytes : List Int
  deriving Repr

/-- The window with a picture. -/
def show_ (s : Screen) (caption : String) : Window :=
  ⟨s.width, s.height, caption, (s.rows.reverse.flatten).flatMap Rgb.toList⟩

/-- The record of a picture on the display. -/
def shownRecord (s : Screen) : Record :=
  ⟨.info, "engine.export.image",
    s!"displaying frame ({s.width}x{s.height}); close the window to continue"⟩

end Wireframe.Picture
