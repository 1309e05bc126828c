import Wireframe.Path
import Wireframe.Screen

/-!
# `Wireframe.Files` — files and directories

The files that the program reads and writes, as a table from paths to contents. The table keeps only
paths without double dots; looking a path up follows them, and every directory on the way must exist.

## Contents
- `Entry`, `Footage`, `Files`: the table, and what is read as pictures.
- `locate`, `find?`, `exists?`, `isDirectory`: looking paths up.
- `makeDirectories`, `write`: changing the table.
- `readText`, `readFootage`: contents.
- `under`, `listing`: what there is.
-/

namespace Wireframe

/-- What is under a path; each frame of an animation is shown for some milliseconds. A page shows a picture
and is not read as one. -/
inductive Entry where
  | directory
  | text (s : String)
  | picture (s : Screen)
  | animation (frames : List (Screen × Int))
  | page (s : Screen)

/-- What is read as pictures: one of them, or the frames of an animation. -/
inductive Footage where
  | still (s : Screen)
  | frames (ss : List Screen)

/-- Files and directories below the current directory and below the root, and the home directory. -/
structure Files where
  entries : Dict Path Entry := .empty
  home : Path := ⟨"/", ["root"]⟩

namespace Files

/-- The place where the names of a path begin. -/
def start (p : Path) : Path := ⟨if p.isAbsolute then "/" else "", []⟩

/-- One directory up. -/
def up (place : Path) : Path :=
  if place.parts.isEmpty && !place.isAbsolute then ⟨"", [".."]⟩
  else if place.name == ".." then place.child ".."
  else place.parent

/-- What is at a place without double dots inside. -/
def entry? (fs : Files) (place : Path) : Option Entry :=
  if place.parts.isEmpty then some .directory else fs.entries.find? place

/-- The greatest number of octets of a name. -/
def longestName : Nat := 255

/-- Follows names from a place; all but the last must be directories. -/
def descend (fs : Files) (p place : Path) : List String → Except Error Path
  | [] => .ok place
  | name :: rest =>
    if name == ".." then fs.descend p (up place) rest
    else if longestName < name.utf8ByteSize then .error .nameTooLong
    else
      let next := place.child name
      if rest.isEmpty then .ok next
      else
        match fs.entry? next with
        | some .directory => fs.descend p next rest
        | some _ => .error (.notDirectory p.text)
        | none => .error (.missing p.text)

/-- Whether a name holds the character that ends names. -/
def endsEarly (p : Path) : Bool := p.parts.any fun name => name.toList.contains '\x00'

/-- The place of a path. -/
def locate (fs : Files) (p : Path) : Except Error Path :=
  if endsEarly p then .error .fileName else fs.descend p (start p) p.parts

/-- What is under a path. -/
def find? (fs : Files) (p : Path) : Option Entry :=
  match fs.locate p with
  | .ok place => fs.entry? place
  | .error _ => none

/-- Whether there is something under a path. -/
def exists? (fs : Files) (p : Path) : Bool := (fs.find? p).isSome

/-- Whether there is a directory under a path. -/
def isDirectory (fs : Files) (p : Path) : Bool :=
  match fs.find? p with
  | some .directory => true
  | _ => false

/-- Makes the directories along names from a place, as far as they are missing. -/
def makeFrom (fs : Files) (p place : Path) : List String → Except Error Files
  | [] => .ok fs
  | name :: rest =>
    if name == ".." then fs.makeFrom p (up place) rest
    else if longestName < name.utf8ByteSize then .error .nameTooLong
    else
      let next := place.child name
      match fs.entry? next with
      | none => { fs with entries := fs.entries.insert next .directory }.makeFrom p next rest
      | some .directory => fs.makeFrom p next rest
      | some _ => .error (if rest.isEmpty then .existing p.text else .notDirectory p.text)

/-- Makes a directory and those above it; one that is there is left as it is. -/
def makeDirectories (fs : Files) (p : Path) : Except Error Files :=
  if endsEarly p then .error .fileName else fs.makeFrom p (start p) p.parts

/-- Writes a file into a directory that exists. -/
def write (fs : Files) (p : Path) (e : Entry) : Except Error Files := do
  let place ← fs.locate p
  if !fs.isDirectory p.parent then
    throw (if fs.exists? p.parent then .notDirectory p.text else .missing p.text)
  match fs.entry? place with
  | some .directory => throw (.isDirectory p.text)
  | _ => return { fs with entries := fs.entries.insert place e }

/-- Puts an entry under a path and makes the directories above it. -/
def put (fs : Files) (p : Path) (e : Entry) : Files :=
  match fs.makeDirectories p.parent with
  | .ok fs => { fs with entries := fs.entries.insert p e }
  | .error _ => fs

/-- The text of a file. -/
def readText (fs : Files) (p : Path) : Except Error String := do
  match fs.entry? (← fs.locate p) with
  | none => throw (.missing p.text)
  | some .directory => throw (.isDirectory p.text)
  | some (.text s) => return s
  | some _ => throw .undecodable

/-- The pictures in a file. -/
def readFootage (fs : Files) (p : Path) : Except Error Footage := do
  match fs.entry? (← fs.locate p) with
  | none => throw (.missing p.text)
  | some .directory => throw (.isDirectory p.text)
  | some (.picture s) => return .still s
  | some (.animation frames) => return .frames (frames.map (·.1))
  | some _ => throw .unknownFormat

/-- The names in a directory, with what they are. -/
def under (fs : Files) (p : Path) : List (String × Entry) :=
  match fs.locate p with
  | .ok place => fs.entries.entries.filterMap fun e =>
      if e.1.parent == place && !e.1.parts.isEmpty then some (e.1.name, e.2) else none
  | .error _ => []

/-- All files below the current directory, by the text of their paths. -/
def listing (fs : Files) : List (Path × Entry) :=
  let files := fs.entries.entries.filter fun e =>
    match e.2 with
    | .directory => false
    | _ => !e.1.isAbsolute
  files.mergeSort fun a b => a.1.text ≤ b.1.text

/-- All directories below the current directory, by the text of their paths. -/
def directories (fs : Files) : List Path :=
  let dirs := fs.entries.entries.filterMap fun e =>
    match e.2 with
    | .directory => if e.1.isAbsolute then none else some e.1
    | _ => none
  dirs.mergeSort fun a b => a.text ≤ b.text

end Files

end Wireframe
