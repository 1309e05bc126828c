import Wireframe.Document.Conversion

/-!
# `Wireframe.Path` — paths of files

A path is a list of names behind a root; a path without a root is relative to the current directory.
Empty names and single dots are left out when a path is read, double dots are kept.

## Contents
- `Path`, `ofString`, `text`, `ofValue`: paths and their texts.
- `name`, `parent`, `join`, `child`, `withName`: taking apart and putting together.
- `suffix`, `suffixOf`: the ending of a file name.
- `expandHome`: a leading `~`.
-/

namespace Wireframe

open Document

/-- The names behind a root, which is empty for relative paths. -/
structure Path where
  root : String := ""
  parts : List String := []
  deriving DecidableEq, Repr, Inhabited

namespace Path

/-- The current directory. -/
def here : Path := {}

/-- The root of a text: exactly two slashes are a root of their own. -/
def rootOf (cs : List Char) : String :=
  match (cs.takeWhile (· == '/')).length with
  | 0 => ""
  | 2 => "//"
  | _ => "/"

/-- Whether what stands between two slashes counts: it is not empty and not a single dot. -/
def isPart (cs : List Char) : Bool := cs != [] && cs != ['.']

/-- The path of a text. -/
def ofString (s : String) : Path :=
  ⟨rootOf s.toList, ((s.toList.splitOn '/').filter isPart).map String.ofList⟩

/-- The text of a path. -/
def text (p : Path) : String :=
  if p.root.isEmpty && p.parts.isEmpty then "." else p.root ++ "/".intercalate p.parts

/-- The path that a value stands for; only texts are paths. -/
def ofValue (v : Value) : Except Error Path :=
  match v with
  | .str s => .ok (ofString s)
  | _ => .error .notPath

/-- The last name, or nothing. -/
def name (p : Path) : String := p.parts.getLastD ""

/-- The path without its last name. -/
def parent (p : Path) : Path := { p with parts := p.parts.dropLast }

/-- Whether the path has a root. -/
def isAbsolute (p : Path) : Bool := !p.root.isEmpty

/-- A path behind another one; one with a root replaces it. -/
def join (p q : Path) : Path := if q.isAbsolute then q else { p with parts := p.parts ++ q.parts }

/-- A path with one more name. -/
def child (p : Path) (name : String) : Path := { p with parts := p.parts ++ [name] }

/-- The ending of a file name: from its last dot on, which is neither its first nor its last
character. -/
def suffixOf (name : List Char) : List Char :=
  let ending := (name.reverse.takeWhile (· != '.')).reverse
  if ending.isEmpty || ending.length + 1 ≥ name.length then [] else '.' :: ending

/-- The ending of the last name. -/
def suffix (p : Path) : String := String.ofList (suffixOf p.name.toList)

/-- Whether a text can stand as a name. -/
def isName (s : String) : Bool := s != "" && s != "." && !s.toList.contains '/'

/-- The path with another last name. -/
def withName (p : Path) (name : String) : Except Error Path :=
  if p.name == "" || !isName name then .error .fileName else .ok (p.parent.child name)

/-- A path whose first name is `~` in the home directory; a home of somebody else is not known. -/
def expandHome (p home : Path) : Except Error Path :=
  match p.root, p.parts with
  | "", first :: rest =>
    if first == "~" then .ok (home.join ⟨"", rest⟩)
    else if first.toList.head? == some '~' then .error .noHome
    else .ok p
  | _, _ => .ok p

end Path

end Wireframe
