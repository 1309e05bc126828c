import Wireframe.Run.Outside
import Wireframe.Picture

/-!
# `Wireframe.Run.Studio` — those outside, at work on files

Pictures are saved as files, and animations are put together from files. How a picture is shown is left
open: the viewer is given by the record of a picture that it shows.
-/

namespace Wireframe.Run

/-- An answer from the files after a call, and the result of the call. -/
def Reply.ofFiles {β γ : Type} (r : Files × Except Error β) (answer : β → γ)
    (records : β → List Record) : Reply Files γ :=
  match r with
  | (fs, .ok b) => ⟨.ok (answer b), fs, records b⟩
  | (fs, .error e) => ⟨.error e, fs, []⟩

/-- Makes a directory; a leading `~` is the home directory. -/
def makeDirectory (p : Path) (fs : Files) : Files × Except Error Path :=
  match p.expandHome fs.home with
  | .error e => (fs, .error e)
  | .ok path =>
    match fs.makeDirectories path with
    | .error e => (fs, .error e)
    | .ok fs => (fs, .ok path)

/-- Puts frames in files together. -/
def assembleFiles (order : AssemblyOrder) (fs : Files) : Files × Except Error Animation.Film :=
  Animation.assemble fs order.basename order.directory (some order.frames) (.str order.ending)
    (.str order.format.name) (.int order.duration) (.int order.digits)

/-- Those outside who work on files. -/
def studio (shown : Screen → Record) : Outside Files where
  openDirectory p fs := .ofFiles (makeDirectory p fs) id fun _ => []
  save s p fs := .ofFiles (Picture.save s p fs) some fun path => [Picture.savedRecord path s]
  view s fs := ⟨.ok (), fs, [shown s]⟩
  assemble order fs := .ofFiles (assembleFiles order fs) (fun film => some film.path) fun film =>
    [Animation.assembledRecord order.frames.length film.path]

end Wireframe.Run
