import Wireframe.Animation.Assembly
import Wireframe.Text.Case

/-!
# `Wireframe.Options` — how a program is run

Size and colours of the picture, the fineness of solids, and where and how animations are saved. Options
are given by name; what is not given has a default. Settings that are not known are reported and ignored,
arguments that are not known are refused.

## Contents
- `Options`: the options.
- `ofFields`, `fields`: from and to values by name.
- `withOverrides`: other values for some options.
- `ofConfig`: options from settings, with what there is to report.
-/

namespace Wireframe

open Document

/-- The options of a run. The base name and the directory are values of the settings; they are looked at
when they are needed. -/
structure Options where
  width : Nat
  height : Nat
  background : Rgb
  lineColor : Rgb
  step : Int
  outputDir : Value
  defaultBasename : Value
  frameDigits : Int
  frameExt : String
  format : Animation.Format
  frameDuration : Int
  deriving Inhabited

namespace Options

/-- The names of the options in order, with their defaults. -/
def defaults : List (String × Value) :=
  [("width", .int 500), ("height", .int 500), ("background", Rgb.white.toValue),
   ("line_color", Rgb.black.toValue), ("step", .int 20), ("output_dir", .str "anim"),
   ("default_basename", .str "default"), ("frame_digits", .int 3), ("frame_ext", .str "png"),
   ("format", .str "gif"), ("frame_duration_ms", .int 50)]

/-- Options by name. -/
abbrev Fields := Dict Label Value

/-- Whether a name is that of an option. -/
def isKnown (k : Label) : Bool := defaults.any fun d => k == .text d.1

/-- The content of an option, or its default. -/
def content (fs : Fields) (name : String) : Value :=
  match fs.find? (.text name) with
  | some v => v
  | none => ((defaults.find? fun d => d.1 == name).map (·.2)).getD .null

/-- The format of a name in any case. -/
def formatOf (v : Value) : Except Error Animation.Format :=
  let name := Text.lower v.text
  match Animation.Format.ofName? name with
  | some f => .ok f
  | none => .error (.animationFormat name)

/-- The cause of refusing a size. -/
def wrongSize (width height : Int) : Error :=
  if isWritableInt width && isWritableInt height then
    .screenSize (toString width) (toString height)
  else .unwritable

/-- Options by name: colours are read first, then texts, then numbers, and then everything is checked. -/
def ofFields (fs : Fields) : Except Error Options := do
  if !fs.keys.all isKnown then throw .wrongArguments
  let background ← Rgb.ofValue (content fs "background")
  let lineColor ← Rgb.ofValue (content fs "line_color")
  let texts := [content fs "frame_ext", content fs "format"]
  if !texts.all Value.isWritable then throw .unwritable
  let width ← (content fs "width").toInteger
  let height ← (content fs "height").toInteger
  let step ← (content fs "step").toInteger
  let digits ← (content fs "frame_digits").toInteger
  let duration ← (content fs "frame_duration_ms").toInteger
  if width ≤ 0 || height ≤ 0 then throw (wrongSize width height)
  if step < 3 then
    throw (if isWritableInt step then .coarseStep (toString step) else .unwritable)
  let format ← formatOf (content fs "format")
  return {
    width := width.toNat
    height := height.toNat
    background := background
    lineColor := lineColor
    step := step
    outputDir := content fs "output_dir"
    defaultBasename := content fs "default_basename"
    frameDigits := digits
    frameExt := Animation.withoutDots (content fs "frame_ext").text
    format := format
    frameDuration := duration }

/-- The options by name. -/
def fields (o : Options) : Fields :=
  .ofList [(.text "width", .int o.width), (.text "height", .int o.height),
    (.text "background", o.background.toValue), (.text "line_color", o.lineColor.toValue),
    (.text "step", .int o.step), (.text "output_dir", o.outputDir),
    (.text "default_basename", o.defaultBasename), (.text "frame_digits", .int o.frameDigits),
    (.text "frame_ext", .str o.frameExt), (.text "format", .str o.format.name),
    (.text "frame_duration_ms", .int o.frameDuration)]

/-- Other values for some options; null leaves an option as it is. -/
def withOverrides (o : Options) (overrides : List (Label × Value)) : Except Error Options :=
  ofFields (o.fields.merge (overrides.filter fun e => !e.2.isNull))

/-! ## Settings -/

/-- What reading the settings reports. -/
inductive ConfigNotice where
  | notTable (part : String)
  | unknownKey (part : String) (key : Label)

/-- The record of a notice. -/
def ConfigNotice.record : ConfigNotice → Record
  | .notTable part =>
    ⟨.warning, "mdl.options", s!"設定 {part} はマッピングである必要があります（無視）"⟩
  | .unknownKey part key =>
    ⟨.warning, "mdl.options", s!"未知の設定キー {part}.{key.asText} を無視します"⟩

/-- Takes options from the entries of one part of the settings. -/
def takeEntries (part : String) (fs : Fields) :
    List (Label × Value) → List ConfigNotice × Fields
  | [] => ([], fs)
  | (k, v) :: rest =>
    if isKnown k then takeEntries part (fs.insert k v) rest
    else
      let (notices, fs) := takeEntries part fs rest
      (.unknownKey part k :: notices, fs)

/-- Takes options from one part of the settings; whatever is empty counts as an empty table. -/
def takePart (settings : Dict Label Value) (part : String) (fs : Fields) :
    List ConfigNotice × Fields :=
  match settings.find? (.text part) with
  | none => ([], fs)
  | some v =>
    match v.opened with
    | .map entries => takeEntries part fs entries
    | v => if v.isTruthy then ([.notTable part], fs) else ([], fs)

/-- The options in the parts of the settings that hold some. -/
def configFields (settings : Dict Label Value) : List ConfigNotice × Fields :=
  let (first, fs) := takePart settings "render" .empty
  let (second, fs) := takePart settings "animation" fs
  (first ++ second, fs)

/-- Options from settings; whatever is empty counts as empty settings. -/
def ofConfig (v : Value) : List ConfigNotice × Except Error Options :=
  match v.opened with
  | .map entries =>
    let (notices, fs) := configFields ⟨entries⟩
    (notices, ofFields fs)
  | v => if v.isTruthy then ([], .error .notMapping) else ([], ofFields .empty)

end Options

end Wireframe
