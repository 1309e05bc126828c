import Wireframe.Document.Value

/-!
# `Wireframe.Error` — what can go wrong

Every failure is a value of one type that says its cause. A cause has a kind, which groups causes by how
a caller reacts to them, and most causes have a message. A cause without a message comes from reading a
number, from the shape of an array or from the file system; inside another message it is shown by its
kind in angle brackets.

## Contents
- `Kind`, `Kind.tag`: the kinds and their names.
- `Error`: the causes, with `Error.kind` and `Error.message?`.
- `Error.settled`: a cause whose message can be written.
- `Error.shown`: the text of a cause inside another message.
-/

namespace Wireframe

open Document

/-- How a caller reacts to a failure. -/
inductive Kind where
  | value | type | key | index | overflow | zeroDivision | arithmetic | attribute | runtime | recursion
  | system | missingFile | isDirectory | notDirectory | exists | permission | decoding
  | config | range | emptyStack | unknownSymbol | symbolKind | opcode
  deriving DecidableEq, Repr

/-- The name of a kind in results. -/
def Kind.tag : Kind → String
  | .value => "ValueError"
  | .type => "TypeError"
  | .key => "KeyError"
  | .index => "IndexError"
  | .overflow => "OverflowError"
  | .zeroDivision => "ZeroDivisionError"
  | .arithmetic => "ArithmeticError"
  | .attribute => "AttributeError"
  | .runtime => "RuntimeError"
  | .recursion => "RecursionError"
  | .system => "OSError"
  | .missingFile => "FileNotFoundError"
  | .isDirectory => "IsADirectoryError"
  | .notDirectory => "NotADirectoryError"
  | .exists => "FileExistsError"
  | .permission => "PermissionError"
  | .decoding => "UnicodeDecodeError"
  | .config => "ConfigError"
  | .range => "InvalidRangeError"
  | .emptyStack => "EmptyStackError"
  | .unknownSymbol => "SymbolNotFoundError"
  | .symbolKind => "SymbolKindError"
  | .opcode => "OpcodeError"

/-- Whether a kind is a failure of the interpreted program, which the command line reports. -/
def Kind.isProgramError : Kind → Bool
  | .config | .range | .emptyStack | .unknownSymbol | .symbolKind | .opcode => true
  | _ => false

/-- The two formats of program files. -/
inductive Format where
  | json | yaml
  deriving DecidableEq, Repr

/-- What a message says of a file that is not in its format. -/
def Format.failure : Format → String
  | .json => "<JSONDecodeError>"
  | .yaml => "<YAMLError>"

/-- The causes of failures. -/
inductive Error where
  -- Reading numbers.
  | notNumeric
  | notNumber
  | tooLarge
  | nanToInteger
  | infinityToInteger
  | divisionByZero
  | notFinite
  | unwritable
  -- Values of the wrong form.
  | notIterable
  | unhashable
  | notMapping
  | notText
  | wrongArguments
  | endless
  | notVector (name : String) (value : Value)
  | vectorLength (name : String) (got : Nat)
  | notWhole (name : String) (value : Value)
  | axis (value : Value)
  -- Names in registries.
  | keyNotText
  | keyEmpty
  | keyTaken (key : String)
  | keyUnknown (name : String)
  | notFunction (shown : String)
  -- Programs.
  | notOpcode (value : Value)
  | itemWithoutOp (index : Int) (item : Value)
  | unknownOpcode (index : Int) (keyword : String)
  | badArguments (index : Int) (keyword : String) (most : Nat) (given : Value)
  | givenTwice (index : Int) (keyword field : String)
  | unknownFields (index : Int) (keyword : String) (fields : List String)
  | badField (index : Int) (keyword : String) (cause : Error)
  | boxSize
  | withoutOps
  | notProgram (typeName : String)
  | unreadable (path : String) (format : Format)
  -- Animation plans.
  | varyWithoutFrames
  | tooFewFrames (count : Int)
  | negativeStart (target : Value) (start : Int)
  | emptyRange (target : Value) (first last : Int)
  -- Symbols.
  | unknownSymbolKind
  | declaredAs (name : Label) (kind : String)
  | wrongKind (name : Label) (actual wanted : String)
  | undeclared (name : Label)
  | withoutValue
  -- Matrices and geometry.
  | arrayShape
  | arrayIndex
  | notTransform (shape : List Nat)
  | worldPop
  | coordsShape
  | offsetsRank
  | offsetsEmpty
  | offsetsStart
  | offsetsEnd
  | offsetsOrder
  | flatLength
  | lineShape (shape : List Nat)
  | trianglesShape (shape : List Nat)
  | readOnly
  | negativeRadius (radius : String)
  | negativeRadii (r0 r1 : String)
  | coarseStep (step : String)
  -- Pictures.
  | screenSize (width height : String)
  | offScreen (x y : String)
  | hexLength (text : String)
  | hexDigits (text : String)
  | colorType (typeName : String)
  | colorLength
  | colorItems (value : Value)
  | unknownFormat
  | frameSizes
  -- Animations.
  | animationFormat (name : String)
  | assemblyFormat (name : String) (known : List String)
  | negativeFrame (index : String)
  | noFrames (directory basename ext : String)
  -- Files.
  | missing (path : String)
  | isDirectory (path : String)
  | notDirectory (path : String)
  | existing (path : String)
  | fileName
  | nameTooLong
  | notPath
  | undecodable
  | noHome
  | outside (kind : Kind)
  deriving Inhabited

/-- The shape of an array in messages. -/
def shapeText : List Nat → String
  | [n] => s!"({n},)"
  | shape => "(" ++ ", ".intercalate (shape.map toString) ++ ")"

namespace Error

/-- The kind of a cause. -/
def kind : Error → Kind
  | notNumeric | keyNotText | notFunction _ | notOpcode _ | notIterable | unhashable
  | wrongArguments | notPath => .type
  | notNumber | nanToInteger | notFinite | unwritable | notVector .. | vectorLength .. | notWhole .. | axis _
  | keyEmpty | keyTaken _ | boxSize | unknownSymbolKind | arrayShape | notTransform _ | coordsShape
  | offsetsRank | offsetsEmpty | offsetsStart | offsetsEnd | offsetsOrder | flatLength | lineShape _
  | trianglesShape _ | readOnly | negativeRadius _ | negativeRadii .. | coarseStep _ | screenSize ..
  | hexLength _ | hexDigits _ | colorType _ | colorLength | colorItems _ | frameSizes
  | animationFormat _ | assemblyFormat .. | negativeFrame _ | fileName => .value
  | tooLarge | infinityToInteger => .overflow
  | divisionByZero => .zeroDivision
  | notMapping | notText => .attribute
  | keyUnknown _ | withoutValue => .key
  | arrayIndex | offScreen .. => .index
  | itemWithoutOp .. | unknownOpcode .. | badArguments .. | givenTwice .. | unknownFields ..
  | badField .. | withoutOps | notProgram _ | unreadable .. => .opcode
  | varyWithoutFrames | tooFewFrames _ => .config
  | negativeStart .. | emptyRange .. => .range
  | declaredAs .. | wrongKind .. => .symbolKind
  | undeclared _ => .unknownSymbol
  | worldPop => .emptyStack
  | unknownFormat | nameTooLong => .system
  | noFrames .. | missing _ => .missingFile
  | isDirectory _ => .isDirectory
  | notDirectory _ => .notDirectory
  | existing _ => .exists
  | undecodable => .decoding
  | noHome => .runtime
  | endless => .recursion
  | outside k => k

/-- What the axis message adds: nothing for a truth value. -/
def axisHint : Value → String
  | .bool _ => ""
  | _ => "（x/y/z を指定）"

/-- The message of a cause, if it has one of its own. -/
def message? : Error → Option String
  | notNumeric | notNumber | tooLarge | nanToInteger | infinityToInteger | divisionByZero | notFinite
  | unwritable | notIterable | unhashable | notMapping | notText | wrongArguments | endless | unknownSymbolKind | withoutValue
  | arrayShape | arrayIndex | readOnly | unknownFormat | frameSizes | missing _ | isDirectory _
  | notDirectory _ | existing _ | fileName | nameTooLong | notPath | undecodable | noHome | outside _ => none
  | notVector name value => s!"{name} は数値 3 要素の列である必要があります: {value.quoted}"
  | vectorLength name got => s!"{name} は 3 要素である必要があります（got {got}）"
  | notWhole name value => s!"{name} は整数である必要があります: {value.quoted}"
  | axis value => s!"不正な回転軸です: {value.quoted}{axisHint value}"
  | keyNotText => "レジストリキーは str である必要があります"
  | keyEmpty => "レジストリキーは空であってはなりません"
  | keyTaken key => s!"'{key}' は既に登録されています"
  | keyUnknown name => s!"'{name}' は登録されていません"
  | notFunction shown => s!"@shape は関数のみ登録可能です: got {shown}"
  | notOpcode value => s!"オペコードではありません: {value.quoted}"
  | itemWithoutOp index item =>
    s!"#{index}: 'op' キーを持つマッピングである必要があります: {item.quoted}"
  | unknownOpcode index keyword => s!"#{index}: 未知のオペコードです: {Text.quote keyword}"
  | badArguments index keyword most given =>
    s!"#{index} {keyword}: args は最大 {most} 要素のリストです: {given.quoted}"
  | givenTwice index keyword field =>
    s!"#{index} {keyword}: {field} が args とキーの両方で指定されています"
  | unknownFields index keyword fields =>
    some (s!"#{index} {keyword}: 未知のフィールドです: " ++ ", ".intercalate fields)
  | badField index keyword cause =>
    some (s!"#{index} {keyword}: " ++ (cause.message?.getD ("<" ++ cause.kind.tag ++ ">")))
  | boxSize => "box の size 形式には corner0 と 3 要素の size が必要です"
  | withoutOps => "マッピング形式の文書には 'ops' キーが必要です"
  | notProgram typeName => s!"オペコードのリストが必要です: {typeName}"
  | unreadable path format =>
    s!"{path}: 読み込みに失敗しました: {format.failure}"
  | varyWithoutFrames => "vary が使われていますが frames が指定されていません"
  | tooFewFrames count => s!"frames は 1 以上である必要があります: {count}"
  | negativeStart target start => s!"vary {target.text}: 開始フレームが負です（{start}）"
  | emptyRange target first last =>
    s!"vary {target.text}: 終了フレーム {last} は開始フレーム {first} より後である必要があります"
  | declaredAs name kind => s!"シンボル '{name.asText}' は {kind} として宣言済みです"
  | wrongKind name actual wanted =>
    s!"シンボル '{name.asText}' は {actual} です（{wanted} を要求）"
  | undeclared name => s!"シンボル '{name.asText}' は宣言されていません"
  | notTransform shape => s!"変換行列は (4, 4) である必要があります: {shapeText shape}"
  | worldPop => "ワールド座標系は pop できません（push と pop の対応を確認）"
  | coordsShape => "coords は形状 (N, 3) の配列である必要があります。"
  | offsetsRank => "offsets は 1 次元配列である必要があります。"
  | offsetsEmpty => "offsets は少なくとも1要素を含む必要があります。"
  | offsetsStart => "offsets[0] は常に 0 である必要があります。"
  | offsetsEnd => "offsets[-1] は coords の行数と一致する必要があります。"
  | offsetsOrder => "offsets は単調非減少である必要があります。"
  | flatLength => "1次元入力の長さは3の倍数である必要があります（(x, y, z) の並び）"
  | lineShape shape => s!"座標配列の形状が不正です: {shapeText shape}"
  | trianglesShape shape =>
    s!"triangles は形状 (K, 3, 3) である必要があります: {shapeText shape}"
  | negativeRadius radius => s!"radius は 0 以上である必要があります: {radius}"
  | negativeRadii r0 r1 => s!"r0/r1 は 0 以上である必要があります: r0={r0}, r1={r1}"
  | coarseStep step => s!"step は 3 以上である必要があります: {step}"
  | screenSize width height => s!"画面サイズが不正です: {width}x{height}"
  | offScreen x y => s!"({x}, {y}) は画面外です"
  | hexLength text => s!"invalid hex color length: '{text}' (expected RRGGBB or RRGGBBAA)"
  | hexDigits text => s!"invalid hex color: '{text}'"
  | colorType typeName => s!"unsupported color type: <class '{typeName}'>"
  | colorLength => "color tuple/list must be length 3 or 4"
  | colorItems value => s!"invalid color tuple/list: {value.quoted}"
  | animationFormat name => s!"未対応のアニメーション形式です: {Text.quote name}"
  | assemblyFormat name known =>
    some (s!"未対応のアニメーション形式です: {Text.quote name}（" ++ ", ".intercalate known ++ "）")
  | negativeFrame index => s!"フレーム番号は 0 以上である必要があります: {index}"
  | noFrames directory basename ext =>
    s!"{directory} に '{basename}*.{ext}' のフレームがありません"

/-- The values that the message of a cause shows. -/
def values : Error → List Value
  | notVector _ v | notWhole _ v | axis v | notOpcode v | itemWithoutOp _ v | badArguments _ _ _ v
  | negativeStart v _ | emptyRange v _ _ | colorItems v => [v]
  | declaredAs a _ | wrongKind a _ _ | undeclared a => [a.value]
  | _ => []

/-- The cause itself, unless its message cannot be written because of a value in it. -/
def settled (e : Error) : Error := if e.values.all Value.isWritable then e else unwritable

/-- The text of a cause inside another message. -/
def shown (e : Error) : String := e.message?.getD ("<" ++ e.kind.tag ++ ">")

/-- The text of a cause in the log of the command line. -/
def logText : Error → String
  | missing path => s!"[Errno 2] No such file or directory: {Text.quote path}"
  | e => e.shown

end Error

end Wireframe
