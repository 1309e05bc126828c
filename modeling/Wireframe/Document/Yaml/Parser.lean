import Wireframe.Document.Yaml.Lexer
import Wireframe.Document.Yaml.Node

/-!
# `Wireframe.Document.Yaml.Parser` — from tokens to nodes

A node may have an anchor, under which aliases refer to it from there on, and a tag. Where a node may
stand and nothing is written stands the empty scalar. A text holds at most one document.

A fault behind the tokens is met only by looking at what comes next, so every action looks no further than
it has to.

## Contents
- `Parser`, `Reading`: the state, and actions on it.
- `node`, `blockItems`, `blockEntries`, `flowItems`, `flowEntries`: the nodes.
- `Graph.ofTokens?`: the document of a list of tokens.
-/

namespace Wireframe.Document.Yaml

/-- The tokens that are left and the fault behind them, what the tag handles stand for, the nodes so far,
the anchors, and the nodes that are still being read. -/
structure Parser where
  rest : List Token
  fault : Option Failure
  handles : Dict String String := .ofList [("!", "!"), ("!!", commonTags)]
  nodes : Array Node := #[]
  anchors : Dict String Nat := .empty
  unfinished : List Nat := []
  isLooped : Bool := false

/-- Reading tokens. -/
abbrev Reading := StateT Parser (Except Failure)

/-- The text is refused. -/
def refuse {β : Type} : Reading β := throw .malformed

/-- The next token. -/
def peekToken : Reading Token := do
  let p ← get
  match p.rest, p.fault with
  | t :: _, _ => return t
  | [], some fault => throw fault
  | [], none => return .streamEnd

/-- Skips a token. -/
def advance : Reading Unit := modify fun p => { p with rest := p.rest.tail }

/-- Skips a token, if it comes next. -/
def accept (t : Token) : Reading Bool := do
  if (← peekToken) == t then
    advance
    return true
  else return false

/-- Whether one of some tokens comes next. -/
def sees (ts : List Token) : Reading Bool := do return ts.contains (← peekToken)

/-! ## Anchors and tags -/

/-- What stands before a node. -/
structure Properties where
  anchor : Option String := none
  tag : Option String := none

/-- The full name of a tag. -/
def tagName (handle : Option String) (suffix : String) : Reading String := do
  match handle with
  | none => return suffix
  | some h =>
    match (← get).handles.find? h with
    | some target => return target ++ suffix
    | none => refuse

/-- An anchor, if it comes next. -/
def takeAnchor : Reading (Option String) := do
  match ← peekToken with
  | .anchor name =>
    advance
    return some name
  | _ => return none

/-- A handle and a suffix, if a tag comes next. -/
def takeTag : Reading (Option (Option String × String)) := do
  match ← peekToken with
  | .tag handle suffix =>
    advance
    return some (handle, suffix)
  | _ => return none

/-- An anchor and a tag in any order; the handle of the tag is looked up behind both. -/
def properties : Reading Properties := do
  let before ← takeAnchor
  let tag ← takeTag
  let after ← if before.isNone && tag.isSome then takeAnchor else pure none
  let name ←
    match tag with
    | some (handle, suffix) => some <$> tagName handle suffix
    | none => pure none
  return ⟨before.or after, name⟩

/-- The tag of a sequence or table. -/
def Properties.tagOr (p : Properties) (usual : Tag) : Tag :=
  match p.tag with
  | none => usual
  | some name => if name == "!" then usual else .ofName name

/-! ## Keeping nodes -/

/-- Gives a number to a node. -/
def addNode (n : Node) : Reading Nat := do
  let id := (← get).nodes.size
  modify fun p => { p with nodes := p.nodes.push n }
  return id

/-- The empty scalar. -/
def nothing : Reading Nat := addNode .nothing

/-- Gives a number to a node and puts it under its anchor; every anchor is given once. -/
def Properties.keep (p : Properties) (n : Node) : Reading Nat := do
  match p.anchor with
  | none => addNode n
  | some a =>
    if (← get).anchors.contains a then refuse
    let id ← addNode n
    modify fun s => { s with anchors := s.anchors.insert a id }
    return id

/-- A scalar: the tag `!` makes it read as a plain one. -/
def Properties.scalar (p : Properties) (text : String) (plain : Bool) : Reading Nat :=
  p.keep ⟨p.tagOr (if plain || p.tag.isSome then implicitTag text else .text), .scalar text⟩

/-- A sequence or table whose parts are read while it has its number already. -/
def Properties.collection (p : Properties) (usual : Tag) (parts : Reading Content) :
    Reading Nat := do
  let tag := p.tagOr usual
  let id ← p.keep ⟨tag, .sequence []⟩
  modify fun s => { s with unfinished := id :: s.unfinished }
  let content ← parts
  modify fun s =>
    { s with unfinished := s.unfinished.tail, nodes := s.nodes.setIfInBounds id ⟨tag, content⟩ }
  return id

/-- The node that an alias stands for. -/
def aliased (name : String) : Reading Nat := do
  match (← get).anchors.find? name with
  | some id =>
    modify fun s => { s with isLooped := s.isLooped || s.unfinished.contains id }
    return id
  | none => refuse

/-! ## Nodes -/

/-- How deep nodes may lie in one another. -/
def deepest : Nat := 490

mutual

/-- A node: in lines or between brackets, and perhaps a sequence whose items are indented no
further than the key before it. -/
def node (inBlock itemsAllowed : Bool) : Nat → Reading Nat
  | 0 => refuse
  | fuel + 1 => do
    match ← peekToken with
    | .alias name =>
      advance
      aliased name
    | _ =>
      let p ← properties
      let t ← peekToken
      if deepest ≤ (← get).unfinished.length then throw (.faulty .endless)
      let items := fun (r : Reading (List Nat)) =>
        p.collection .sequence (Content.sequence <$> r)
      let entries := fun (r : Reading (List (Nat × Nat))) =>
        p.collection .mapping (Content.mapping <$> r)
      match t with
      | .scalar text plain =>
        advance
        p.scalar text plain
      | .openSequence =>
        advance
        items (flowItems true fuel)
      | .openMapping =>
        advance
        entries (flowEntries true fuel)
      | t =>
        if t == .entry && itemsAllowed then items (looseItems fuel)
        else if t == .blockSequence && inBlock then
          advance
          items (blockItems fuel)
        else if t == .blockMapping && inBlock then
          advance
          entries (blockEntries fuel)
        else if p.anchor.isSome || p.tag.isSome then p.scalar "" true
        else refuse

/-- A node, or nothing before one of some tokens. -/
def nodeUnless (ends : List Token) (inBlock itemsAllowed : Bool) : Nat → Reading Nat
  | 0 => refuse
  | fuel + 1 => do
    if ← sees ends then nothing else node inBlock itemsAllowed fuel

/-- The items of a sequence in lines. -/
def blockItems : Nat → Reading (List Nat)
  | 0 => refuse
  | fuel + 1 => do
    if ← accept .entry then
      let n ← nodeUnless [.entry, .blockEnd] true false fuel
      return n :: (← blockItems fuel)
    else if ← accept .blockEnd then return []
    else refuse

/-- The items of a sequence that is not indented. -/
def looseItems : Nat → Reading (List Nat)
  | 0 => refuse
  | fuel + 1 => do
    if ← accept .entry then
      let n ← nodeUnless [.entry, .key, .value, .blockEnd] true false fuel
      return n :: (← looseItems fuel)
    else return []

/-- The entries of a table in lines. -/
def blockEntries : Nat → Reading (List (Nat × Nat))
  | 0 => refuse
  | fuel + 1 => do
    if ← accept .key then
      let k ← nodeUnless [.key, .value, .blockEnd] true true fuel
      let v ←
        if ← accept .value then nodeUnless [.key, .value, .blockEnd] true true fuel
        else nothing
      return (k, v) :: (← blockEntries fuel)
    else if ← accept .blockEnd then return []
    else refuse

/-- The key behind its sign, and the value, between brackets. -/
def flowPair (close : Token) : Nat → Reading (Nat × Nat)
  | 0 => refuse
  | fuel + 1 => do
    let k ← nodeUnless [.value, .comma, close] false false fuel
    let v ←
      if ← accept .value then nodeUnless [.comma, close] false false fuel else nothing
    return (k, v)

/-- The items of a sequence between brackets; an item may be a table of one entry. -/
def flowItems (first : Bool) : Nat → Reading (List Nat)
  | 0 => refuse
  | fuel + 1 => do
    if ← accept .closeSequence then return []
    if !first then
      if !(← accept .comma) then refuse
    if ← sees [.key] then
      let pair : Reading Content := do
        advance
        return .mapping [← flowPair .closeSequence fuel]
      let n ← ({} : Properties).collection .mapping pair
      return n :: (← flowItems false fuel)
    else if ← accept .closeSequence then return []
    else
      let n ← node false false fuel
      return n :: (← flowItems false fuel)

/-- The entries of a table between brackets. -/
def flowEntries (first : Bool) : Nat → Reading (List (Nat × Nat))
  | 0 => refuse
  | fuel + 1 => do
    if ← accept .closeMapping then return []
    if !first then
      if !(← accept .comma) then refuse
    if ← accept .key then
      let e ← flowPair .closeMapping fuel
      return e :: (← flowEntries false fuel)
    else if ← accept .closeMapping then return []
    else
      let n ← node false false fuel
      return (n, ← nothing) :: (← flowEntries false fuel)

end

/-! ## Documents -/

/-- The directives before a document: at most one version, which must be 1, and handles that differ. -/
def directives (versionSeen : Bool) (given : List String) : Nat → Reading Unit
  | 0 => refuse
  | fuel + 1 => do
    match ← peekToken with
    | .otherDirective =>
      advance
      directives versionSeen given fuel
    | .version major =>
      if versionSeen || major != 1 then refuse
      advance
      directives true given fuel
    | .tagHandle handle target =>
      if given.contains handle then refuse
      advance
      modify fun p => { p with handles := p.handles.insert handle target }
      directives versionSeen (handle :: given) fuel
    | _ => return

/-- Skips the signs for the end of a document. -/
def skipEnds : Nat → Reading Unit
  | 0 => return
  | fuel + 1 => do
    if ← accept .documentEnd then skipEnds fuel

/-- Whether a document with directives or a sign of its own begins, or none. -/
def startsExplicitly : Token → Bool
  | .version _ | .tagHandle .. | .otherDirective | .documentStart | .streamEnd => true
  | _ => false

/-- Whether a document ends before it has begun. -/
def endsContent (t : Token) : Bool := startsExplicitly t || t == .documentEnd

/-- The directives and the sign of a document, unless the text ends. -/
def openDocument (fuel : Nat) : Reading Bool := do
  skipEnds fuel
  if (← peekToken) == .streamEnd then return false
  directives false [] fuel
  if !(← accept .documentStart) then refuse
  return true

/-- The document, if there is one. -/
def document (fuel : Nat) : Reading (Option Nat) := do
  if !startsExplicitly (← peekToken) then return some (← node true false fuel)
  if ← openDocument fuel then
    if endsContent (← peekToken) then return some (← nothing)
    return some (← node true false fuel)
  else return none

/-- The only document; a second one is refused at its sign. -/
def onlyDocument (fuel : Nat) : Reading (Option Nat) := do
  let n ← document fuel
  if ← openDocument fuel then refuse
  return n

/-- The document of the tokens of a text, if there is one. -/
def Graph.ofTokens? (ts : Tokens) : Except Failure (Option Graph) := do
  let (n, p) ← (onlyDocument (4 * ts.ready.length + 4)).run { rest := ts.ready, fault := ts.fault }
  return n.map fun root => ⟨p.nodes, root, p.isLooped⟩

end Wireframe.Document.Yaml
