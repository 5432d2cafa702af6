import Workbench.Yaml.Token

namespace Workbench
namespace Yaml

/-!
# Events

The structure of a YAML text as a row of events, in the order of the text: scalars, and the
beginnings and ends of collections and documents.  The grammar is a machine with a stack: it looks
at one token, gives out one event and goes to another state.
-/

/-- The tag of a kind of the core schema. -/
def coreTag (kind : String) : List UInt8 :=
  ("tag:yaml.org,2002:" ++ kind).toList.map fun c => UInt8.ofNat c.toNat

structure Scalar where
  anchor : Option (List Char) := none
  tag : Option (List UInt8) := none
  text : List Char := []
  style : Style := .plain
  deriving DecidableEq, Repr

inductive Event where
  | streamStart
  | streamEnd
  | documentStart
  | documentEnd
  | alias (name : List Char)
  | scalar (scalar : Scalar)
  | sequenceStart (anchor : Option (List Char))
  | sequenceEnd
  | mappingStart (anchor : Option (List Char))
  | mappingEnd
  deriving DecidableEq, Repr

inductive State where
  | streamStart
  /-- A document, which may begin without a mark. -/
  | implicitDocumentStart
  | documentStart
  | documentContent
  | documentEnd
  | blockNode
  | blockSequenceFirstEntry
  | blockSequenceEntry
  | indentlessSequenceEntry
  | blockMappingFirstKey
  | blockMappingKey
  | blockMappingValue
  | flowSequenceFirstEntry
  | flowSequenceEntry
  | flowSequencePairKey
  | flowSequencePairValue
  | flowSequencePairEnd
  | flowMappingFirstKey
  | flowMappingKey
  | flowMappingValue
  | flowMappingEmptyValue
  | finished
  deriving DecidableEq, Repr

structure Grammar where
  reader : Reader
  state : State := .streamStart
  /-- What is expected after the collections that are open, the innermost first. -/
  outer : List State := []
  handles : List (List Char × List UInt8) := []

namespace Grammar

/-- An event and what comes after it. -/
abbrev Step := Option (Event × Grammar)

/-- The handles that every document has. -/
def usualHandles : List (List Char × List UInt8) :=
  [(['!'], [tagMark]), (['!', '!'], coreTag "")]

/-- The next token, which is ready afterwards. -/
def peek (g : Grammar) : Option (Token × Grammar) := do
  let (token, reader) ← g.reader.peek
  pure (token, { g with reader })

/-- Gives up the token that is ready. -/
def drop (g : Grammar) : Grammar :=
  { g with reader := g.reader.drop }

/-- Gives up the token that is ready and looks at the next one. -/
def next (g : Grammar) : Option (Token × Grammar) :=
  g.drop.peek

def go (g : Grammar) (state : State) : Grammar :=
  { g with state }

/-- Expects something else after what comes now. -/
def push (g : Grammar) (state : State) : Grammar :=
  { g with outer := state :: g.outer }

/-- Goes back to what is expected after a node. -/
def pop (g : Grammar) : Grammar :=
  match g.outer with
  | state :: outer => { g with state, outer }
  | [] => g.go .finished

def absent (g : Grammar) : Step :=
  some (.scalar {}, g)

/-- Reads the directives before a document. -/
def directives : Nat → Bool → List (List Char × List UInt8) → Grammar →
    Option (List (List Char × List UInt8) × Grammar)
  | 0, _, _, _ => none
  | fuel + 1, versioned, handles, g => do
    let (token, g) ← g.peek
    match token with
    | .directive (.version major minor) =>
      if versioned || major != 1 || (minor != 1 && minor != 2) then none
      else directives fuel true handles g.drop
    | .directive (.tag handle meaning) =>
      if (handles.lookup handle).isSome then none
      else directives fuel versioned ((handle, meaning) :: handles) g.drop
    | _ => pure (handles, g)

/-- Reads the directives before a document and adds the usual handles. -/
def withDirectives (g : Grammar) : Option Grammar := do
  let limit := g.reader.cursor.rest.length + g.reader.tokens.length + 2
  let (handles, g) ← directives limit false [] g
  pure { g with handles := handles ++ usualHandles }

/-- Gives up marks of document ends. -/
def dropDocumentEnds : Nat → Grammar → Option (Token × Grammar)
  | 0, _ => none
  | fuel + 1, g => do
    let (token, g) ← g.peek
    if token == .documentEnd then dropDocumentEnds fuel g.drop else pure (token, g)

/-- The tag that a handle and a suffix stand for. -/
def writeTag (g : Grammar) (handle : List Char) (suffix : List UInt8) : Option (List UInt8) :=
  if handle.isEmpty then some suffix
  else (g.handles.lookup handle).map (· ++ suffix)

/-- The anchor and the tag before a node, in either order, and the token of the node itself. -/
def properties (g : Grammar) (token : Token) :
    Option (Option (List Char) × Option (List UInt8) × Token × Grammar) := do
  match token with
  | .anchor name =>
    let (token, g) ← g.next
    match token with
    | .tag handle suffix =>
      let (token, g) ← g.next
      pure (some name, some (← g.writeTag handle suffix), token, g)
    | _ => pure (some name, none, token, g)
  | .tag handle suffix =>
    let (token, g) ← g.next
    match token with
    | .anchor name =>
      let (token, g) ← g.next
      pure (some name, some (← g.writeTag handle suffix), token, g)
    | _ => pure (none, some (← g.writeTag handle suffix), token, g)
  | _ => pure (none, none, token, g)

/-- Where there is no node, an anchor or a tag still makes an empty scalar. -/
def orAbsent (g : Grammar) (anchor : Option (List Char)) (tag : Option (List UInt8)) : Step :=
  if anchor.isSome || tag.isSome then some (.scalar { anchor, tag }, g.pop) else none

/-- A node.  Only where a block is allowed may it be in the block style, and only as the value of
a mapping may a sequence have no indentation of its own. -/
def node (g : Grammar) (block indentless : Bool) : Step := do
  let (token, g) ← g.peek
  match token with
  | .alias name => pure (.alias name, g.pop.drop)
  | _ =>
    let (anchor, tag, token, g) ← g.properties token
    match token with
    | .blockEntry =>
      if indentless then pure (.sequenceStart anchor, g.go .indentlessSequenceEntry)
      else g.orAbsent anchor tag
    | .scalar text style =>
      pure (.scalar { anchor, tag, text, style }, g.pop.drop)
    | .flowSequenceStart => pure (.sequenceStart anchor, g.go .flowSequenceFirstEntry)
    | .flowMappingStart => pure (.mappingStart anchor, g.go .flowMappingFirstKey)
    | .blockSequenceStart =>
      if block then pure (.sequenceStart anchor, g.go .blockSequenceFirstEntry)
      else g.orAbsent anchor tag
    | .blockMappingStart =>
      if block then pure (.mappingStart anchor, g.go .blockMappingFirstKey)
      else g.orAbsent anchor tag
    | _ => g.orAbsent anchor tag

/-- Gives up the token that is ready; if one of these comes next the scalar is absent, and else a
node follows. -/
def nodeUnless (g : Grammar) (ends : List Token) (state : State) (block indentless : Bool) :
    Step := do
  let (token, g) ← g.next
  if ends.contains token then (g.go state).absent else (g.push state).node block indentless

/-- The beginning of a document, or the end of the text. -/
def documentStart (g : Grammar) (implicit : Bool) : Step := do
  let (token, g) ←
    if implicit then g.peek
    else dropDocumentEnds (g.reader.cursor.rest.length + g.reader.tokens.length + 2) g
  let marked :=
    match token with
    | .directive _ | .documentStart | .streamEnd => true
    | _ => false
  if implicit && !marked then
    let g ← g.withDirectives
    pure (.documentStart, (g.push .documentEnd).go .blockNode)
  else if token == .streamEnd then pure (.streamEnd, (g.go .finished).drop)
  else do
    let g ← g.withDirectives
    let (token, g) ← g.peek
    if token == .documentStart then
      pure (.documentStart, ((g.push .documentEnd).go .documentContent).drop)
    else none

def documentContent (g : Grammar) : Step := do
  let (token, g) ← g.peek
  match token with
  | .directive _ | .documentStart | .documentEnd | .streamEnd => g.pop.absent
  | _ => g.node true false

def documentEnd (g : Grammar) : Step := do
  let (token, g) ← g.peek
  let g := if token == .documentEnd then g.drop else g
  pure (.documentEnd, { g with state := .documentStart, handles := [] })

/-- An item of a sequence in the block style. -/
def blockSequenceEntry (g : Grammar) : Step := do
  let (token, g) ← g.peek
  match token with
  | .blockEntry => g.nodeUnless [.blockEntry, .blockEnd] .blockSequenceEntry true false
  | .blockEnd => pure (.sequenceEnd, g.pop.drop)
  | _ => none

/-- An item of a sequence without indentation of its own. -/
def indentlessSequenceEntry (g : Grammar) : Step := do
  let (token, g) ← g.peek
  match token with
  | .blockEntry =>
    g.nodeUnless [.blockEntry, .key, .value, .blockEnd] .indentlessSequenceEntry true false
  | _ => pure (.sequenceEnd, g.pop)

/-- A key of a mapping in the block style. -/
def blockMappingKey (g : Grammar) : Step := do
  let (token, g) ← g.peek
  match token with
  | .key => g.nodeUnless [.key, .value, .blockEnd] .blockMappingValue true true
  | .blockEnd => pure (.mappingEnd, g.pop.drop)
  | _ => none

/-- A value of a mapping in the block style. -/
def blockMappingValue (g : Grammar) : Step := do
  let (token, g) ← g.peek
  match token with
  | .value => g.nodeUnless [.key, .value, .blockEnd] .blockMappingKey true true
  | _ => (g.go .blockMappingKey).absent

/-- Looks at the token after the comma that separates items of a collection in the flow style. -/
def afterComma (g : Grammar) (first : Bool) (ending : Token) : Option (Token × Grammar) := do
  let (token, g) ← g.peek
  if first || token == ending then pure (token, g)
  else if token == .flowEntry then g.next
  else none

/-- An item of a sequence in the flow style. -/
def flowSequenceEntry (g : Grammar) (first : Bool) : Step := do
  let (token, g) ← g.afterComma first .flowSequenceEnd
  match token with
  | .flowSequenceEnd => pure (.sequenceEnd, g.pop.drop)
  | .key => pure (.mappingStart none, (g.go .flowSequencePairKey).drop)
  | _ => (g.push .flowSequenceEntry).node false false

/-- The key of a pair in a sequence. -/
def flowSequencePairKey (g : Grammar) : Step := do
  let (token, g) ← g.peek
  match token with
  | .value | .flowEntry | .flowSequenceEnd => (g.drop.go .flowSequencePairValue).absent
  | _ => (g.push .flowSequencePairValue).node false false

/-- The value of a pair in a sequence. -/
def flowSequencePairValue (g : Grammar) : Step := do
  let (token, g) ← g.peek
  match token with
  | .value => g.nodeUnless [.flowEntry, .flowSequenceEnd] .flowSequencePairEnd false false
  | _ => (g.go .flowSequencePairEnd).absent

/-- The end of a pair in a sequence. -/
def flowSequencePairEnd (g : Grammar) : Step := do
  let (_, g) ← g.peek
  pure (.mappingEnd, g.go .flowSequenceEntry)

/-- A key of a mapping in the flow style. -/
def flowMappingKey (g : Grammar) (first : Bool) : Step := do
  let (token, g) ← g.afterComma first .flowMappingEnd
  match token with
  | .flowMappingEnd => pure (.mappingEnd, g.pop.drop)
  | .key => g.nodeUnless [.value, .flowEntry, .flowMappingEnd] .flowMappingValue false false
  | _ => (g.push .flowMappingEmptyValue).node false false

/-- A value of a mapping in the flow style. -/
def flowMappingValue (g : Grammar) : Step := do
  let (token, g) ← g.peek
  match token with
  | .value => g.nodeUnless [.flowEntry, .flowMappingEnd] .flowMappingKey false false
  | _ => (g.go .flowMappingKey).absent

/-- Gives up the mark at the beginning of a collection. -/
def entered (g : Grammar) : Option Grammar := do
  let (_, g) ← g.peek
  pure g.drop

def step (g : Grammar) : Step :=
  match g.state with
  | .streamStart => do
    let (token, g) ← g.peek
    if token == .streamStart then pure (.streamStart, (g.go .implicitDocumentStart).drop) else none
  | .implicitDocumentStart => g.documentStart true
  | .documentStart => g.documentStart false
  | .documentContent => g.documentContent
  | .documentEnd => g.documentEnd
  | .blockNode => g.node true false
  | .blockSequenceFirstEntry => do (← g.entered).blockSequenceEntry
  | .blockSequenceEntry => g.blockSequenceEntry
  | .indentlessSequenceEntry => g.indentlessSequenceEntry
  | .blockMappingFirstKey => do (← g.entered).blockMappingKey
  | .blockMappingKey => g.blockMappingKey
  | .blockMappingValue => g.blockMappingValue
  | .flowSequenceFirstEntry => do (← g.entered).flowSequenceEntry true
  | .flowSequenceEntry => g.flowSequenceEntry false
  | .flowSequencePairKey => g.flowSequencePairKey
  | .flowSequencePairValue => g.flowSequencePairValue
  | .flowSequencePairEnd => g.flowSequencePairEnd
  | .flowMappingFirstKey => do (← g.entered).flowMappingKey true
  | .flowMappingKey => g.flowMappingKey false
  | .flowMappingValue => g.flowMappingValue
  | .flowMappingEmptyValue => do
    let (_, g) ← g.peek
    (g.go .flowMappingKey).absent
  | .finished => some (.streamEnd, g)

end Grammar
end Yaml
end Workbench
