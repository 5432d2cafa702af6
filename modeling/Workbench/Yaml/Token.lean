import Workbench.Yaml.Scalar
import Workbench.Yaml.Tag

namespace Workbench
namespace Yaml

/-!
# Tokens

A YAML text is a row of tokens, most of which stand for a mark in the text.  In the block style the
beginning and end of a collection have no mark: they follow from indentation, and the beginning of
a mapping only shows at the colon after its first key.  A token is therefore held back as long as
it may turn out to be such a key, which has to stand on one line within 1024 octets.

How far the text is read before a token is given out matters, since what comes first wins: a value
of the wrong type before a malformed part of the text, or the other way round.
-/

/-- How a scalar is written, as far as it matters. -/
inductive Style where
  | plain
  | literal
  | other
  deriving DecidableEq, Repr

inductive Token where
  | streamStart
  | streamEnd
  | directive (read : Directive)
  | documentStart
  | documentEnd
  | blockSequenceStart
  | blockMappingStart
  | blockEnd
  | flowSequenceStart
  | flowSequenceEnd
  | flowMappingStart
  | flowMappingEnd
  | blockEntry
  | flowEntry
  | key
  | value
  | alias (name : List Char)
  | anchor (name : List Char)
  | tag (handle : List Char) (suffix : List UInt8)
  | scalar (text : List Char) (style : Style)
  deriving DecidableEq, Repr

/-- A token that may turn out to be a key. -/
structure KeyCandidate where
  /-- Whether anything else would be malformed. -/
  required : Bool
  /-- The number of the token, counted from the beginning of the text. -/
  number : Nat
  /-- Where it stands. -/
  place : Cursor

/-- Where the reader of tokens stands. -/
structure Reader where
  /-- The text that is left. -/
  cursor : Cursor
  /-- Whether more text follows that cannot be read. -/
  isCut : Bool := false
  /-- Whether the beginning of the text was announced. -/
  started : Bool := false
  /-- How many collections in the flow style are open. -/
  flowLevel : Nat := 0
  /-- The indentation of the innermost block; -1 outside of any. -/
  indent : Int := -1
  /-- The indentations of the blocks around it. -/
  outerIndents : List Int := []
  /-- Whether a key may begin here. -/
  keyAllowed : Bool := true
  /-- What may turn out to be a key, for each flow level, the innermost first. -/
  candidates : List (Option KeyCandidate) := []
  /-- The tokens held back, in order. -/
  tokens : List Token := []
  /-- How many tokens were given out. -/
  given : Nat := 0

namespace Reader

/-- The reader at the beginning of a text. -/
def ofText (text : List Char) (isCut : Bool) : Reader :=
  { cursor := { rest := text }, isCut }

def add (r : Reader) (token : Token) : Reader :=
  { r with tokens := r.tokens ++ [token] }

def moved (r : Reader) (cursor : Cursor) : Reader :=
  { r with cursor }

def skip (r : Reader) (count : Nat) : Reader :=
  r.moved (r.cursor.skip count)

/-- Says whether a key may begin next. -/
def allowKey (r : Reader) (allowed : Bool) : Reader :=
  { r with keyAllowed := allowed }

/-- Puts a token in front of the one of a given number. -/
def insert (r : Reader) (number : Nat) (token : Token) : Reader :=
  { r with tokens := r.tokens.insertIdx (number - r.given) token }

/-- The text from the next token on: blanks, comments and line ends do not count, and a byte order
mark at the beginning of a line takes a column but does not count either.  A tab counts where a key
may begin. -/
def skipGaps : Nat → Reader → Reader
  | 0, r => r
  | fuel + 1, r =>
    let tabs := 0 < r.flowLevel || !r.keyAllowed
    let start :=
      if r.cursor.column == 0 && r.cursor.peek == byteOrderMark then r.cursor.skip 1 else r.cursor
    let c := (start.skipWhile fun d => d == ' ' || (tabs && d == '\t')).skipComment
    if isBreak c.peek then
      skipGaps fuel
        { r with cursor := c.skipBreak, keyAllowed := r.keyAllowed || r.flowLevel == 0 }
    else r.moved c

/-- Gives up the candidates that stand on another line or too far back. -/
def dropStale (r : Reader) : Option Reader := do
  let candidates ← r.candidates.mapM fun
    | none => some none
    | some key =>
      if key.place.line < r.cursor.line || key.place.index + 1024 < r.cursor.index then
        if key.required then none else some none
      else some (some key)
  pure { r with candidates }

/-- Gives up the innermost candidate. -/
def dropKey (r : Reader) : Option Reader :=
  match r.candidates with
  | some key :: rest => if key.required then none else some { r with candidates := none :: rest }
  | _ => some r

/-- Takes the next token as a candidate, if a key may begin here. -/
def offerKey (r : Reader) : Option Reader :=
  if r.keyAllowed then do
    let key : KeyCandidate :=
      { required := r.flowLevel == 0 && r.indent == (r.cursor.column : Int)
        number := r.given + r.tokens.length
        place := r.cursor }
    let r ← r.dropKey
    pure { r with candidates := some key :: r.candidates.drop 1 }
  else some r

/-- Ends the blocks that are indented more than a column. -/
def endBlocks (r : Reader) (column : Int) : Reader :=
  if 0 < r.flowLevel then r
  else
    let rec go : List Int → Int → List Token → Int × List Int × List Token
      | [], indent, ends => (indent, [], ends)
      | outer :: rest, indent, ends =>
        if column < indent then go rest outer (.blockEnd :: ends) else (indent, outer :: rest, ends)
    let (indent, outerIndents, ends) := go r.outerIndents r.indent []
    { r with indent, outerIndents, tokens := r.tokens ++ ends }

/-- Begins a block at a column, if it is indented more than the one around it. -/
def beginBlock (r : Reader) (column : Nat) (number : Option Nat) (token : Token) : Reader :=
  if 0 < r.flowLevel || (column : Int) ≤ r.indent then r
  else
    let r := { r with indent := column, outerIndents := r.indent :: r.outerIndents }
    match number with
    | some number => r.insert number token
    | none => r.add token

/-- Begins a block of some kind where one may begin. -/
def beginBlockHere (r : Reader) (token : Token) : Option Reader :=
  if 0 < r.flowLevel then some r
  else if r.keyAllowed then some (r.beginBlock r.cursor.column none token)
  else none

def streamEnd (r : Reader) : Option Reader := do
  let c := r.cursor
  let c := if c.column = 0 then c else { c with column := 0, line := c.line + 1 }
  let r ← ((r.moved c).endBlocks (-1)).dropKey
  pure ((r.allowKey false).add .streamEnd)

def directive (r : Reader) : Option Reader := do
  let r ← (r.endBlocks (-1)).dropKey
  let (read, c) ← Yaml.directive (r.cursor.skip 1)
  pure (((r.allowKey false).moved c).add (.directive read))

/-- The mark at the beginning or end of a document. -/
def documentMark (r : Reader) (token : Token) : Option Reader := do
  let r ← (r.endBlocks (-1)).dropKey
  pure (((r.allowKey false).skip 3).add token)

/-- The beginning of a collection in the flow style. -/
def flowStart (r : Reader) (token : Token) : Option Reader := do
  let r ← r.offerKey
  let inner := { r with candidates := none :: r.candidates, flowLevel := r.flowLevel + 1 }
  pure (((inner.allowKey true).skip 1).add token)

/-- The end of a collection in the flow style. -/
def flowEnd (r : Reader) (token : Token) : Option Reader := do
  let r ← r.dropKey
  let outer :=
    if 0 < r.flowLevel then
      { r with candidates := r.candidates.drop 1, flowLevel := r.flowLevel - 1 }
    else r
  pure (((outer.allowKey false).skip 1).add token)

def flowEntry (r : Reader) : Option Reader := do
  let r ← r.dropKey
  pure (((r.allowKey true).skip 1).add .flowEntry)

/-- The mark of an item in the block style. -/
def blockEntry (r : Reader) : Option Reader := do
  let r ← r.beginBlockHere .blockSequenceStart
  let r ← r.dropKey
  pure (((r.allowKey true).skip 1).add .blockEntry)

def key (r : Reader) : Option Reader := do
  let r ← r.beginBlockHere .blockMappingStart
  let r ← r.dropKey
  pure (((r.allowKey (r.flowLevel == 0)).skip 1).add .key)

/-- The mark of a value.  If there is a candidate, this shows it to be a key. -/
def value (r : Reader) : Option Reader := do
  let r ←
    match r.candidates with
    | some candidate :: rest =>
      let r := { r with candidates := none :: rest }
      let r := r.insert candidate.number .key
      let r := r.beginBlock candidate.place.column (some candidate.number) .blockMappingStart
      pure (r.allowKey false)
    | _ => do
      let r ← r.beginBlockHere .blockMappingStart
      pure (r.allowKey (r.flowLevel == 0))
  pure ((r.skip 1).add .value)

def anchor (r : Reader) (token : List Char → Token) : Option Reader := do
  let r ← r.offerKey
  let (name, c) ← anchorName (r.cursor.skip 1)
  pure (((r.allowKey false).moved c).add (token name))

def tag (r : Reader) : Option Reader := do
  let r ← r.offerKey
  let (handle, suffix, c) ← Yaml.tag (0 < r.flowLevel) r.cursor
  pure (((r.allowKey false).moved c).add (.tag handle suffix))

def blockScalar (r : Reader) (literal : Bool) : Option Reader := do
  let r ← r.dropKey
  let (text, c) ← Yaml.blockScalar literal r.indent (r.cursor.skip 1)
  pure (((r.allowKey true).moved c).add (.scalar text (if literal then .literal else .other)))

def quotedScalar (r : Reader) (single : Bool) : Option Reader := do
  let r ← r.offerKey
  let c := r.cursor.skip 1
  let (text, c) ← Yaml.quotedScalar single (c.rest.length + 1) [] c
  pure (((r.allowKey false).moved c).add (.scalar text .other))

/-- A plain scalar.  If it ended on a new line, a key may begin there. -/
def plainScalar (r : Reader) : Option Reader := do
  let r ← r.offerKey
  let (text, crossed, c) ←
    Yaml.plainScalar (0 < r.flowLevel) (r.indent + 1) (r.cursor.rest.length + 1) [] {} r.cursor
  pure (((r.allowKey crossed).moved c).add (.scalar text .plain))

/-- Whether a plain scalar can begin with a character, given the one after it. -/
def beginsPlain (flow : Bool) (c next : Char) : Bool :=
  let isMark := ['-', '?', ':', ',', '[', ']', '\x7b', '\x7d', '#', '&', '*', '!', '|', '>', '\'',
    '"', '%', '@', '\x60'].contains c
  (!isGap c && !isMark) || (c == '-' && !isBlank next) ||
    (!flow && (c == '?' || c == ':') && !isGap next)

/-- Reads at least one more token, looking four characters ahead. -/
def scan (r : Reader) : Option Reader :=
  if !r.started then some ({ r with started := true, candidates := [none] }.add .streamStart)
  else do
    let r ← (r.skipGaps (r.cursor.rest.length + 1)).dropStale
    let r := r.endBlocks r.cursor.column
    let c := r.cursor
    let flow : Bool := 0 < r.flowLevel
    let apart := isGap (c.charAt 1)
    if r.isCut && (c.rest.drop 3).isEmpty then none
    else if isEnd c.peek then r.streamEnd
    else if c.column == 0 && c.peek == '%' then r.directive
    else if c.isMark '-' then r.documentMark .documentStart
    else if c.isMark '.' then r.documentMark .documentEnd
    else if c.peek == '[' then r.flowStart .flowSequenceStart
    else if c.peek == '\x7b' then r.flowStart .flowMappingStart
    else if c.peek == ']' then r.flowEnd .flowSequenceEnd
    else if c.peek == '\x7d' then r.flowEnd .flowMappingEnd
    else if c.peek == ',' then r.flowEntry
    else if c.peek == '-' && apart then r.blockEntry
    else if c.peek == '?' && (flow || apart) then r.key
    else if c.peek == ':' && (flow || apart) then r.value
    else if c.peek == '*' then r.anchor .alias
    else if c.peek == '&' then r.anchor .anchor
    else if c.peek == '!' then r.tag
    else if c.peek == '|' && !flow then r.blockScalar true
    else if c.peek == '>' && !flow then r.blockScalar false
    else if c.peek == '\'' then r.quotedScalar true
    else if c.peek == '"' then r.quotedScalar false
    else if beginsPlain flow c.peek (c.charAt 1) then r.plainScalar
    else none

/-- Reads at least one more token.  In a text that is cut, the last character belongs to none, since
what follows it cannot be read. -/
def fetch (r : Reader) : Option Reader := do
  let r ← r.scan
  if r.isCut && r.cursor.rest.isEmpty then none else pure r

/-- Whether the first token may still turn out to be a key. -/
def firstIsOpen (r : Reader) : Bool :=
  r.candidates.any fun candidate => (candidate.map KeyCandidate.number) == some r.given

/-- Reads until the first token is certain. -/
def fetchMore : Nat → Reader → Option Reader
  | 0, _ => none
  | fuel + 1, r =>
    if r.tokens.isEmpty then do fetchMore fuel (← r.fetch)
    else do
      let r ← r.dropStale
      if r.firstIsOpen then fetchMore fuel (← r.fetch) else pure r

/-- The next token, and the reader that has it ready. -/
def peek (r : Reader) : Option (Token × Reader) := do
  let r ← fetchMore (r.cursor.rest.length + 3) r
  match r.tokens with
  | token :: _ => some (token, r)
  | [] => none

/-- Gives the next token out, which has to be ready. -/
def drop (r : Reader) : Reader :=
  { r with tokens := r.tokens.drop 1, given := r.given + 1 }

end Reader
end Yaml
end Workbench
