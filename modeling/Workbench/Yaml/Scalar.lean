import Workbench.Text.Hex
import Workbench.Yaml.Cursor

namespace Workbench
namespace Yaml

/-!
# Scalars

How the text of a scalar is found: plain, between quotes, or as a block.  Line ends inside a scalar
are folded, so that a single one reads as a space and several as one less.  Every function gives
the text and the place after it, or nothing where the text is malformed.
-/

/-- What lies between two words of a scalar. -/
structure Between where
  blanks : List Char := []
  firstBreak : List Char := []
  otherBreaks : List Char := []
  crossed : Bool := false

namespace Between

def folded (gap : Between) : List Char :=
  if gap.crossed then
    if gap.firstBreak.head? == some '\n' then
      if gap.otherBreaks.isEmpty then [' '] else gap.otherBreaks
    else gap.firstBreak ++ gap.otherBreaks
  else gap.blanks

/-- The gap from a place on, and the place after it.  A tab before a column counts as
malformed where the text is indented up to there. -/
def read (indent : Int) : Nat → Between → Cursor → Option (Between × Cursor)
  | 0, _, _ => none
  | fuel + 1, gap, c =>
    if isBlank c.peek then
      if gap.crossed && (c.column : Int) < indent && c.peek == '\t' then none
      else if gap.crossed then read indent fuel gap (c.skip 1)
      else read indent fuel { gap with blanks := gap.blanks ++ [c.peek] } (c.skip 1)
    else if isBreak c.peek then
      let (text, next) := c.readBreak
      if gap.crossed then
        read indent fuel { gap with otherBreaks := gap.otherBreaks ++ text } next
      else read indent fuel { gap with blanks := [], firstBreak := text, crossed := true } next
    else some (gap, c)

end Between

/-! ## Plain scalars -/

/-- Whether a character is a mark of the flow style. -/
def isFlowMark (c : Char) : Bool :=
  c == ',' || c == '[' || c == ']' || c == '\x7b' || c == '\x7d'

/-- The characters of a plain scalar from here on up to a blank or the scalar's end. -/
def plainWord (flow : Bool) : List Char → Option (List Char)
  | [] => some []
  | c :: rest =>
    let next := (rest.head?).getD '\x00'
    if isGap c then some []
    else if flow && c == ':' && (isFlowMark next || next == '?') then none
    else if c == ':' && isGap next then some []
    else if flow && isFlowMark c then some []
    else (plainWord flow rest).map (c :: ·)

/-- A plain scalar from here on: its text, whether it ended on a new line, and the place after
it. -/
def plainScalar (flow : Bool) (indent : Int) :
    Nat → List Char → Between → Cursor → Option (List Char × Bool × Cursor)
  | 0, _, _, _ => none
  | fuel + 1, text, gap, c =>
    if c.isDocumentMark || c.peek == '#' then some (text, gap.crossed, c)
    else
      match plainWord flow c.rest with
      | none => none
      | some word =>
        let c := c.skip word.length
        let (text, gap) : List Char × Between :=
          if word.isEmpty then (text, gap) else (text ++ gap.folded ++ word, {})
        if isBlank c.peek || isBreak c.peek then
          match Between.read indent (c.rest.length + 1) gap c with
          | none => none
          | some (gap, c) =>
            if !flow && (c.column : Int) < indent then some (text, gap.crossed, c)
            else plainScalar flow indent fuel text gap c
        else some (text, gap.crossed, c)

/-! ## Quoted scalars -/

/-- The characters that an escape stands for, and how many characters follow the backslash. -/
def escape? (c : Cursor) : Option (List Char × Nat) :=
  let coded (size : Nat) : Option (List Char × Nat) := do
    let digits := (c.rest.drop 2).take size
    if digits.length < size then none
    else
      let n ← Text.Hex.numeral? 16 digits
      if (0xD800 ≤ n && n ≤ 0xDFFF) || 0x10FFFF < n then none
      else pure ([Char.ofNat n], size + 1)
  match c.charAt 1 with
  | '0' => some (['\x00'], 1)
  | 'a' => some (['\x07'], 1)
  | 'b' => some (['\x08'], 1)
  | 't' | '\t' => some (['\t'], 1)
  | 'n' => some (['\n'], 1)
  | 'v' => some (['\x0b'], 1)
  | 'f' => some (['\x0c'], 1)
  | 'r' => some (['\r'], 1)
  | 'e' => some (['\x1b'], 1)
  | ' ' => some ([' '], 1)
  | '"' => some (['"'], 1)
  | '/' => some (['/'], 1)
  | '\\' => some (['\\'], 1)
  | 'N' => some (['\u0085'], 1)
  | '_' => some (['\u00a0'], 1)
  | 'L' => some (['\u2028'], 1)
  | 'P' => some (['\u2029'], 1)
  | 'x' => coded 2
  | 'u' => coded 4
  | 'U' => coded 8
  | _ => none

/-- The characters of a quoted scalar from here on up to a blank or the closing quote; whether an
escaped line end was last; and the place after them. -/
def quotedWord (single : Bool) : Nat → List Char → Cursor → Option (List Char × Bool × Cursor)
  | 0, _, _ => none
  | fuel + 1, word, c =>
    let quote := if single then '\'' else '"'
    if isGap c.peek then some (word, false, c)
    else if single && c.peek == '\'' && c.charAt 1 == '\'' then
      quotedWord single fuel (word ++ ['\'']) (c.skip 2)
    else if c.peek == quote then some (word, false, c)
    else if !single && c.peek == '\\' then
      if isBreak (c.charAt 1) then some (word, true, (c.skip 1).skipBreak)
      else
        match escape? c with
        | some (chars, size) => quotedWord single fuel (word ++ chars) (c.skip (size + 1))
        | none => none
    else quotedWord single fuel (word ++ [c.peek]) (c.skip 1)

/-- A quoted scalar after its opening quote. -/
def quotedScalar (single : Bool) : Nat → List Char → Cursor → Option (List Char × Cursor)
  | 0, _, _ => none
  | fuel + 1, text, c =>
    if c.isDocumentMark || isEnd c.peek then none
    else
      match quotedWord single (c.rest.length + 1) [] c with
      | none => none
      | some (word, crossed, c) =>
        if c.peek == (if single then '\'' else '"') then some (text ++ word, c.skip 1)
        else
          match Between.read 0 (c.rest.length + 1) { crossed } c with
          | none => none
          | some (gap, c) => quotedScalar single fuel (text ++ word ++ gap.folded) c

/-! ## Block scalars -/

/-- What is done with the line ends after a block scalar. -/
inductive Chomping where
  | strip
  | clip
  | keep
  deriving DecidableEq, Repr

/-- The indicators after the mark of a block scalar: what to do with the line ends, the additional
indentation if it is given, and the place after them. -/
def blockIndicators (c : Cursor) : Option (Chomping × Option Nat × Cursor) :=
  let chomping? (c : Cursor) : Option Chomping :=
    if c.peek == '+' then some .keep else if c.peek == '-' then some .strip else none
  let digit? (c : Cursor) : Bool := c.peek.isDigit
  match chomping? c with
  | some chomping =>
    let c := c.skip 1
    if digit? c then
      if c.peek == '0' then none
      else some (chomping, some (c.peek.toNat - '0'.toNat), c.skip 1)
    else some (chomping, none, c)
  | none =>
    if digit? c then
      if c.peek == '0' then none
      else
        let increment := some (c.peek.toNat - '0'.toNat)
        let c := c.skip 1
        match chomping? c with
        | some chomping => some (chomping, increment, c.skip 1)
        | none => some (.clip, increment, c)
    else some (.clip, none, c)

/-- The empty lines from here on: their line ends, the greatest indentation among them, and the
place after them.  No indentation means that it is not known yet. -/
def blockBreaks (indent : Nat) :
    Nat → List Char → Nat → Cursor → Option (List Char × Nat × Cursor)
  | 0, _, _, _ => none
  | fuel + 1, breaks, greatest, c =>
    let spaces := (c.rest.takeWhile (· == ' ')).length
    let c := c.skip (if indent = 0 then spaces else min spaces (indent - c.column))
    let greatest := max greatest c.column
    if (indent == 0 || c.column < indent) && c.peek == '\t' then none
    else if isBreak c.peek then
      let (text, next) := c.readBreak
      blockBreaks indent fuel (breaks ++ text) greatest next
    else some (breaks, greatest, c)

/-- Where the reader of a block scalar stands. -/
structure Block where
  text : List Char := []
  lastBreak : List Char := []
  emptyLines : List Char := []
  indented : Bool := false

/-- The lines of a block scalar from here on. -/
def blockLines (literal : Bool) (indent : Nat) :
    Nat → Block → Cursor → Option (Block × Cursor)
  | 0, _, _ => none
  | fuel + 1, block, c =>
    if c.column == indent && !isEnd c.peek then
      let indented := isBlank c.peek
      let joined :=
        if !literal && block.lastBreak.head? == some '\n' && !block.indented && !indented then
          if block.emptyLines.isEmpty then [' '] else []
        else block.lastBreak
      let (line, c) := c.takeWhile fun d => !isBreakEnd d
      let (lastBreak, c) := c.readBreak
      match blockBreaks indent (c.rest.length + 1) [] 0 c with
      | none => none
      | some (emptyLines, _, c) =>
        blockLines literal indent fuel
          { text := block.text ++ joined ++ block.emptyLines ++ line
            lastBreak, emptyLines, indented } c
    else some (block, c)

def blockScalar (literal : Bool) (outer : Int) (c : Cursor) : Option (List Char × Cursor) := do
  let (chomping, increment, c) ← blockIndicators c
  let c := (c.skipWhile isBlank).skipComment
  if !isBreakEnd c.peek then none
  else
    let c := if isBreak c.peek then c.skipBreak else c
    let given : Nat :=
      match increment with
      | some n => if 0 ≤ outer then outer.toNat + n else n
      | none => 0
    let (emptyLines, greatest, c) ← blockBreaks given (c.rest.length + 1) [] 0 c
    let indent := if given = 0 then max (max greatest (outer + 1).toNat) 1 else given
    let (block, c) ← blockLines literal indent (c.rest.length + 1) { emptyLines } c
    let tail :=
      match chomping with
      | .strip => []
      | .clip => block.lastBreak
      | .keep => block.lastBreak ++ block.emptyLines
    pure (block.text ++ tail, c)

end Yaml
end Workbench
