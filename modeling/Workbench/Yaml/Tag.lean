import Workbench.Text.Hex
import Workbench.Yaml.Cursor

namespace Workbench
namespace Yaml

/-!
# Tags, anchors and directives

The small notations around nodes and documents.  Every function gives what it read and the place
after it, or nothing where the text is malformed.  What a tag stands for is a row of octets, which
need not be the text of any characters and ends before the first zero.
-/

/-- The name of an anchor or alias after its mark. -/
def anchorName (c : Cursor) : Option (List Char × Cursor) :=
  let (name, c) := c.takeWhile isNameChar
  let ends := isGap c.peek || ['?', ':', ',', ']', '\x7d', '%', '@', '\x60'].contains c.peek
  if name.isEmpty || !ends then none else some (name, c)

/-- Whether a character can occur in a tag. -/
def isTagChar (verbatim : Bool) (c : Char) : Bool :=
  isNameChar c ||
    [';', '/', '?', ':', '@', '&', '=', '+', '$', '.', '!', '~', '*', '\'', '(', ')',
      '%'].contains c ||
    (verbatim && [',', '[', ']'].contains c)

/-- The octets written as percent signs and digits from here on, at most so many. -/
def percentOctets : Nat → List Char → Option (List UInt8 × List Char)
  | 0, text => some ([], text)
  | n + 1, '%' :: a :: b :: rest => do
    let high ← Text.Hex.value? a
    let low ← Text.Hex.value? b
    let (others, rest) ← percentOctets n rest
    pure (UInt8.ofNat (high * 16 + low) :: others, rest)
  | _, _ => none

/-- How many octets belong together from this one on; none for one that is not the first. -/
def runLength (first : UInt8) : Option Nat :=
  if first < 0x80 then some 1
  else if first < 0xC0 then none
  else if first < 0xE0 then some 2
  else if first < 0xF0 then some 3
  else if first < 0xF8 then some 4
  else none

/-- The octets of a text in which they may be written as percent signs and digits.  Those that
belong together are written together. -/
def unescaped : Nat → List Char → Option (List UInt8)
  | 0, _ => none
  | _, [] => some []
  | fuel + 1, '%' :: rest => do
    let (first, _) ← percentOctets 1 ('%' :: rest)
    let length ← first.head?.bind runLength
    let (run, rest) ← percentOctets length ('%' :: rest)
    if (run.drop 1).all fun octet => 0x80 ≤ octet && octet < 0xC0 then
      (unescaped fuel rest).map (run ++ ·)
    else none
  | fuel + 1, c :: rest => (unescaped fuel rest).map (UInt8.ofNat c.toNat :: ·)

/-- The rest of a tag after what was read of it already, which must not be empty in all. -/
def tagRest (verbatim : Bool) (before : List Char) (c : Cursor) :
    Option (List UInt8 × Cursor) := do
  let (text, c) := c.takeWhile (isTagChar verbatim)
  if before.isEmpty && text.isEmpty then none
  else
    let octets ← unescaped (before.length + text.length + 1) (before.drop 1 ++ text)
    pure (octets.takeWhile (· != 0), c)

/-- A handle: an exclamation mark, and a name that another one may follow. -/
def tagHandle (directive : Bool) (c : Cursor) : Option (List Char × Cursor) :=
  if c.peek != '!' then none
  else
    let (name, after) := (c.skip 1).takeWhile isNameChar
    let handle := '!' :: name
    if after.peek == '!' then some (handle ++ ['!'], after.skip 1)
    else if directive && handle != ['!'] then none
    else some (handle, after)

/-- The octet that tags of a document's own begin with: an exclamation mark. -/
def tagMark : UInt8 := 0x21

/-- A tag at its mark: its handle and the rest of it. -/
def tag (flow : Bool) (c : Cursor) : Option (List Char × List UInt8 × Cursor) := do
  let (handle, suffix, c) ←
    if c.charAt 1 == '<' then do
      let (suffix, c) ← tagRest true [] (c.skip 2)
      if c.peek == '>' then some ([], suffix, c.skip 1) else none
    else do
      let (handle, after) ← tagHandle false c
      if 1 < handle.length && handle.getLast? == some '!' then do
        let (suffix, c) ← tagRest false [] after
        some (handle, suffix, c)
      else do
        let (suffix, c) ← tagRest false handle after
        if suffix.isEmpty then some ([], [tagMark], c) else some (['!'], suffix, c)
  if isGap c.peek || (flow && c.peek == ',') then some (handle, suffix, c) else none

inductive Directive where
  | version (major minor : Nat)
  | tag (handle : List Char) (meaning : List UInt8)
  deriving DecidableEq, Repr

/-- A number of at most nine digits. -/
def versionNumber (c : Cursor) : Option (Nat × Cursor) :=
  let (digits, c) := c.takeWhile Char.isDigit
  if digits.isEmpty || 9 < digits.length then none
  else (Text.Hex.numeral? 10 digits).map (·, c)

/-- A directive after its mark, and the place on the next line. -/
def directive (c : Cursor) : Option (Directive × Cursor) := do
  let (name, c) := c.takeWhile isNameChar
  if name.isEmpty || !isGap c.peek then none
  else
    let (read, c) ←
      if name == "YAML".toList then do
        let (major, c) ← versionNumber (c.skipWhile isBlank)
        if c.peek != '.' then none
        else
          let (minor, c) ← versionNumber (c.skip 1)
          some (Directive.version major minor, c)
      else if name == "TAG".toList then do
        let (handle, c) ← tagHandle true (c.skipWhile isBlank)
        if !isBlank c.peek then none
        else
          let (meaning, c) ← tagRest true [] (c.skipWhile isBlank)
          if isGap c.peek then some (Directive.tag handle meaning, c) else none
      else none
    let c := (c.skipWhile isBlank).skipComment
    if !isBreakEnd c.peek then none
    else some (read, if isBreak c.peek then c.skipBreak else c)

end Yaml
end Workbench
