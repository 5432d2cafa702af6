namespace Workbench
namespace Yaml

/-!
# A place in a YAML text

The text from a place on, with the number of octets, lines and columns before it.  The end of
the text reads as the character NUL, which cannot occur in it.
-/

/-- Whether a character ends a line. -/
def isBreak (c : Char) : Bool :=
  c == '\n' || c == '\r' || c == '\u0085' || c == '\u2028' || c == '\u2029'

/-- Whether a character is a space or a tab. -/
def isBlank (c : Char) : Bool :=
  c == ' ' || c == '\t'

/-- Whether a character is the end of the text. -/
def isEnd (c : Char) : Bool :=
  c == '\x00'

/-- Whether a character ends a line, or is the end of the text. -/
def isBreakEnd (c : Char) : Bool :=
  isBreak c || isEnd c

/-- Whether a character separates words. -/
def isGap (c : Char) : Bool :=
  isBlank c || isBreakEnd c

/-- Whether a character can occur in a name. -/
def isNameChar (c : Char) : Bool :=
  c.isAlphanum || c == '_' || c == '-'

/-- What may stand at the beginning of a text to tell its encoding. -/
def byteOrderMark : Char := '\ufeff'

/-- Whether a YAML text may contain a character. -/
def isAllowed (c : Char) : Bool :=
  let n := c.toNat
  n == 0x09 || n == 0x0A || n == 0x0D || (0x20 ≤ n && n ≤ 0x7E) || n == 0x85 ||
    (0xA0 ≤ n && n ≤ 0xFFFD) || 0x10000 ≤ n

/-- The number of octets of a text in UTF-8. -/
def octets (text : List Char) : Nat :=
  text.foldl (fun n c => n + c.utf8Size) 0

structure Cursor where
  rest : List Char
  index : Nat := 0
  line : Nat := 0
  column : Nat := 0
  deriving Repr

namespace Cursor

/-- The character at a distance from here. -/
def charAt (c : Cursor) (distance : Nat) : Char :=
  ((c.rest.drop distance).head?).getD '\x00'

def peek (c : Cursor) : Char :=
  (c.rest.head?).getD '\x00'

/-- The place after so many characters of this line. -/
def skip (c : Cursor) (count : Nat) : Cursor :=
  { c with
    rest := c.rest.drop count
    index := c.index + octets (c.rest.take count)
    column := c.column + count }

/-- The place after the end of this line.  A carriage return and a line feed are one end. -/
def skipBreak (c : Cursor) : Cursor :=
  match c.rest with
  | '\r' :: '\n' :: rest => { rest, index := c.index + 2, line := c.line + 1 }
  | b :: rest => { rest, index := c.index + b.utf8Size, line := c.line + 1 }
  | [] => c

/-- What the end of this line reads as, and the place after it.  Only the two separators of
Unicode are kept apart from a line feed. -/
def readBreak (c : Cursor) : List Char × Cursor :=
  match c.rest with
  | b :: _ => ([if b == '\u2028' || b == '\u2029' then b else '\n'], c.skipBreak)
  | [] => ([], c)

/-- The characters from here on that fulfil a condition, none of which ends a line, and the place
after them. -/
def takeWhile (c : Cursor) (p : Char → Bool) : List Char × Cursor :=
  let taken := c.rest.takeWhile p
  (taken, c.skip taken.length)

/-- The place after the characters that fulfil a condition. -/
def skipWhile (c : Cursor) (p : Char → Bool) : Cursor :=
  (c.takeWhile p).2

/-- Whether a mark of three characters stands here at the beginning of a line. -/
def isMark (c : Cursor) (mark : Char) : Bool :=
  c.column == 0 && c.charAt 0 == mark && c.charAt 1 == mark && c.charAt 2 == mark &&
    isGap (c.charAt 3)

/-- Whether a document begins or ends here with a mark. -/
def isDocumentMark (c : Cursor) : Bool :=
  c.isMark '-' || c.isMark '.'

/-- The place after a comment, if one begins here. -/
def skipComment (c : Cursor) : Cursor :=
  if c.peek == '#' then c.skipWhile fun d => !isBreakEnd d else c

end Cursor
end Yaml
end Workbench
