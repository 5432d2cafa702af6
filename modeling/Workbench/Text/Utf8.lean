namespace Workbench
namespace Text
namespace Utf8

/-!
# UTF-8

Octet sequences are cut into pieces: a character, or a malformed run.  A malformed run is as long
as it can be while it is still the beginning of some character, and at least one octet; that is
what decides how many replacement characters a lenient reader shows.
-/

inductive Piece where
  | character (c : Char)
  /-- Octets that no character starts with, or that a character breaks off in. -/
  | malformed
  deriving DecidableEq, Repr

/-- Whether an octet can only continue a character. -/
def isTail (b : UInt8) : Bool :=
  0x80 ≤ b && b ≤ 0xBF

/-- How many octets a character has that starts with this one; none for an octet that starts no
character. -/
def width (b : UInt8) : Option Nat :=
  if b < 0x80 then some 1
  else if 0xC2 ≤ b && b ≤ 0xDF then some 2
  else if 0xE0 ≤ b && b ≤ 0xEF then some 3
  else if 0xF0 ≤ b && b ≤ 0xF4 then some 4
  else none

/-- Whether the second octet fits the first: it rules out overlong forms, surrogates and code
points above U+10FFFF. -/
def fitsSecond (first second : UInt8) : Bool :=
  if first == 0xE0 then 0xA0 ≤ second && second ≤ 0xBF
  else if first == 0xED then 0x80 ≤ second && second ≤ 0x9F
  else if first == 0xF0 then 0x90 ≤ second && second ≤ 0xBF
  else if first == 0xF4 then 0x80 ≤ second && second ≤ 0x8F
  else isTail second

/-- The code point of a character from its first octet's payload and the octets after it. -/
def codePoint (payload : Nat) (tails : List UInt8) : Nat :=
  tails.foldl (fun n b => n * 64 + (b.toNat - 0x80)) payload

/-- The first piece of `first :: rest`, and how many octets of `rest` belong to it. -/
def head (first : UInt8) (rest : List UInt8) : Piece × Nat :=
  match width first, rest with
  | some 1, _ => (.character (Char.ofNat first.toNat), 0)
  | some 2, b :: _ =>
    if fitsSecond first b then
      (.character (Char.ofNat (codePoint (first.toNat - 0xC0) [b])), 1)
    else (.malformed, 0)
  | some 3, b :: c :: _ =>
    if !fitsSecond first b then (.malformed, 0)
    else if !isTail c then (.malformed, 1)
    else (.character (Char.ofNat (codePoint (first.toNat - 0xE0) [b, c])), 2)
  | some 3, [b] => (.malformed, if fitsSecond first b then 1 else 0)
  | some 4, b :: c :: d :: _ =>
    if !fitsSecond first b then (.malformed, 0)
    else if !isTail c then (.malformed, 1)
    else if !isTail d then (.malformed, 2)
    else (.character (Char.ofNat (codePoint (first.toNat - 0xF0) [b, c, d])), 3)
  | some 4, [b, c] =>
    (.malformed, if !fitsSecond first b then 0 else if !isTail c then 1 else 2)
  | some 4, [b] => (.malformed, if fitsSecond first b then 1 else 0)
  | _, _ => (.malformed, 0)

/-- The pieces of an octet sequence, in order. -/
def pieces : List UInt8 → List Piece
  | [] => []
  | first :: rest =>
    let (piece, more) := head first rest
    piece :: pieces (rest.drop more)
  termination_by bytes => bytes.length
  decreasing_by grind

def encode (cs : List Char) : List UInt8 :=
  cs.flatMap String.utf8EncodeChar

def ofString (s : String) : List UInt8 :=
  encode s.toList

/-- The character of a well-formed piece. -/
def Piece.character? : Piece → Option Char
  | .character c => some c
  | .malformed => none

/-- The character that stands for a piece: a malformed run shows as U+FFFD. -/
def Piece.shown (piece : Piece) : Char :=
  piece.character?.getD '\ufffd'

/-- The text that an octet sequence encodes, if it is well formed throughout. -/
def decode? (bytes : List UInt8) : Option String :=
  ((pieces bytes).mapM Piece.character?).map String.ofList

/-- The text with every malformed run replaced by U+FFFD. -/
def lenient (bytes : List UInt8) : String :=
  String.ofList ((pieces bytes).map Piece.shown)

end Utf8
end Text
end Workbench
