import Workbench.Json.Decode
import Workbench.Text.Hex

namespace Workbench
namespace Terminal

/-!
# Terminal identifiers

A terminal is identified by 128 bits.  They are written as 32 hexadecimal digits in five groups
between hyphens, and read in that form, without hyphens, between braces or as a name in the
`urn:uuid:` space, in either case.
-/

structure Id where
  /-- The thirty-two digits, each below sixteen. -/
  digits : List Nat
  deriving DecidableEq, Repr

namespace Id

def groups : List Nat := [8, 4, 4, 4, 12]

/-- Digits in groups of given sizes. -/
def inGroups : List Nat → List Nat → List (List Nat)
  | [], _ => []
  | size :: sizes, digits => digits.take size :: inGroups sizes (digits.drop size)

def text (id : Id) : String :=
  "-".intercalate <| (inGroups groups id.digits).map fun group =>
    String.ofList (group.map Text.Hex.lowerDigit)

/-- The length of the text of every identifier. -/
def textLength : Nat := 36

/-- An identifier from thirty-two digits. -/
def ofDigits? (chars : List Char) : Option Id :=
  if chars.length = 32 then (chars.mapM Text.Hex.value?).map Id.mk else none

/-- An identifier from groups of the right sizes. -/
def ofGroups? (chars : List Char) : Option Id :=
  let parts := chars.splitOn '-'
  if parts.map List.length = groups then ofDigits? parts.flatten else none

/-- The name space of identifiers, in either case. -/
def space : List Char := "urn:uuid:".toList

/-- What stands between a pair of braces. -/
def withoutBraces? : List Char → Option (List Char)
  | '\x7b' :: rest => if rest.getLast? = some '\x7d' then some rest.dropLast else none
  | _ => none

def withoutSpace? (chars : List Char) : Option (List Char) :=
  if space.isPrefixOf (chars.map Char.toLower) then some (chars.drop space.length) else none

/-- The identifier that a text stands for: digits without hyphens stand alone, and the two marks do
not go together. -/
def ofText? (s : String) : Option Id :=
  let chars := s.toList
  match withoutBraces? chars, withoutSpace? chars with
  | some inner, _ => ofGroups? inner
  | none, some inner => ofGroups? inner
  | none, none => if chars.length = 32 then ofDigits? chars else ofGroups? chars

def size (chars : List Char) : Nat :=
  (String.ofList chars).utf8ByteSize

/-- The first group whose size is not right, with its size. -/
def wrongGroup? : Nat → List Nat → List (List Char) → Option (Nat × Nat × Nat)
  | group, expected :: sizes, part :: parts =>
    if part.length = expected then wrongGroup? (group + 1) sizes parts
    else some (group, expected, part.length)
  | _, _, _ => none

/-- Why a text is no identifier.  Braces are taken off before the name space; the place of a
character is counted in what is left, but the size of the last group in the whole text. -/
def fault (s : String) : String :=
  let chars := s.toList
  let unbraced := (withoutBraces? chars).getD chars
  let inner := (withoutSpace? unbraced).getD unbraced
  let isFine (c : Char) : Bool := c == '-' || (Text.Hex.value? c).isSome
  let wrongLength := "invalid length: found " ++ Nat.repr (size chars)
  match inner.dropWhile isFine with
  | c :: _ =>
    "invalid character: found `" ++ String.singleton c ++ "` at " ++
      Nat.repr (size (inner.takeWhile isFine))
  | [] =>
    let parts := inner.splitOn '-'
    if parts.length = 1 && inner == chars then wrongLength
    else if parts.length ≠ 5 then
      "invalid group count: expected 5, found " ++ Nat.repr parts.length
    else
      match wrongGroup? 0 groups parts with
      | none => wrongLength
      | some (group, expected, found) =>
        let counted := if group = 4 then size chars - 24 else found
        "invalid group length in group " ++ Nat.repr group ++ ": expected " ++ Nat.repr expected ++
          ", found " ++ Nat.repr counted

/-- The identifier that data stands for. -/
def ofJson : Json → Except Decode.Mismatch Id
  | .string s =>
    match ofText? s with
    | some id => .ok id
    | none => .error (.malformed ("UUID parsing failed: " ++ fault s))
  | other => .error (.invalidType other.found "a formatted UUID string")

end Id
end Terminal
end Workbench
