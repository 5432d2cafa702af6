import Workbench.Text.Hex

namespace Workbench
namespace Log
namespace Pattern

/-!
# Patterns

A pattern describes the values of a field as a regular expression does.  Values are never matched
here, so all that matters is whether a text is a pattern: groups and classes are closed, a sign of
repetition has something before it, and what follows a backslash is known.
-/

/-- The characters that stand for a class, a place or a control character after a backslash. -/
def escapes : List Char := "dDsSwWAzaftnrv".toList

/-- The text after an escape, from the character behind the backslash on. -/
def afterEscape? (text : List Char) : Option (List Char) :=
  let coded (size : Nat) (digits : List Char) : Option (List Char) :=
    let code := digits.take size
    if code.length = size && (Text.Hex.numeral? 16 code).isSome then some (digits.drop size)
    else none
  match text with
  | 'x' :: rest => coded 2 rest
  | 'u' :: rest => coded 4 rest
  | 'U' :: rest => coded 8 rest
  | 'p' :: kind :: rest | 'P' :: kind :: rest =>
    if "CLMNPSZ".toList.contains kind.toUpper then some rest else none
  | c :: rest =>
    let isSign := c.toNat < 128 && !c.isAlphanum && c != '<' && c != '>'
    if escapes.contains c || isSign then some rest else none
  | [] => none

/-- The text of a class after its bracket: a mark of negation does not count, and a closing bracket
at the beginning stands for itself. -/
def classItems (text : List Char) : List Char :=
  let items := if text.head? = some '^' then text.tail else text
  if items.head? = some ']' then items.tail else items

/-- The characters that mean something in a class. -/
def classSigns : List Char := ['[', ']', '\\', '-']

/-- The text after a class, inside so many classes around it. -/
def afterClass? : Nat → Nat → List Char → Option (List Char)
  | 0, _, _ | _, _, [] => none
  | fuel + 1, depth, c :: rest =>
    if c = ']' then if depth = 0 then some rest else afterClass? fuel (depth - 1) rest
    else if c = '[' then afterClass? fuel (depth + 1) (classItems rest)
    else if c = '\\' then (afterEscape? rest).bind (afterClass? fuel depth)
    else
      match rest with
      | '-' :: last :: _ =>
        if last < c && !classSigns.contains last then none
        else afterClass? fuel depth rest
      | _ => afterClass? fuel depth rest

/-- Whether a text is a list of flags, of which some may be taken away. -/
def isFlags (flags : List Char) : Bool :=
  flags.all ("imsUuxR-".toList.contains ·) && flags.eraseDups == flags && flags.getLast? != some '-'

/-- The text after the beginning of a group, from behind its parenthesis on, and whether the group
is open; flags alone are closed at once. -/
def afterOpening? : List Char → Option (List Char × Bool)
  | '?' :: text =>
    let marks := text.takeWhile fun c => c != ':' && c != ')' && c != '>'
    let named := if marks.head? = some 'P' then marks.tail else marks
    match text.drop marks.length with
    | ':' :: rest => if isFlags marks then some (rest, true) else none
    | ')' :: rest => if isFlags marks && !marks.isEmpty then some (rest, false) else none
    | '>' :: rest =>
      let name := named.tail
      let isName := !name.isEmpty && name.all (fun c => c.isAlphanum || c == '_') &&
        !name.head?.any Char.isDigit
      if named.head? = some '<' && isName then some (rest, true) else none
    | _ => none
  | text => some (text, true)

/-- Whether the rest of a pattern is well formed inside so many groups, and after something that
can be repeated or not. -/
def ends : Nat → Nat → Bool → List Char → Bool
  | _, depth, _, [] => depth = 0
  | 0, _, _, _ => false
  | fuel + 1, depth, repeatable, c :: rest =>
    match c with
    | '*' | '+' | '?' => repeatable && ends fuel depth true rest
    | '|' => ends fuel depth false rest
    | '(' =>
      match afterOpening? rest with
      | some (rest, true) => ends fuel (depth + 1) false rest
      | some (rest, false) => ends fuel depth false rest
      | none => false
    | ')' => 0 < depth && ends fuel (depth - 1) true rest
    | '[' => (afterClass? (rest.length + 1) 0 (classItems rest)).any (ends fuel depth true)
    | '\x7b' => false
    | '\\' => (afterEscape? rest).any (ends fuel depth true)
    | _ => ends fuel depth true rest

/-- Whether a text without closing braces is a pattern. -/
def isWellFormed (text : List Char) : Bool :=
  ends text.length 0 false text

end Pattern
end Log
end Workbench
