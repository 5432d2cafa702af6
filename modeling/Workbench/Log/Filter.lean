import Workbench.Log.Line
import Workbench.Log.Pattern
import Workbench.Text.Alphanumeric
import Workbench.Text.Blank
import Workbench.Text.Hex
import Workbench.Text.Letters

namespace Workbench
namespace Log

/-!
# Which lines are shown

A filter is a list of directives between commas.  A directive is a level; or it names a part of the
program, a span of its work between brackets, or a field between braces in the brackets, and has a
level after an equals sign, or shows everything without one.

The program itself is none of the parts that can be named and has no spans, and its lines have one
field, the message.  A directive for lines with a message comes before one for all lines; of two
directives of the same kind the last one counts.
-/

inductive Scope where
  | everywhere
  | message
  | elsewhere
  deriving DecidableEq, Repr

structure Directive where
  scope : Scope
  /-- Lines of at least this level are shown; none at all without one. -/
  least : Option Level
  deriving DecidableEq, Repr

namespace Directive

/-- The decimal number that a text stands for; a plus sign may precede it. -/
def number? (word : List Char) : Option Nat :=
  let digits := if word.head? = some '+' then word.tail else word
  if digits.isEmpty then none else Text.Hex.numeral? 10 digits

/-- The level that a word in any case or a number stands for. -/
def level? (word : List Char) : Option (Option Level) :=
  match number? word with
  | some n =>
    [none, some .error, some .warn, some .info, some .debug, some .trace][n]?
  | none =>
    [("off", none), ("error", some .error), ("warn", some .warn), ("info", some .info),
      ("debug", some .debug), ("trace", some .trace)].lookup
        (Text.lowered (String.ofList word))

/-- The level at the end of a directive: everything is shown if there is none after the equals
sign, or no equals sign. -/
def ending? (isTight : Bool) : List Char → Option (Option Level)
  | [] => some (some .trace)
  | '=' :: word =>
    if !isTight then none
    else if word.isEmpty then some (some .trace)
    else level? word
  | _ => none

/-- Whether a field is well formed: it has a name at least, and what follows an equals sign is a
number or a pattern. -/
def isField (field : List Char) : Bool :=
  match field.splitOn '=' with
  | _ :: value :: _ => (number? value).isSome || Pattern.isWellFormed value
  | _ => !field.isEmpty

/-- What a directive between brackets is for, from the text after the first bracket, and the text
after the last one. -/
def bracketed? (text : List Char) : Option (Scope × List Char) :=
  let ends (c : Char) : Bool := c == ']' || c == '\x7b'
  let span := text.takeWhile (!ends ·)
  match text.dropWhile (!ends ·) with
  | ']' :: rest => some (.elsewhere, rest)
  | _ :: inner =>
    let field := inner.takeWhile (· != '\x7d')
    match inner.dropWhile (· != '\x7d') with
    | _ :: ']' :: rest =>
      if !isField field then none
      else if span.isEmpty && field == "message".toList then some (.message, rest)
      else some (.elsewhere, rest)
    | _ => none
  | [] => none

/-- Whether the name of a part can begin with a character. -/
def startsName (c : Char) : Bool :=
  Text.isAlphanumeric c || ['-', ':', '_'].contains c

/-- The directive that a text stands for.  Blank space at its ends does not change its form but
belongs to the words there: then a level stands for the name of a part, a level after an equals
sign is none, and after blank space no field is the message. -/
def parse? (text : List Char) : Option Directive :=
  let inner := Text.trim text
  let isTight := inner == text
  let endsName (c : Char) : Bool := c == '=' || c == '['
  match inner with
  | [] => none
  | '[' :: rest => do
    let (scope, rest) ← bracketed? rest
    let isExact := inner.isPrefixOf text
    pure ⟨if isExact then scope else .elsewhere, ← ending? isTight rest⟩
  | c :: _ =>
    if !startsName c then none
    else
      match inner.dropWhile (!endsName ·) with
      | '[' :: rest => do
        let (_, rest) ← bracketed? rest
        pure ⟨.elsewhere, ← ending? isTight rest⟩
      | [] =>
        match level? text with
        | some least => some ⟨.everywhere, least⟩
        | none => some ⟨.elsewhere, some .trace⟩
      | rest => (ending? isTight rest).map (⟨.elsewhere, ·⟩)

end Directive

abbrev Filter := List Directive

namespace Filter

/-- The texts of the directives of a filter. -/
def parts (text : String) : List (List Char) :=
  (text.toList.splitOn ',').filter (!·.isEmpty)

/-- The filter that a text stands for, if every directive is understood. -/
def strict? (text : String) : Option Filter :=
  (parts text).mapM Directive.parse?

def errors : Filter := [⟨.everywhere, some .error⟩]

/-- The filter made of the directives that are understood; errors are shown if there are none. -/
def lenient (text : String) : Filter :=
  match (parts text).filterMap Directive.parse? with
  | [] => errors
  | filter => filter

/-- The directive that counts for the lines of the program. -/
def deciding? (filter : Filter) : Option Directive :=
  let last (scope : Scope) := (filter.filter (·.scope == scope)).getLast?
  (last .message).or (last .everywhere)

/-- Whether a line of a level is shown. -/
def shows (filter : Filter) (level : Level) : Bool :=
  (filter.deciding?.bind (·.least)).any fun least => least.rank ≤ level.rank

/-- The filter in effect: a filter in the environment that is understood comes before the level in
the settings. -/
def choose (environment : Option String) (level : String) : Filter :=
  match environment.bind strict? with
  | some filter => filter
  | none => lenient (Text.lowered level)

end Filter
end Log
end Workbench
