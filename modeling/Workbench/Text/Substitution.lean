import Workbench.Text.Ranges

namespace Workbench
namespace Text

/-!
# Maps from code points to texts

A rule replaces a range of code points.  Where the replacement is a single code point, the range is
shifted as a whole: its first member becomes that code point, the next one the code point after it,
and so on.  A rule is written as a range, a colon, and the code points of the replacement with
points between them.
-/

/-- What a range of code points is replaced by. -/
structure Substitution where
  first : Nat
  last : Nat
  image : List Nat
  deriving DecidableEq, Repr

namespace Substitution

/-- The rule that a text stands for. -/
def ofText? (text : List Char) : Option Substitution :=
  match text.splitOn ':' with
  | [range, image] => do
    let (first, last) ← Ranges.range? range
    pure ⟨first, last, ← (image.splitOn '.').mapM (Hex.numeral? 16)⟩
  | _ => none

def ofLines (lines : List String) : List Substitution :=
  lines.flatMap fun line => (line.toList.splitOn ' ').filterMap ofText?

/-- What a code point of the range is replaced by. -/
def apply (rule : Substitution) (n : Nat) : List Nat :=
  match rule.image with
  | [start] => [start + (n - rule.first)]
  | image => image

/-- What the first rule for a code point replaces it by. -/
def find? (rules : List Substitution) (n : Nat) : Option (List Nat) :=
  (rules.find? fun rule => rule.first ≤ n && n ≤ rule.last).map (·.apply n)

end Substitution
end Text
end Workbench
