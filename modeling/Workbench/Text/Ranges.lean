import Workbench.Text.Hex

namespace Workbench
namespace Text

/-!
# Sets of code points

A property of code points is kept as the inclusive ranges in which it holds, written in lines: a
range is two hexadecimal numbers with a hyphen between them, or one number for both ends, and a
blank separates one range from the next.
-/

/-- Inclusive ranges of code points. -/
abbrev Ranges := List (Nat × Nat)

namespace Ranges

/-- The range that a text stands for. -/
def range? (text : List Char) : Option (Nat × Nat) :=
  match text.splitOn '-' with
  | [both] => (Hex.numeral? 16 both).map fun n => (n, n)
  | [first, last] => do pure (← Hex.numeral? 16 first, ← Hex.numeral? 16 last)
  | _ => none

def ofLines (lines : List String) : Ranges :=
  lines.flatMap fun line => (line.toList.splitOn ' ').filterMap range?

/-- Whether a code point lies in one of the ranges. -/
def holds (ranges : Ranges) (n : Nat) : Bool :=
  ranges.any fun (first, last) => first ≤ n && n ≤ last

end Ranges
end Text
end Workbench
