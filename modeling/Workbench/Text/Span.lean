import Workbench.Text.Description

namespace Workbench
namespace Text

/-!
# Spans of time

A span counted in milliseconds is described in the largest unit of which it holds at least one:
seconds with as many of the three decimal places as are needed, else whole milliseconds.  The
empty span is described in nanoseconds, the smallest unit there is.
-/

/-- The decimal places of a fraction in thousandths, without trailing zeros. -/
def thousandths (n : Nat) : String :=
  if n % 1000 = 0 then ""
  else if n % 100 = 0 then "." ++ Nat.repr (n / 100 % 10)
  else if n % 10 = 0 then "." ++ Nat.repr (n / 100 % 10) ++ Nat.repr (n / 10 % 10)
  else "." ++ Nat.repr (n / 100 % 10) ++ Nat.repr (n / 10 % 10) ++ Nat.repr (n % 10)

/-- The description of a span of so many milliseconds. -/
def describeSpan (milliseconds : Nat) : String :=
  if milliseconds = 0 then "0ns"
  else if milliseconds < 1000 then Nat.repr milliseconds ++ "ms"
  else Nat.repr (milliseconds / 1000) ++ thousandths (milliseconds % 1000) ++ "s"

end Text
end Workbench
