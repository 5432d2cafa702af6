import Workbench.Text.Utf8

namespace Workbench

/-!
# The process environment

The few variables that are consulted.  A value is an octet sequence: one that is not UTF-8 is
there, but cannot be used as text.
-/

/-- The variables of the process that matter here. -/
structure Environment where
  shell : Option (List UInt8) := none
  comspec : Option (List UInt8) := none
  ciTest : Option (List UInt8) := none
  deriving DecidableEq, Repr

namespace Environment

/-- Whether this process is a test run. -/
def isTestRun (env : Environment) : Bool :=
  env.ciTest.isSome

/-- A variable's value as text, if it is set and is text. -/
def text? (value : Option (List UInt8)) : Option String :=
  value.bind Text.Utf8.decode?

end Environment
end Workbench
