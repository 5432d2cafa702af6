import Workbench.Shell.Kind
import Workbench.Text.Blank

namespace Workbench
namespace Shell

/-!
# Command lines

A command line is one executable, quoted where it has to be, followed by arguments that are passed
through as they are.  Quoting is idempotent, and it does not matter whether separators are
normalised before or after it.
-/

/-- The value between double quotes if it holds a space and has a double quote at neither end. -/
def quote (value : List Char) : List Char :=
  if value.contains ' ' && value.head? != some '"' && value.getLast? != some '"' then
    '"' :: (value ++ ['"'])
  else value

/-- The path with every backslash turned into a slash. -/
def slashes (path : List Char) : List Char :=
  path.map fun c => if c = '\\' then '/' else c

/-- An argument as it stands on a command line. -/
def argument (value : String) : String :=
  String.ofList (quote value.toList)

/-- A path as it stands on a command line. -/
def pathArgument (value : String) : String :=
  String.ofList (slashes (quote value.toList))

/-- What comes before the executable: the call operator where the shell wants one. -/
def callOperator (shell : Kind) : List Char :=
  if shell.isPowerShell then ['&', ' '] else []

/-- The line that runs a command with arguments, without white space at either end. -/
def commandLine (shell : Kind) (command : String) (arguments : List String) : String :=
  String.ofList <| Text.trim <|
    callOperator shell ++ slashes (quote command.toList) ++
      ' ' :: (" ".intercalate arguments).toList

theorem slashes_no_backslash (path : List Char) : '\\' ∉ slashes path := by
  intro member
  obtain ⟨c, _, equal⟩ := List.mem_map.1 member
  by_cases h : c = '\\'
  · rw [if_pos h] at equal
    exact absurd equal (by decide)
  · rw [if_neg h] at equal
    exact h equal

theorem quote_of_no_space {value : List Char} (h : ' ' ∉ value) : quote value = value := by
  simp [quote, h]

end Shell
end Workbench
