import Workbench.Text.Description

namespace Workbench
namespace Shell

/-!
# Kinds of shell

The shells that are told apart, and how each is named.
-/

/-- The kind of shell that runs in a terminal. -/
inductive Kind where
  | powerShell
  | powerShellCore
  | commandPrompt
  | gitBash
  | bash
  | wsl
  | zsh
  | ksh
  | fish
  | cShell
  | tcShell
  | xonsh
  | other
  deriving DecidableEq, Repr

namespace Kind

/-- Every kind, in the order in which they are listed to the user. -/
def all : List Kind :=
  [powerShell, powerShellCore, commandPrompt, gitBash, bash, wsl, zsh, ksh, fish, cShell, tcShell,
    xonsh, other]

/-- The name of a kind in settings and messages. -/
def name : Kind → String
  | powerShell => "powershell"
  | powerShellCore => "powershellcore"
  | commandPrompt => "commandprompt"
  | gitBash => "gitbash"
  | bash => "bash"
  | wsl => "wsl"
  | zsh => "zsh"
  | ksh => "ksh"
  | fish => "fish"
  | cShell => "cshell"
  | tcShell => "tcshell"
  | xonsh => "xonsh"
  | other => "other"

instance : Text.Describe Kind where
  describe
    | powerShell => "PowerShell"
    | powerShellCore => "PowerShellCore"
    | commandPrompt => "CommandPrompt"
    | gitBash => "GitBash"
    | bash => "Bash"
    | wsl => "Wsl"
    | zsh => "Zsh"
    | ksh => "Ksh"
    | fish => "Fish"
    | cShell => "CShell"
    | tcShell => "TcShell"
    | xonsh => "Xonsh"
    | other => "Other"

/-- Whether a quoted executable needs the call operator in front of it. -/
def isPowerShell : Kind → Bool
  | powerShell | powerShellCore => true
  | _ => false

def ofName? (name : String) : Option Kind :=
  all.find? fun kind => kind.name == name

theorem mem_all (kind : Kind) : kind ∈ all := by
  cases kind <;> decide

theorem name_injective {a b : Kind} (h : a.name = b.name) : a = b := by
  cases a <;> cases b <;> first | rfl | exact absurd h (by decide)

theorem ofName?_name (kind : Kind) : ofName? kind.name = some kind := by
  cases kind <;> decide

end Kind
end Shell
end Workbench
