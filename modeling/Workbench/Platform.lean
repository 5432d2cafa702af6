import Workbench.Environment
import Workbench.Text.Blank
import Workbench.Text.Description

namespace Workbench

/-!
# Platforms

What depends on the operating system: which variable names the user's shell, and which shell is
used when that variable does not help.
-/

/-- An operating system, as far as shells are concerned. -/
inductive Platform where
  | linux
  | macOS
  | windows
  | wsl
  deriving DecidableEq, Repr

namespace Platform

/-- The platform of the machine that nothing else is said about. -/
def here : Platform := .linux

def name : Platform → String
  | linux => "Linux"
  | macOS => "macOS"
  | windows => "Windows"
  | wsl => "WSL"

def key : Platform → String
  | linux => "linux"
  | macOS => "macos"
  | windows => "windows"
  | wsl => "wsl"

instance : Text.Describe Platform where
  describe
    | linux => "Linux"
    | macOS => "MacOS"
    | windows => "Windows"
    | wsl => "WSL"

def all : List Platform :=
  [linux, macOS, windows, wsl]

/-- The platform of a given name in settings. -/
def ofKey? (key : String) : Option Platform :=
  all.find? fun platform => platform.key == key

/-- Whether the platform follows Unix conventions. -/
def isUnix : Platform → Bool
  | windows => false
  | _ => true

/-- The name of the variable that holds the user's shell. -/
def shellVariable (platform : Platform) : String :=
  if platform.isUnix then "SHELL" else "COMSPEC"

def shellSetting (platform : Platform) (env : Environment) : Option (List UInt8) :=
  if platform.isUnix then env.shell else env.comspec

/-- The shell that is used when the variable is of no use. -/
def fallbackShell (platform : Platform) : String :=
  if platform.isUnix then "/bin/sh" else "cmd.exe"

/-- The user's shell: the variable's value as it stands if it is text and not blank, else the
fallback. -/
def defaultShell (platform : Platform) (env : Environment) : String :=
  match Environment.text? (platform.shellSetting env) with
  | some path => if Text.allBlank path then platform.fallbackShell else path
  | none => platform.fallbackShell

theorem ofKey?_key (platform : Platform) : ofKey? platform.key = some platform := by
  cases platform <;> decide

theorem defaultShell_not_blank (platform : Platform) (env : Environment) :
    Text.allBlank (platform.defaultShell env) = false := by
  have fallback : Text.allBlank platform.fallbackShell = false := by
    cases platform <;> decide +kernel
  unfold defaultShell
  split
  · split
    · exact fallback
    · rename_i path _ h
      exact Bool.eq_false_iff.2 h
  · exact fallback

end Platform
end Workbench
