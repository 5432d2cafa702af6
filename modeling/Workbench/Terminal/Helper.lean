import Workbench.Platform
import Workbench.Shell.CommandLine
import Workbench.Shell.Identify

namespace Workbench
namespace Terminal

/-!
# Choosing a shell

A helper says which shell terminals shall run.  The usual one looks at the settings first, then at
the environment, then at the platform; it never leaves the choice to the host.
-/

/-- Where the choice of a shell comes from. -/
inductive Helper where
  | fixed (path : Option String)
  /-- The path in the settings if there is one, else the user's shell on a platform. -/
  | resolving (override : Option String) (platform : Platform)
  deriving DecidableEq, Repr

namespace Helper

/-- The shell of the settings, or the user's shell on this machine. -/
def ofSettings (shellPath : Option String) : Helper :=
  .resolving shellPath Platform.here

/-- A path in the settings without the white space around it; a blank one is none. -/
def override? (path : Option String) : Option String :=
  match path.map Text.trimmed with
  | some path => if path.isEmpty then none else some path
  | none => none

/-- The path of the shell, as far as the helper knows it. -/
def shellPath? (helper : Helper) (env : Environment) : Option String :=
  match helper with
  | fixed path => path
  | resolving path platform => some ((override? path).getD (platform.defaultShell env))

/-- The path that the host is told: a blank one is left to the host. -/
def usablePath? (helper : Helper) (env : Environment) : Option String :=
  (helper.shellPath? env).filter fun path => !Text.allBlank path

/-- The kind of the shell that terminals run. -/
def shellKind (helper : Helper) (env : Environment) : Shell.Kind :=
  Shell.identify? (helper.usablePath? env)

/-- Whether the helper decides for a Unix platform. -/
def isUnix : Helper → Bool
  | fixed _ => true
  | resolving _ platform => platform.isUnix

theorem usablePath?_not_blank {helper : Helper} {env : Environment} {path : String}
    (h : helper.usablePath? env = some path) : Text.allBlank path = false := by
  unfold usablePath? at h
  have := (Option.filter_eq_some_iff.1 h).2
  simpa using this

end Helper
end Terminal
end Workbench
