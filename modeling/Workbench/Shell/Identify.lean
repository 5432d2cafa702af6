import Workbench.Shell.Kind
import Workbench.Text.Blank
import Workbench.Text.Letters

namespace Workbench
namespace Shell

/-!
# Recognising a shell

A shell is recognised by how the path of its executable ends, whatever the case of its letters and
whatever white space surrounds it.  The table is read from the top, so a name that ends in another
one stands above it: `gitbash` above `bash`, `tcsh` above `csh`.
-/

/-- The endings by which one kind of shell is recognised. -/
structure Pattern where
  endings : List String
  kind : Kind

namespace Pattern

/-- A shell whose executable may carry the suffix of a Windows program. -/
def program (name : String) (kind : Kind) : Pattern :=
  ⟨[name, name ++ ".exe"], kind⟩

/-- Whether a folded path ends like this shell. -/
def fits (pattern : Pattern) (folded : List Char) : Bool :=
  pattern.endings.any fun ending => ending.toList.isSuffixOf folded

def table : List Pattern :=
  [program "gitbash" .gitBash,
   program "bash" .bash,
   ⟨["wsl.exe"], .wsl⟩,
   ⟨["zsh"], .zsh⟩,
   ⟨["ksh"], .ksh⟩,
   program "cmd" .commandPrompt,
   program "powershell" .powerShell,
   program "pwsh" .powerShellCore,
   ⟨["fish"], .fish⟩,
   ⟨["tcsh"], .tcShell⟩,
   ⟨["csh"], .cShell⟩,
   ⟨["xonsh"], .xonsh⟩]

/-- The kind of the first pattern in a table that fits. -/
def lookup (table : List Pattern) (folded : List Char) : Kind :=
  match table.find? (·.fits folded) with
  | some pattern => pattern.kind
  | none => .other

end Pattern

/-- A path as it is compared: without white space around it, in folded case. -/
def folded (path : String) : List Char :=
  (Text.trim path.toList).map Text.foldCase

def identify (path : String) : Kind :=
  Pattern.lookup Pattern.table (folded path)

/-- A path that is missing names no shell in particular. -/
def identify? : Option String → Kind
  | some path => identify path
  | none => .other

theorem identify_of_blank {path : String} (h : Text.allBlank path = true) :
    identify path = .other := by
  have empty : folded path = [] := by
    unfold folded
    rw [List.map_eq_nil_iff, Text.trim_eq_nil_iff]
    exact List.all_eq_true.1 h
  rw [identify, empty]
  decide +kernel

end Shell
end Workbench
