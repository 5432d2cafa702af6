import Workbench.Error
import Workbench.Text.Blank
import Workbench.Text.Letters

namespace Workbench

/-!
# Settings

What the user can configure, in three sections, with the values used where nothing is said, and
the conditions that settings have to meet.
-/

structure TerminalSettings where
  /-- The title of terminals. -/
  title : String := "Python"
  /-- The shell to use instead of the platform's. -/
  shellPath : Option String := none
  /-- How many terminal services may be kept. -/
  maxTerminals : UInt64 := 16
  deriving DecidableEq, Repr

structure LintingSettings where
  /-- The language of the documents that linters are for. -/
  languageId : String := "python"
  /-- The configuration section whose changes matter. -/
  configSection : String := "python.linting"
  /-- Milliseconds before the pass at the start. -/
  startupDelay : UInt64 := 1200
  /-- Milliseconds between saving a linter's configuration file and the pass that follows. -/
  rescanDelay : UInt64 := 1000
  /-- Whether there is a pass at the start. -/
  runStartupPass : Bool := true
  deriving DecidableEq, Repr

structure LoggingSettings where
  /-- The least important level that is shown. -/
  level : String := "info"
  deriving DecidableEq, Repr

structure Settings where
  terminal : TerminalSettings := {}
  linting : LintingSettings := {}
  logging : LoggingSettings := {}
  deriving DecidableEq, Repr

instance : Text.Describe UInt64 := ⟨fun n => Text.describe n.toNat⟩

instance : Text.Describe TerminalSettings where
  describe s := Text.describeRecord "TerminalSettings"
    [("title", Text.describe s.title), ("shell_path", Text.describe s.shellPath),
     ("max_terminals", Text.describe s.maxTerminals)]

instance : Text.Describe LintingSettings where
  describe s := Text.describeRecord "LintingSettings"
    [("language_id", Text.describe s.languageId), ("config_section", Text.describe s.configSection),
     ("startup_delay_ms", Text.describe s.startupDelay),
     ("config_rescan_delay_ms", Text.describe s.rescanDelay),
     ("run_startup_pass", Text.describe s.runStartupPass)]

instance : Text.Describe LoggingSettings where
  describe s := Text.describeRecord "LoggingSettings" [("level", Text.describe s.level)]

instance : Text.Describe Settings where
  describe s := Text.describeRecord "ExtensionConfig"
    [("terminal", Text.describe s.terminal), ("linting", Text.describe s.linting),
     ("logging", Text.describe s.logging)]

inductive SettingsFault where
  | blankTitle
  | noTerminals
  | blankLanguage
  | blankSection
  | unknownLevel (level : String)
  deriving DecidableEq, Repr

namespace LoggingSettings

/-- The levels, from the least to the most important. -/
def levels : List String :=
  ["trace", "debug", "info", "warn", "error"]

/-- What is wrong, if anything.  Case does not matter. -/
def fault? (s : LoggingSettings) : Option SettingsFault :=
  if Text.lowered s.level ∈ levels then none else some (.unknownLevel s.level)

end LoggingSettings

namespace SettingsFault

def message : SettingsFault → String
  | blankTitle => "terminal.title cannot be empty"
  | noTerminals => "terminal.max_terminals must be > 0"
  | blankLanguage => "linting.language_id cannot be empty"
  | blankSection => "linting.config_section cannot be empty"
  | unknownLevel level =>
    "logging.level '" ++ level ++ "' is not one of " ++ Text.describe LoggingSettings.levels

def error (fault : SettingsFault) : Error :=
  .config fault.message

end SettingsFault

namespace Settings

/-- The first thing that is wrong, if any. -/
def fault? (s : Settings) : Option SettingsFault :=
  if Text.allBlank s.terminal.title then some .blankTitle
  else if s.terminal.maxTerminals = 0 then some .noTerminals
  else if Text.allBlank s.linting.languageId then some .blankLanguage
  else if Text.allBlank s.linting.configSection then some .blankSection
  else s.logging.fault?

/-- The settings themselves, if nothing is wrong with them. -/
def validated (s : Settings) : Except Error Settings :=
  match s.fault? with
  | none => .ok s
  | some fault => .error fault.error

theorem fault?_default : ({} : Settings).fault? = none := by
  decide +kernel

end Settings
end Workbench
