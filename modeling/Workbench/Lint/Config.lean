import Workbench.Environment
import Workbench.Settings.Basic
import Workbench.Text.Span

namespace Workbench
namespace Lint

/-!
# Configuration of the lint scheduler

The settings of linting as the scheduler uses them.  In a test run there is no pass at the start.
-/

/-- What the scheduler goes by.  Delays are in milliseconds. -/
structure Config where
  /-- The language whose documents are linted when they are saved. -/
  languageId : String
  /-- The configuration section whose changes matter. -/
  configSection : String
  /-- The delay of the first pass. -/
  startupDelay : Nat
  /-- The delay of the pass after a linter's configuration file was saved. -/
  rescanDelay : Nat
  /-- Whether there is a first pass. -/
  runStartupPass : Bool
  deriving DecidableEq, Repr

namespace Config

/-- The configuration that settings lead to in an environment. -/
def ofSettings (env : Environment) (settings : LintingSettings) : Config where
  languageId := settings.languageId
  configSection := settings.configSection
  startupDelay := settings.startupDelay.toNat
  rescanDelay := settings.rescanDelay.toNat
  runStartupPass := settings.runStartupPass && !env.isTestRun

/-- The configuration that the default settings lead to. -/
def default (env : Environment) : Config :=
  ofSettings env {}

instance : Text.Describe Config where
  describe config := Text.describeRecord "LintSchedulerConfig"
    [("language_id", Text.describe config.languageId),
     ("config_section", Text.describe config.configSection),
     ("startup_delay", Text.describeSpan config.startupDelay),
     ("config_rescan_delay", Text.describeSpan config.rescanDelay),
     ("run_startup_pass", Text.describe config.runStartupPass)]

end Config
end Lint
end Workbench
