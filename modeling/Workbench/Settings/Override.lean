import Workbench.Settings.Basic

namespace Workbench

/-!
# Overriding settings

Single settings given on top of those that were loaded.
-/

/-- Settings that take the place of others. -/
structure SettingsOverride where
  /-- The title of terminals. -/
  title : Option String := none
  /-- How many terminal services may be kept. -/
  maxTerminals : Option UInt64 := none
  /-- The least important level that is logged. -/
  level : Option String := none
  deriving DecidableEq, Repr

namespace Settings

/-- Settings with some of them overridden. -/
def overridden (s : Settings) (o : SettingsOverride) : Settings :=
  { s with
    terminal := { s.terminal with
      title := o.title.getD s.terminal.title
      maxTerminals := o.maxTerminals.getD s.terminal.maxTerminals }
    logging := { s.logging with level := o.level.getD s.logging.level } }

theorem overridden_empty (s : Settings) : s.overridden {} = s := rfl

end Settings
end Workbench
