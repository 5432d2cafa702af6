namespace Workbench
namespace Lint

/-!
# Reasons for linting

Why a lint pass was asked for.
-/

inductive Reason where
  | opened
  | saved
  | configurationChanged
  | interpreterChanged
  | configFileSaved
  | startup
  deriving DecidableEq, Repr

namespace Reason

def name : Reason → String
  | opened => "opened"
  | saved => "saved"
  | configurationChanged => "configuration-changed"
  | interpreterChanged => "interpreter-changed"
  | configFileSaved => "config-file-saved"
  | startup => "startup"

/-- The reason of a given identifier. -/
def ofIdentifier? (identifier : String) : Option Reason :=
  [("Opened", opened), ("Saved", saved), ("ConfigurationChanged", configurationChanged),
    ("InterpreterChanged", interpreterChanged), ("ConfigFileSaved", configFileSaved),
    ("Startup", startup)].lookup identifier

end Reason
end Lint
end Workbench
