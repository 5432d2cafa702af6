import Workbench.Json.Decode

namespace Workbench
namespace Lint

/-!
# Lint switches

Whether a document is linted at all, and whether it is linted when it is saved.
-/

open Decode (Mismatch Shape)

/-- The switches in effect for a document. -/
structure Switches where
  enabled : Bool := true
  lintOnSave : Bool := true
  deriving DecidableEq, Repr

namespace Switches

/-- Whether saving a document lints it at once. -/
def lintsOnSave (switches : Switches) : Bool :=
  switches.enabled && switches.lintOnSave

def shape : Shape := ⟨"LintSettings", ["enabled", "lintOnSave"]⟩

/-- Switches whose fields are being read. -/
structure Draft where
  enabled : Option Bool := none
  lintOnSave : Option Bool := none

def Draft.assign (draft : Draft) (field : String) (value : Json) : Except Mismatch Draft :=
  match field with
  | "enabled" => do pure { draft with enabled := some (← value.toBool) }
  | "lintOnSave" => do pure { draft with lintOnSave := some (← value.toBool) }
  | _ => pure draft

/-- The switches that data stands for. -/
def ofJson : Json → Except Mismatch Switches :=
  Json.toRecord shape Draft.assign {} fun draft => do
    let enabled ← Json.required "enabled" draft.enabled
    let lintOnSave ← Json.required "lintOnSave" draft.lintOnSave
    pure { enabled, lintOnSave }

def toJson (switches : Switches) : Json :=
  .object [("enabled", .bool switches.enabled), ("lintOnSave", .bool switches.lintOnSave)]

end Switches
end Lint
end Workbench
