import Workbench.Json.Decode

namespace Workbench
namespace Terminal

/-!
# Terminal options

What the host is told about a terminal that it shall create.
-/

open Decode (Mismatch Shape)

structure Options where
  name : String
  /-- The shell to run; the host's own choice if there is none. -/
  shellPath : Option String := none
  deriving DecidableEq, Repr

namespace Options

instance : Text.Describe Options where
  describe options := Text.describeRecord "TerminalOptions"
    [("name", Text.describe options.name), ("shell_path", Text.describe options.shellPath)]

def shape : Shape := ⟨"TerminalOptions", ["name", "shell_path"]⟩

/-- Options whose fields are being read. -/
structure Draft where
  name : Option String := none
  shellPath : Option String := none

def Draft.assign (draft : Draft) (field : String) (value : Json) : Except Mismatch Draft :=
  match field with
  | "name" => do pure { draft with name := some (← value.toText) }
  | "shell_path" => do pure { draft with shellPath := ← value.toOption Json.toText }
  | _ => pure draft

/-- The options that data stands for. -/
def ofJson : Json → Except Mismatch Options :=
  Json.toRecord shape Draft.assign {} fun draft => do
    pure { name := ← Json.required "name" draft.name, shellPath := draft.shellPath }

def toJson (options : Options) : Json :=
  .object [("name", .string options.name), ("shell_path", .ofText? options.shellPath)]

end Options
end Terminal
end Workbench
