import Workbench.Json.Decode
import Workbench.Settings.Basic

namespace Workbench

/-!
# Settings in JSON

Every section and every field may be left out; it then has its default.  Writing settings out in
full and reading them back changes nothing.
-/

open Decode (Mismatch Shape)

namespace TerminalSettings

def shape : Shape := ⟨"TerminalSettings", ["title", "shell_path", "max_terminals"]⟩

def assign (s : TerminalSettings) (field : String) (value : Json) :
    Except Mismatch TerminalSettings :=
  match field with
  | "title" => do pure { s with title := ← value.toText }
  | "shell_path" => do pure { s with shellPath := ← value.toOption Json.toText }
  | "max_terminals" => do pure { s with maxTerminals := ← value.toUInt64 "usize" }
  | _ => pure s

/-- The section that data stands for. -/
def ofJson : Json → Except Mismatch TerminalSettings :=
  Json.toDefaulted shape assign {}

/-- The section written out in full. -/
def toJson (s : TerminalSettings) : Json :=
  .object [("title", .string s.title), ("shell_path", .ofText? s.shellPath),
    ("max_terminals", .natural s.maxTerminals.toNat)]

end TerminalSettings

namespace LintingSettings

def shape : Shape :=
  ⟨"LintingSettings",
    ["language_id", "config_section", "startup_delay_ms", "config_rescan_delay_ms",
      "run_startup_pass"]⟩

def assign (s : LintingSettings) (field : String) (value : Json) :
    Except Mismatch LintingSettings :=
  match field with
  | "language_id" => do pure { s with languageId := ← value.toText }
  | "config_section" => do pure { s with configSection := ← value.toText }
  | "startup_delay_ms" => do pure { s with startupDelay := ← value.toUInt64 "u64" }
  | "config_rescan_delay_ms" => do pure { s with rescanDelay := ← value.toUInt64 "u64" }
  | "run_startup_pass" => do pure { s with runStartupPass := ← value.toBool }
  | _ => pure s

/-- The section that data stands for. -/
def ofJson : Json → Except Mismatch LintingSettings :=
  Json.toDefaulted shape assign {}

/-- The section written out in full. -/
def toJson (s : LintingSettings) : Json :=
  .object [("language_id", .string s.languageId), ("config_section", .string s.configSection),
    ("startup_delay_ms", .natural s.startupDelay.toNat),
    ("config_rescan_delay_ms", .natural s.rescanDelay.toNat),
    ("run_startup_pass", .bool s.runStartupPass)]

end LintingSettings

namespace LoggingSettings

def shape : Shape := ⟨"LoggingSettings", ["level"]⟩

def assign (s : LoggingSettings) (field : String) (value : Json) :
    Except Mismatch LoggingSettings :=
  match field with
  | "level" => do pure { s with level := ← value.toText }
  | _ => pure s

/-- The section that data stands for. -/
def ofJson : Json → Except Mismatch LoggingSettings :=
  Json.toDefaulted shape assign {}

/-- The section written out in full. -/
def toJson (s : LoggingSettings) : Json :=
  .object [("level", .string s.level)]

end LoggingSettings

namespace Settings

def shape : Shape := ⟨"ExtensionConfig", ["terminal", "linting", "logging"]⟩

def assign (s : Settings) (field : String) (value : Json) : Except Mismatch Settings :=
  match field with
  | "terminal" => do pure { s with terminal := ← TerminalSettings.ofJson value }
  | "linting" => do pure { s with linting := ← LintingSettings.ofJson value }
  | "logging" => do pure { s with logging := ← LoggingSettings.ofJson value }
  | _ => pure s

/-- The settings that data stands for. -/
def ofJson : Json → Except Mismatch Settings :=
  Json.toDefaulted shape assign {}

def toJson (s : Settings) : Json :=
  .object [("terminal", s.terminal.toJson), ("linting", s.linting.toJson),
    ("logging", s.logging.toJson)]

end Settings
end Workbench
