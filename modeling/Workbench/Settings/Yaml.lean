import Workbench.Settings.Json
import Workbench.Yaml.Decode

namespace Workbench

/-!
# Settings in YAML

Settings are written as one document, in which every section and every field may be left out.
-/

open Yaml (Node Failure)

namespace TerminalSettings

def assignNode (s : TerminalSettings) (field : String) (node : Node) :
    Except Failure TerminalSettings :=
  match field with
  | "title" => do pure { s with title := ← node.toText }
  | "shell_path" => do pure { s with shellPath := ← node.toOption Node.toText }
  | "max_terminals" => do pure { s with maxTerminals := ← node.toUInt64 "usize" }
  | _ => pure s

/-- The section that a node stands for. -/
def ofNode : Node → Except Failure TerminalSettings :=
  Node.toDefaulted shape assignNode {}

end TerminalSettings

namespace LintingSettings

def assignNode (s : LintingSettings) (field : String) (node : Node) :
    Except Failure LintingSettings :=
  match field with
  | "language_id" => do pure { s with languageId := ← node.toText }
  | "config_section" => do pure { s with configSection := ← node.toText }
  | "startup_delay_ms" => do pure { s with startupDelay := ← node.toUInt64 "u64" }
  | "config_rescan_delay_ms" => do pure { s with rescanDelay := ← node.toUInt64 "u64" }
  | "run_startup_pass" => do pure { s with runStartupPass := ← node.toBool }
  | _ => pure s

/-- The section that a node stands for. -/
def ofNode : Node → Except Failure LintingSettings :=
  Node.toDefaulted shape assignNode {}

end LintingSettings

namespace LoggingSettings

def assignNode (s : LoggingSettings) (field : String) (node : Node) :
    Except Failure LoggingSettings :=
  match field with
  | "level" => do pure { s with level := ← node.toText }
  | _ => pure s

/-- The section that a node stands for. -/
def ofNode : Node → Except Failure LoggingSettings :=
  Node.toDefaulted shape assignNode {}

end LoggingSettings

/-- Why settings could not be loaded. -/
inductive LoadFault where
  /-- There is no text. -/
  | inaccessible (error : Error)
  /-- The text is not one well-formed document. -/
  | unreadable
  /-- The document holds other data than settings.  `placed` says whether the message is to be
  followed by the place of that data; there is none at the very beginning of the text. -/
  | misshapen (message : String) (placed : Bool)
  /-- The settings do not meet the conditions. -/
  | unacceptable (fault : SettingsFault)
  deriving DecidableEq, Repr

namespace Settings

def assignNode (s : Settings) (field : String) (node : Node) : Except Failure Settings :=
  match field with
  | "terminal" => do pure { s with terminal := ← TerminalSettings.ofNode node }
  | "linting" => do pure { s with linting := ← LintingSettings.ofNode node }
  | "logging" => do pure { s with logging := ← LoggingSettings.ofNode node }
  | _ => pure s

/-- The settings that a node stands for. -/
def ofNode : Node → Except Failure Settings :=
  Node.toDefaulted shape assignNode {}

/-- The settings that a text stands for.  A mismatch counts before anything malformed further on
in the text, and that before settings that are not acceptable. -/
def ofYaml (text : String) : Except LoadFault Settings :=
  let document := Yaml.Document.ofText text
  match ofNode { document } with
  | .error (.mismatch path m) =>
    .error (.misshapen (Yaml.mismatchMessage path m)
      (!(path.isEmpty && Yaml.beginsAtOnce text.toList)))
  | .error .unreadable => .error .unreadable
  | .ok settings =>
    if document.ending = .complete then
      match settings.fault? with
      | none => .ok settings
      | some fault => .error (.unacceptable fault)
    else .error .unreadable

end Settings
end Workbench
