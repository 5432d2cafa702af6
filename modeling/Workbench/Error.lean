import Workbench.Text.Description

namespace Workbench

/-!
# Errors

What can go wrong across the library, by cause.  A collaborator's own words travel in the text of
the constructor; the wording around them is in `Error.message` alone.
-/

inductive Error where
  /-- The host could not create a terminal. -/
  | terminalCreation (text : String)
  /-- The environment could not be activated in a terminal. -/
  | activation (text : String)
  /-- The terminal was closed while it was being prepared. -/
  | terminalClosed
  /-- The terminal service is disposed. -/
  | terminalDisposed
  /-- As many terminal services exist as may. -/
  | terminalLimitReached (max : Nat)
  /-- A lint pass failed. -/
  | lint (text : String)
  /-- The active linters could not be determined. -/
  | linterLookup (text : String)
  /-- There is nothing to run background work on. -/
  | noRuntime
  /-- The configuration is not acceptable. -/
  | config (text : String)
  /-- Reading or writing failed. -/
  | io (text : String)
  /-- An argument is not acceptable. -/
  | invalidInput (text : String)
  /-- Anything else. -/
  | other (text : String)
  deriving DecidableEq, Repr

namespace Error

def message : Error → String
  | terminalCreation text => "Terminal creation failed: " ++ text
  | activation text => "Environment activation failed: " ++ text
  | terminalClosed => "Terminal closed before it was ready"
  | terminalDisposed => "Terminal service has been disposed"
  | terminalLimitReached max => "Terminal limit reached (max: " ++ Nat.repr max ++ ")"
  | lint text => "Lint failed: " ++ text
  | linterLookup text => "Linter lookup failed: " ++ text
  | noRuntime => "No Tokio runtime available"
  | config text => "Configuration error: " ++ text
  | io text => "IO error: " ++ text
  | invalidInput text => "Invalid input: " ++ text
  | other text => text

def kind : Error → String
  | terminalCreation _ => "TerminalCreation"
  | activation _ => "Activation"
  | terminalClosed => "TerminalClosed"
  | terminalDisposed => "TerminalDisposed"
  | terminalLimitReached _ => "TerminalLimitReached"
  | lint _ => "Lint"
  | linterLookup _ => "LinterLookup"
  | noRuntime => "NoRuntime"
  | config _ => "Config"
  | io _ => "Io"
  | invalidInput _ => "InvalidInput"
  | other _ => "Other"

/-- The payload of the cause, described. -/
def payload? : Error → Option String
  | terminalClosed | terminalDisposed | noRuntime => none
  | terminalLimitReached max => some (Text.describe max)
  | terminalCreation text | activation text | lint text | linterLookup text | config text
  | io text | invalidInput text | other text => some (Text.describe text)

instance : Text.Describe Error where
  describe e :=
    match e.payload? with
    | none => e.kind
    | some payload => Text.describeWrapped e.kind payload

/-- The error of a named cause, from a text and a limit of which it takes what it needs. -/
def ofKind? (kind text : String) (max : Nat) : Option Error :=
  match kind with
  | "TerminalCreation" => some (terminalCreation text)
  | "Activation" => some (activation text)
  | "TerminalClosed" => some terminalClosed
  | "TerminalDisposed" => some terminalDisposed
  | "TerminalLimitReached" => some (terminalLimitReached max)
  | "Lint" => some (lint text)
  | "LinterLookup" => some (linterLookup text)
  | "NoRuntime" => some noRuntime
  | "Config" => some (config text)
  | "Io" => some (io text)
  | "InvalidInput" => some (invalidInput text)
  | "Other" => some (other text)
  | _ => none

end Error
end Workbench
