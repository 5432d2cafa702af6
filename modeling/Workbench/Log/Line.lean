namespace Workbench
namespace Log

/-!
# Log lines

A line of the log has a level and a text.  Levels are ordered by importance.
-/

inductive Level where
  | trace
  | debug
  | info
  | warn
  | error
  deriving DecidableEq, Repr

namespace Level

/-- Every level, from the least to the most important. -/
def all : List Level :=
  [trace, debug, info, warn, error]

def name : Level → String
  | trace => "TRACE"
  | debug => "DEBUG"
  | info => "INFO"
  | warn => "WARN"
  | error => "ERROR"

def rank : Level → Nat
  | trace => 0
  | debug => 1
  | info => 2
  | warn => 3
  | error => 4

end Level

structure Line where
  level : Level
  text : String
  deriving DecidableEq, Repr

namespace Line

def debug (text : String) : Line := ⟨.debug, text⟩

def info (text : String) : Line := ⟨.info, text⟩

def warn (text : String) : Line := ⟨.warn, text⟩

def shown (line : Line) : String :=
  line.level.name ++ " " ++ line.text

end Line
end Log
end Workbench
