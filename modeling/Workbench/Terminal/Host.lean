import Workbench.Error
import Workbench.Terminal.Options
import Workbench.Url.Basic

namespace Workbench
namespace Terminal

/-!
# The terminal host

The host creates terminals and reports when one of them is closed; the activator prepares the
environment in a new terminal.  Both keep a full record of what was asked of them, and a terminal
keeps the record of its use in order, so that what was sent, shown and disposed can be read off
afterwards.
-/

inductive Use where
  | shown (preserveFocus : Bool)
  | sent (text : String) (newLine : Bool)
  | disposed
  deriving DecidableEq, Repr

structure Record where
  options : Options
  uses : List Use := []
  deriving DecidableEq, Repr

namespace Record

def use (record : Record) (what : Use) : Record :=
  { record with uses := record.uses ++ [what] }

/-- The focus preference of every time the terminal was shown. -/
def shows (record : Record) : List Bool :=
  record.uses.filterMap fun
    | .shown preserveFocus => some preserveFocus
    | _ => none

def sent (record : Record) : List (String × Bool) :=
  record.uses.filterMap fun
    | .sent text newLine => some (text, newLine)
    | _ => none

/-- How often the terminal was disposed. -/
def disposals (record : Record) : Nat :=
  record.uses.count .disposed

end Record

structure Host where
  /-- What the host was asked to create so far, whatever came of it. -/
  requests : List Options := []
  /-- The terminals created so far; a terminal is named by its position. -/
  terminals : List Record := []
  /-- The services that want to know when a terminal is closed. -/
  closeListeners : List Nat := []
  /-- The failure of the next creation. -/
  failNext : Option Error := none
  /-- How long a creation takes, in milliseconds. -/
  delay : Nat := 0
  deriving DecidableEq, Repr

namespace Host

/-- The name of the terminal that is created next. -/
def next (host : Host) : Nat :=
  host.terminals.length

/-- Asks for a new terminal; the answer comes later. -/
def request (host : Host) (options : Options) : Host :=
  { host with requests := host.requests ++ [options] }

def create (host : Host) (options : Options) : Host :=
  { host with terminals := host.terminals ++ [{ options }] }

def use (host : Host) (terminal : Nat) (what : Use) : Host :=
  { host with terminals := host.terminals.modify terminal (·.use what) }

/-- Registers a service for reports of closed terminals. -/
def listen (host : Host) (service : Nat) : Host :=
  { host with closeListeners := host.closeListeners ++ [service] }

/-- Takes the registration of a service back. -/
def unlisten (host : Host) (service : Nat) : Host :=
  { host with closeListeners := host.closeListeners.erase service }

end Host

/-- One preparation of an environment in a terminal. -/
structure Activation where
  /-- The terminal. -/
  terminal : Nat
  /-- The resource whose environment it is. -/
  resource : Option Url
  /-- The focus preference that was passed on. -/
  preserveFocus : Bool
  deriving DecidableEq, Repr

structure Activator where
  activations : List Activation := []
  failNext : Option Error := none
  delay : Nat := 0
  deriving DecidableEq, Repr

end Terminal
end Workbench
