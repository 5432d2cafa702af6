import Workbench.Terminal.Helper
import Workbench.Terminal.Phase
import Workbench.Url.Basic

namespace Workbench
namespace Terminal

/-!
# Terminal services and calls

A terminal service owns at most one terminal, which it creates when it is first needed.  A call is
one request to a service; it waits while the terminal is being created, and several calls may wait
for the same creation.
-/

structure Service where
  title : String
  resource : Option Url
  helper : Helper
  generation : Nat := 0
  phase : Phase := .idle
  creations : List Creation := []
  /-- How many references to the service there are, those of running calls aside. -/
  owners : Nat := 1
  dropped : Bool := false
  deriving DecidableEq, Repr

namespace Service

def creation? (service : Service) (generation : Nat) : Option Creation :=
  match generation with
  | 0 => none
  | n + 1 => service.creations[n]?

def modifyCreation (service : Service) (generation : Nat) (f : Creation → Creation) : Service :=
  { service with creations := service.creations.modify (generation - 1) f }

def resourceText (resource : Option Url) : String :=
  (resource.map Url.text).getD "<none>"

/-- Whether the service is disposed. -/
def isDisposed (service : Service) : Bool :=
  service.phase == .disposed

/-- The kind of shell of the terminal in use. -/
def shellKind? (service : Service) : Option Shell.Kind :=
  service.phase.active?.map Active.shell

instance : Text.Describe Service where
  describe service := Text.describeRecord "TerminalService"
    [("title", Text.describe service.title), ("resource", Text.describe service.resource),
     ("has_terminal", Text.describe service.phase.isReady)]

end Service

inductive Request where
  | show (preserveFocus : Bool)
  | sendText (text : String)
  | sendCommand (command : String) (arguments : List String)
  deriving DecidableEq, Repr

/-- The focus preference with which a request creates the terminal. -/
def Request.preserveFocus : Request → Bool
  | .show preserveFocus => preserveFocus
  | _ => true

inductive CallState where
  | fresh
  | waiting (generation place : Nat)
  | finished (result : Except Error Unit)
  | aborted
  deriving DecidableEq

structure Call where
  service : Nat
  request : Request
  state : CallState := .fresh
  cancelled : Bool := false
  deriving DecidableEq

namespace CallState

def isOver : CallState → Bool
  | finished _ | aborted => true
  | _ => false

end CallState

/-- What happens when the terminal of a service is closed. -/
inductive Reaction where
  | none
  | dispose
  | show
  deriving DecidableEq, Repr

/-- Someone who wants to know when the terminal of a service is closed. -/
structure CloseListener where
  service : Nat
  reaction : Reaction
  active : Bool := true
  fired : Nat := 0
  deriving DecidableEq, Repr

end Terminal
end Workbench
