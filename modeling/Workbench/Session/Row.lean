import Workbench.Session.Basic

namespace Workbench
namespace Session

/-!
# Rows

A row tells what came of a step: the answer, what was recorded since the row before, and how things
stand.
-/

structure ListenerCounts where
  closed : Nat
  documents : Nat
  configuration : Nat
  interpreter : Nat
  deriving DecidableEq, Repr

namespace ListenerCounts

def ofWorkspace (w : Workspace) : ListenerCounts where
  closed := w.terminals.closeListenerCount
  documents := w.documentListeners
  configuration := w.lint.listenerCount (· == .configuration)
  interpreter := w.lint.listenerCount (· == .interpreter)

end ListenerCounts

structure Row where
  /-- The answer. -/
  reply : Except Failure Reply
  /-- What the host was told about new terminals. -/
  created : List Terminal.Options
  /-- The terminals that were shown, with the focus preference. -/
  shows : List (Nat × Bool)
  /-- The texts sent to terminals, and whether they ended the line. -/
  sent : List (Nat × String × Bool)
  /-- The terminals that were disposed, with the number of times so far. -/
  disposed : List (Nat × Nat)
  /-- The activations begun. -/
  activations : List Terminal.Activation
  /-- The calls that ended. -/
  calls : List (Nat × Terminal.CallState)
  /-- The listeners that were notified, with the number of times. -/
  fired : List (Nat × Nat)
  /-- What was asked when linters were looked up. -/
  lookups : List Lint.Inquiry
  /-- The lint passes. -/
  passes : List Lint.Pass
  /-- The documents whose diagnostics were cleared. -/
  cleared : List Url
  /-- The records of registered items. -/
  disposals : List Disposal
  /-- The services in the slots. -/
  services : List (Option Terminal.Service)
  /-- The listeners. -/
  listeners : ListenerCounts
  /-- The number of delayed passes and whether the scheduler is disposed. -/
  scheduler : Option (Nat × Bool)
  /-- How many services the factory keeps. -/
  cached : Option Nat
  /-- Whether the extension is disposed. -/
  extensionDisposed : Option Bool
  /-- The lines of the log, in the order of their text. -/
  log : List String

namespace Row

/-- What a list has more than it had before. -/
def added {α : Type} (before after : List α) : List α :=
  after.drop before.length

/-- What the terminals have more of something than before, terminal by terminal. -/
def addedUses {α : Type} (before after : Terminal.World) (uses : Terminal.Record → List α) :
    List (Nat × α) :=
  after.host.terminals.zipIdx.flatMap fun (record, terminal) =>
    let earlier := ((before.host.terminals[terminal]?).map uses).getD []
    (added earlier (uses record)).map fun use => (terminal, use)

/-- The terminals that were disposed more often than before. -/
def disposedSince (before after : Terminal.World) : List (Nat × Nat) :=
  after.host.terminals.zipIdx.filterMap fun (record, terminal) =>
    let earlier := ((before.host.terminals[terminal]?).map (·.disposals)).getD 0
    if record.disposals = earlier then none else some (terminal, record.disposals)

def endedSince (before after : Terminal.World) : List (Nat × Terminal.CallState) :=
  after.calls.zipIdx.filterMap fun (call, i) =>
    let wasOver := ((before.calls[i]?).map (·.state.isOver)).getD false
    if call.state.isOver && !wasOver then some (i, call.state) else none

/-- The listeners that were notified. -/
def firedSince (before after : Terminal.World) : List (Nat × Nat) :=
  after.listeners.zipIdx.filterMap fun (listener, i) =>
    let earlier := ((before.listeners[i]?).map (·.fired)).getD 0
    if listener.fired = earlier then none else some (i, listener.fired - earlier)

/-- The lines of the log, in the order of their text. -/
def logSince (before after : Workspace) : List String :=
  let lines := added before.terminals.log after.terminals.log ++
    added before.lint.log after.lint.log ++ added before.log after.log
  (lines.map Log.Line.shown).mergeSort fun a b => a ≤ b

/-- The row of a step that led from one session to another. -/
def between (before after : Session) (reply : Except Failure Reply) : Row where
  reply
  created := (added before.terminals.host.terminals after.terminals.host.terminals).map (·.options)
  shows := addedUses before.terminals after.terminals Terminal.Record.shows
  sent := addedUses before.terminals after.terminals Terminal.Record.sent
  disposed := disposedSince before.terminals after.terminals
  activations :=
    added before.terminals.activator.activations after.terminals.activator.activations
  calls := endedSince before.terminals after.terminals
  fired := firedSince before.terminals after.terminals
  lookups := added before.lint.lookups after.lint.lookups
  passes := added before.lint.passes after.lint.passes
  cleared := added before.lint.cleared after.lint.cleared
  disposals := added before.workspace.disposals after.workspace.disposals
  services := after.slots.map fun slot => slot.bind (after.terminals.services[·]?)
  listeners := .ofWorkspace after.workspace
  scheduler :=
    after.scheduler?.bind fun scheduler =>
      (after.lint.schedulers[scheduler]?).map fun found =>
        (after.lint.pendingTimers scheduler, found.disposed)
  cached := after.factory?.map (·.size)
  extensionDisposed := after.extension.map (·.isDisposed)
  log := logSince before.workspace after.workspace

end Row

/-- The session from which records count: after passes were forgotten, none of them do. -/
def base (s : Session) : Step → Session
  | .forgetPasses => s.withLint { s.lint with passes := [], cleared := [] }
  | _ => s

/-- Does a step, or fails to, and gives its row.  Unless the next step follows at once, everything
that can run runs first. -/
def step (s : Session) (step : Except Failure Step) (follow : Bool) : Session × Row :=
  let (base, next, reply) : Session × Session × Except Failure Reply :=
    match step with
    | .error failure => (s, s, .error failure)
    | .ok step =>
      match s.perform step with
      | .ok (next, reply) => (s.base step, next, .ok reply)
      | .error failure => (s, s, .error failure)
  let next := if follow then next else next.settle
  (next, .between base next reply)

end Session
end Workbench
