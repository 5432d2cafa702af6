import Workbench.Lint.Config
import Workbench.Lint.Editor
import Workbench.Lint.Linter
import Workbench.Lint.Reason
import Workbench.Lint.SectionChange
import Workbench.Log.Line
import Workbench.Turns

namespace Workbench
namespace Lint

/-!
# The world of linting

Schedulers decide, for each event of the editor, whether a lint pass is due, and start it as a
task of its own.  A pass that is delayed keeps the deadline it was given when it was scheduled;
disposing the scheduler ends it.  The engine and the lookup of linters keep a record of what was
asked of them, and fail when they are told to.
-/

/-- What the engine was asked to lint. -/
inductive Pass where
  | document (uri : Url) (reason : Reason)
  | openFiles (reason : Reason)
  deriving DecidableEq

/-- What is asked when linters are looked up: for which document, if for one, and whether the answer
must be found out afresh and not remembered. -/
structure Inquiry where
  afresh : Bool
  resource : Option Url
  deriving DecidableEq

/-- The kinds of event that a scheduler listens to. -/
inductive Channel where
  | opened
  | saved
  | closed
  | configuration
  | interpreter
  deriving DecidableEq, Repr

namespace Channel

def all : List Channel :=
  [opened, saved, closed, configuration, interpreter]

/-- Whether the channel tells of documents. -/
def ofDocuments : Channel → Bool
  | opened | saved | closed => true
  | _ => false

end Channel

structure Delayed where
  reason : Reason
  due : Nat
  ended : Bool := false
  deriving DecidableEq

structure Scheduler where
  config : Config
  disposed : Bool := false
  dropped : Bool := false
  pending : List Nat := []
  deriving DecidableEq

instance : Text.Describe Scheduler where
  describe scheduler := Text.describeRecord "LintScheduler"
    [("config", Text.describe scheduler.config), ("disposed", Text.describe scheduler.disposed)]

/-- Something that runs when its turn comes. -/
inductive Task where
  /-- A lint pass. -/
  | pass (pass : Pass)
  /-- Finding out whether a saved document is a linter's configuration file. -/
  | lookUp (scheduler : Nat) (uri : Url) (baseName : String)
  /-- A delayed pass waits for its deadline, or runs when that is past. -/
  | delayed (index : Nat)
  deriving DecidableEq

structure Timer where
  due : Nat
  index : Nat
  deriving DecidableEq

/-- All schedulers and what they work with. -/
structure World where
  now : Nat := 0
  hasRuntime : Bool := true
  editors : Editors := {}
  table : SwitchTable := {}
  linters : List Linter := []
  lookups : List Inquiry := []
  failLookups : Bool := false
  passes : List Pass := []
  cleared : List Url := []
  failEngine : Bool := false
  listeners : List (Channel × Nat) := []
  schedulers : List Scheduler := []
  delayed : List Delayed := []
  /-- The timers that have not fired, in the order in which they were started. -/
  timers : List Timer := []
  queue : List Task := []
  log : List Log.Line := []

namespace World

def write (w : World) (line : Log.Line) : World :=
  { w with log := w.log ++ [line] }

def spawn (w : World) (task : Task) : World :=
  { w with queue := w.queue ++ [task] }

def modifyScheduler (w : World) (scheduler : Nat) (f : Scheduler → Scheduler) : World :=
  { w with schedulers := w.schedulers.modify scheduler f }

def hasEnded (w : World) (index : Nat) : Bool :=
  match w.delayed[index]? with
  | some pass => pass.ended
  | none => true

/-- The number of delayed passes of a scheduler that are not over. -/
def pendingTimers (w : World) (scheduler : Nat) : Nat :=
  match w.schedulers[scheduler]? with
  | some s => s.pending.countP fun index => !w.hasEnded index
  | none => 0

/-- The number of listeners on channels that fulfil a condition. -/
def listenerCount (w : World) (which : Channel → Bool) : Nat :=
  w.listeners.countP fun entry => which entry.1

/-! ## Passes -/

def lint (w : World) (pass : Pass) : World :=
  let asked := { w with passes := w.passes ++ [pass] }
  let error := Error.lint "linter crashed"
  match pass with
  | .document uri reason =>
    if w.failEngine then
      asked.write <| .debug <| "Lint failed: uri=" ++ uri.text ++ ", reason=" ++ reason.name ++
        ", error=" ++ error.message
    else asked
  | .openFiles reason =>
    let asked := asked.write <| .debug <| "Linting open files: reason=" ++ reason.name
    if w.failEngine then
      asked.write <| .debug <| "Lint of open files failed: reason=" ++ reason.name ++ ", error=" ++
        error.message
    else asked

/-- Schedules a pass over all open documents, unless the scheduler is disposed.  Passes that are
over are forgotten on this occasion. -/
def schedule (w : World) (scheduler : Nat) (delay : Nat) (reason : Reason) : World :=
  match w.schedulers[scheduler]? with
  | none => w
  | some s =>
    if s.disposed then w
    else
      let index := w.delayed.length
      let kept := s.pending.filter fun index => !w.hasEnded index
      { w.modifyScheduler scheduler fun s => { s with pending := kept ++ [index] } with
        delayed := w.delayed ++ [({ reason, due := w.now + delay } : Delayed)] }.spawn
          (.delayed index)

/-! ## Events -/

def onOpened (w : World) (scheduler : Nat) (document : Document) : World :=
  match w.schedulers[scheduler]? with
  | none => w
  | some s => if s.disposed then w else w.spawn (.pass (.document document.uri .opened))

/-- A document was saved: it is linted, or else looked at as a possible configuration file. -/
def onSaved (w : World) (scheduler : Nat) (document : Document) : World :=
  match w.schedulers[scheduler]? with
  | none => w
  | some s =>
    if s.disposed then w
    else if document.languageId == s.config.languageId &&
        (w.table.switches document.uri).lintsOnSave then
      w.spawn (.pass (.document document.uri .saved))
    else
      match document.baseName? with
      | some baseName => w.spawn (.lookUp scheduler document.uri baseName)
      | none => w

/-- A document was closed in one editor. -/
def onClosed (w : World) (scheduler : Nat) (document : Document) : World :=
  match w.schedulers[scheduler]? with
  | none => w
  | some s =>
    if s.disposed || document.filePath?.isNone then w
    else if w.editors.isOpen document.uri then
      w.write <| .debug <| "Document still open elsewhere: uri=" ++ document.uri.text
    else
      { w with cleared := w.cleared ++ [document.uri] }.write <| .debug <|
        "Clearing diagnostics: uri=" ++ document.uri.text

def onConfigurationChanged (w : World) (scheduler : Nat) (change : Change) : World :=
  match w.schedulers[scheduler]? with
  | none => w
  | some s =>
    if s.disposed then w
    else
      (w.editors.documents.filter fun document =>
        change.affects s.config.configSection (some document.uri)).foldl
          (fun w document => w.spawn (.pass (.document document.uri .configurationChanged))) w

def onInterpreterChanged (w : World) (scheduler : Nat) : World :=
  match w.schedulers[scheduler]? with
  | none => w
  | some s => if s.disposed then w else w.spawn (.pass (.openFiles .interpreterChanged))

/-- Tells everyone who listens to a channel. -/
def tell (w : World) (channel : Channel) (event : World → Nat → World) : World :=
  ((w.listeners.filter fun entry => entry.1 == channel).map Prod.snd).foldl event w

/-- Opens a document in one more editor. -/
def openDocument (w : World) (document : Document) : World :=
  { w with editors := w.editors.add document }.tell .opened fun w scheduler =>
    w.onOpened scheduler document

def saveDocument (w : World) (document : Document) : World :=
  w.tell .saved fun w scheduler => w.onSaved scheduler document

/-- Closes a document in one editor. -/
def closeDocument (w : World) (document : Document) : World :=
  { w with editors := w.editors.close document.uri }.tell .closed fun w scheduler =>
    w.onClosed scheduler document

def changeConfiguration (w : World) (change : Change) : World :=
  w.tell .configuration fun w scheduler => w.onConfigurationChanged scheduler change

def changeInterpreter (w : World) : World :=
  w.tell .interpreter onInterpreterChanged

/-! ## Schedulers come and go -/

/-- Adds a scheduler, which listens to all channels from the start. -/
def addScheduler (w : World) (config : Config) : World :=
  let scheduler := w.schedulers.length
  let added : World :=
    { w with
      schedulers := w.schedulers ++ [({ config } : Scheduler)]
      listeners := w.listeners ++ Channel.all.map fun channel => (channel, scheduler) }
  let started :=
    if config.runStartupPass then
      (added.write <| .debug <| "Scheduling startup lint pass: delay=" ++
        Nat.repr config.startupDelay ++ "ms").schedule scheduler config.startupDelay .startup
    else added
  started.write <| .info <| "Lint scheduler started: language=" ++ config.languageId ++
    ", section=" ++ config.configSection

/-- Adds a scheduler, if there is anything to run its tasks on. -/
def startScheduler (w : World) (config : Config) : Except Error World :=
  if w.hasRuntime then .ok (w.addScheduler config) else .error .noRuntime

def endAll (delayed : List Delayed) (indices : List Nat) : List Delayed :=
  indices.foldl (fun delayed index => delayed.modify index ({ · with ended := true })) delayed

/-- Disposes a scheduler: it listens to nothing any more, and its delayed passes are ended. -/
def disposeScheduler (w : World) (scheduler : Nat) : World :=
  match w.schedulers[scheduler]? with
  | none => w
  | some s =>
    if s.disposed then w
    else
      { w.modifyScheduler scheduler fun s => { s with disposed := true, pending := [] } with
        listeners := w.listeners.filter fun entry => entry.2 != scheduler
        delayed := endAll w.delayed s.pending }.write <| .info <|
          "Lint scheduler disposed: subscriptions=" ++ Nat.repr Channel.all.length ++
            ", aborted_timers=" ++ Nat.repr s.pending.length

/-- Drops a scheduler, which disposes it. -/
def dropScheduler (w : World) (scheduler : Nat) : World :=
  (w.disposeScheduler scheduler).modifyScheduler scheduler ({ · with dropped := true })

/-! ## Tasks -/

/-- Looks linters up afresh for a saved document, and schedules a pass if it configures one of
them. -/
def lookUp (w : World) (scheduler : Nat) (uri : Url) (baseName : String) : World :=
  let asked := { w with lookups := w.lookups ++ [{ afresh := true, resource := some uri }] }
  if w.failLookups then
    asked.write <| .debug <| "Active linter lookup failed: uri=" ++ uri.text ++ ", error=" ++
      (Error.linterLookup "linter manager unavailable").message
  else
    match w.linters.find? (·.watches baseName), w.schedulers[scheduler]? with
    | some linter, some s =>
      if s.dropped then asked
      else
        (asked.write <| .info <| "Linter config file saved, rescanning open files: file=" ++
          baseName ++ ", linter=" ++ linter.name).schedule scheduler s.config.rescanDelay
            .configFileSaved
    | _, _ => asked

/-- A delayed pass runs if it is due, and waits otherwise. -/
def awaitDue (w : World) (index : Nat) : World :=
  match w.delayed[index]? with
  | none => w
  | some pass =>
    if pass.ended then w
    else if pass.due ≤ w.now then
      { w with delayed := w.delayed.modify index ({ · with ended := true }) }.lint
        (.openFiles pass.reason)
    else { w with timers := w.timers ++ [⟨pass.due, index⟩] }

def perform (w : World) : Task → World
  | .pass pass => w.lint pass
  | .lookUp scheduler uri baseName => w.lookUp scheduler uri baseName
  | .delayed index => w.awaitDue index

/-- The first task in the queue has its turn. -/
def turn (w : World) : World :=
  match w.queue with
  | [] => w
  | task :: rest => { w with queue := rest }.perform task

/-- Runs until no task is left.  A task adds at most one other, which adds none. -/
def run (w : World) : World :=
  turns (·.queue.isEmpty) turn (2 * w.queue.length) w

/-- The end of the timer that fires first. -/
def nextDue? (w : World) : Option Nat :=
  (w.timers.map Timer.due).min?

/-- All timers that end at a time fire, in the order in which they were started. -/
def fireAt (w : World) (time : Nat) : World :=
  let firing := w.timers.filter fun timer => timer.due == time
  { w with
    now := time
    timers := w.timers.filter fun timer => timer.due != time
    queue := w.queue ++ firing.map fun timer => .delayed timer.index }

def advance (w : World) (milliseconds : Nat) : World :=
  let finish := w.now + milliseconds
  let fire (w : World) (due : Nat) : World := (w.fireAt due).run
  { passTime nextDue? fire finish (w.run.timers.length + 1) w.run with now := finish }

end World
end Lint
end Workbench
