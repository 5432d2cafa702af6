import Workbench.Log.Line
import Workbench.Terminal.Host
import Workbench.Terminal.Service

namespace Workbench
namespace Terminal

/-!
# The world of terminals

All services over one host, the calls to them, the clock and the timers that wait for it.  Every
operation is a function from world to world; what stands between two waits of a call is one
operation, and nothing happens in between.
-/

structure Timer where
  due : Nat
  service : Nat
  generation : Nat
  deriving DecidableEq, Repr

structure World where
  env : Environment := {}
  now : Nat := 0
  host : Host := {}
  activator : Activator := {}
  services : List Service := []
  calls : List Call := []
  queue : List Nat := []
  /-- The timers that have not fired, in the order in which they were started. -/
  timers : List Timer := []
  listeners : List CloseListener := []
  log : List Log.Line := []

namespace World

def write (w : World) (line : Log.Line) : World :=
  { w with log := w.log ++ [line] }

def modifyService (w : World) (service : Nat) (f : Service → Service) : World :=
  { w with services := w.services.modify service f }

/-- Changes a creation of a service. -/
def modifyCreation (w : World) (service generation : Nat) (f : Creation → Creation) : World :=
  w.modifyService service (·.modifyCreation generation f)

def setPhase (w : World) (service : Nat) (phase : Phase) : World :=
  w.modifyService service ({ · with phase })

def setStage (w : World) (service generation : Nat) (stage : Stage) : World :=
  w.modifyCreation service generation ({ · with stage })

def modifyCall (w : World) (call : Nat) (f : Call → Call) : World :=
  { w with calls := w.calls.modify call f }

def use (w : World) (terminal : Nat) (what : Use) : World :=
  { w with host := w.host.use terminal what }

/-- Sees to it that a call has its turn. -/
def wake (w : World) (call : Nat) : World :=
  if call ∈ w.queue then w else { w with queue := w.queue ++ [call] }

/-- Sees to it that several calls have their turn. -/
def wakeAll (w : World) (calls : List Nat) : World :=
  calls.foldl wake w

/-- The number of close listeners at the host. -/
def closeListenerCount (w : World) : Nat :=
  w.host.closeListeners.length

/-- How a terminal is named in the log. -/
def idText (terminal : Nat) : String :=
  "#" ++ Nat.repr terminal

/-! ## Services come and go -/

/-- Adds a service, which wants to know of closed terminals from the start. -/
def addService (w : World) (title : String) (resource : Option Url) (helper : Helper) : World :=
  { w with
    services := w.services ++ [({ title, resource, helper } : Service)]
    host := w.host.listen w.services.length }

/-- Whether a call to a service is still running. -/
def isCalled (w : World) (service : Nat) : Bool :=
  w.calls.any fun call => call.service == service && !call.state.isOver

/-- Drops a service to which there is no reference any more.  Its terminal stays. -/
def sweep (w : World) (service : Nat) : World :=
  match w.services[service]? with
  | some s =>
    if s.owners = 0 ∧ s.dropped = false ∧ w.isCalled service = false then
      { w.modifyService service ({ · with dropped := true }) with
        host := w.host.unlisten service }
    else w
  | none => w

/-- Takes one more reference to a service. -/
def retain (w : World) (service : Nat) : World :=
  w.modifyService service fun s => { s with owners := s.owners + 1 }

/-- Gives up a reference to a service. -/
def release (w : World) (service : Nat) : World :=
  (w.modifyService service fun s => { s with owners := s.owners - 1 }).sweep service

/-- Disposes a service: whatever terminal it holds is disposed, and it will never hold one
again. -/
def dispose (w : World) (service : Nat) : World :=
  match w.services[service]? with
  | none => w
  | some s =>
    let w := { w.setPhase service .disposed with host := w.host.unlisten service }
    match s.phase with
    | .ready active =>
      (w.write <| .info <| "Disposing terminal: title='" ++ s.title ++ "', id=" ++
        idText active.terminal).use active.terminal .disposed
    | .creating _ (some terminal) =>
      (w.write <| .info <| "Disposing terminal still being activated: title='" ++ s.title ++
        "', id=" ++ idText terminal).use terminal .disposed
    | .creating _ none =>
      w.write <| .debug <|
        "Terminal creation in flight, host terminal disposed on arrival: title='" ++ s.title ++ "'"
    | .idle | .disposed => w

/-! ## Creations -/

/-- Ends a creation: the service takes note if it still counts, and whoever waits has a turn. -/
def settle (w : World) (service generation : Nat) (outcome : Outcome) : World :=
  match w.services[service]? with
  | none => w
  | some s =>
    let told :=
      if s.phase.isCurrent generation then
        match outcome with
        | .ok active =>
          w.write <| .info <| "Terminal ready: title='" ++ s.title ++ "', id=" ++
            idText active.terminal ++ ", shell=" ++ active.shell.name
        | .error error =>
          w.write <| .debug <| "Terminal creation failed: title='" ++ s.title ++ "', error=" ++
            error.message
      else w
    let settled :=
      (told.setPhase service (s.phase.settle generation outcome)).setStage service generation
        (.settled (s.phase.verdict generation outcome))
    settled.wakeAll (((s.creation? generation).map (·.seats.calls)).getD [])

/-- Starts a timer for a creation if there is anything to wait for. -/
def startTimer (w : World) (service generation delay : Nat) : World :=
  if delay = 0 then w
  else { w with timers := w.timers ++ [⟨w.now + delay, service, generation⟩] }

/-- The environment of a terminal has been prepared, or that failed. -/
def finishActivation (w : World) (service generation terminal : Nat) (creation : Creation) :
    World :=
  match w.activator.failNext with
  | none =>
    let prepared := w.modifyCreation service generation ({ · with prepared := true })
    (prepared.use terminal (.shown creation.preserveFocus)).settle service generation
      (.ok ⟨terminal, creation.shell⟩)
  | some error =>
    let w := { w with activator := { w.activator with failNext := none } }
    match w.services[service]? with
    | none => w
    | some s =>
      let w :=
        match s.phase.release? generation with
        | some phase =>
          ((w.setPhase service phase).write <| .warn <|
            "Environment activation failed, disposing terminal: id=" ++ idText terminal ++
              ", error=" ++ error.message).use terminal .disposed
        | none => w
      w.settle service generation (.error error)

/-- The environment of a new terminal is to be prepared. -/
def startActivation (w : World) (service generation terminal : Nat) (creation : Creation)
    (resource : Option Url) : World :=
  let due := w.now + w.activator.delay
  let begun : World :=
    { w with
      activator := { w.activator with
        activations := w.activator.activations ++
          [⟨terminal, resource, creation.preserveFocus⟩] } }
  let begun := begun.setStage service generation (.activating terminal due)
  if w.activator.delay = 0 then begun.finishActivation service generation terminal creation
  else begun.startTimer service generation w.activator.delay

def answer (w : World) (service generation : Nat) (creation : Creation) : World :=
  match w.host.failNext with
  | some error =>
    { w with host := { w.host with failNext := none } }.settle service generation (.error error)
  | none =>
    let terminal := w.host.next
    let w := { w with host := w.host.create creation.options }.modifyCreation service generation
      ({ · with terminal := some terminal })
    match w.services[service]? with
    | none => w
    | some s =>
      match s.phase.record? generation terminal with
      | some phase =>
        (w.setPhase service phase).startActivation service generation terminal creation s.resource
      | none =>
        ((w.write <| .info <| "Disposing terminal created after service disposal: id=" ++
          idText terminal).use terminal .disposed).settle service generation
            (.error .terminalDisposed)

/-- Takes a creation as far as it can go now. -/
def progress (w : World) (service generation : Nat) : World :=
  match (w.services[service]?).bind (·.creation? generation) with
  | none => w
  | some creation =>
    match creation.stage with
    | .hosting due => if w.now < due then w else w.answer service generation creation
    | .activating terminal due =>
      if w.now < due then w else w.finishActivation service generation terminal creation
    | .settled _ => w

def beginCreation (w : World) (service : Nat) (preserveFocus : Bool) : World :=
  match w.services[service]? with
  | none => w
  | some s =>
    let generation := s.generation + 1
    let shellPath := s.helper.usablePath? w.env
    let creation : Creation :=
      { preserveFocus
        options := { name := s.title, shellPath }
        shell := Shell.identify? shellPath
        stage := .hosting (w.now + w.host.delay) }
    let asked := { w with host := w.host.request creation.options }
    let begun := asked.modifyService service fun s =>
      { s with
        generation
        phase := .creating generation none
        creations := s.creations ++ [creation] }
    (begun.write <| .info <| "Creating terminal: title='" ++ s.title ++ "', shell=" ++
      creation.shell.name ++ ", resource=" ++ Service.resourceText s.resource).startTimer
        service generation w.host.delay

/-! ## Calls -/

/-- Adds a call, whose turn will come. -/
def addCall (w : World) (service : Nat) (request : Request) : World :=
  { w with calls := w.calls ++ [({ service, request } : Call)] }.wake w.calls.length

def endCall (w : World) (call service : Nat) (state : CallState) : World :=
  (w.modifyCall call ({ · with state })).sweep service

/-- Does what a call asks, with a terminal that can be used. -/
def deliver (w : World) (title : String) (active : Active) : Request → World
  | .show preserveFocus => w.use active.terminal (.shown preserveFocus)
  | .sendText text =>
    (w.use active.terminal (.shown true)).use active.terminal (.sent text false)
  | .sendCommand command arguments =>
    let line := Shell.commandLine active.shell command arguments
    (((w.write <| .debug <| "Sending command: title='" ++ title ++ "', text='" ++ line ++ "'").use
      active.terminal (.shown true)).use active.terminal (.sent line true))

/-- Ends a call with the outcome of the creation it needed. -/
def conclude (w : World) (call service : Nat) (title : String) (request : Request)
    (outcome : Outcome) : World :=
  match outcome with
  | .ok active =>
    (w.deliver title active request).endCall call service (.finished (.ok ()))
  | .error error => w.endCall call service (.finished (.error error))

/-- The outcome of a creation, if it is over. -/
def outcome? (w : World) (service generation : Nat) : Option Outcome :=
  match (w.services[service]?).bind (·.creation? generation) with
  | some creation =>
    match creation.stage with
    | .settled outcome => some outcome
    | _ => none
  | none => none

/-- A call that waits for a creation has its turn: it takes the creation as far as it can go, and
ends if that is over then. -/
def attend (w : World) (call : Nat) (c : Call) (title : String) (generation : Nat) : World :=
  let w := w.progress c.service generation
  match w.outcome? c.service generation with
  | some outcome => w.conclude call c.service title c.request outcome
  | none => w

/-- A call begins to wait for a creation, if that is not over. -/
def join (w : World) (call : Nat) (c : Call) (title : String) (generation : Nat) : World :=
  match (w.services[c.service]?).bind (·.creation? generation) with
  | none => w
  | some creation =>
    match creation.stage with
    | .settled outcome => w.conclude call c.service title c.request outcome
    | _ =>
      let (seats, place) := creation.seats.sit call
      ((w.modifyCreation c.service generation ({ · with seats })).modifyCall call
        ({ · with state := .waiting generation place })).attend call c title generation

def start (w : World) (call : Nat) (c : Call) : World :=
  match w.services[c.service]? with
  | none => w
  | some s =>
    match s.phase with
    | .ready active => w.conclude call c.service s.title c.request (.ok active)
    | .disposed => w.conclude call c.service s.title c.request (.error .terminalDisposed)
    | .creating generation _ =>
      (w.write <| .debug <| "Awaiting in-flight terminal creation: title='" ++ s.title ++ "'").join
        call c s.title generation
    | .idle =>
      (w.beginCreation c.service c.request.preserveFocus).join call c s.title (s.generation + 1)

/-- A call that is to be ended leaves its place. -/
def abandon (w : World) (call : Nat) (c : Call) : World :=
  let w :=
    match c.state with
    | .waiting generation place =>
      w.modifyCreation c.service generation fun creation =>
        { creation with seats := creation.seats.leave place }
    | _ => w
  w.endCall call c.service .aborted

def poll (w : World) (call : Nat) : World :=
  match w.calls[call]? with
  | none => w
  | some c =>
    if c.state.isOver then w
    else if c.cancelled then w.abandon call c
    else
      match c.state with
      | .waiting generation _ =>
        w.attend call c (((w.services[c.service]?).map Service.title).getD "") generation
      | _ => w.start call c

/-- Asks for the end of a call.  It ends when its turn comes. -/
def abort (w : World) (call : Nat) : World :=
  match w.calls[call]? with
  | none => w
  | some c =>
    if c.state.isOver then w
    else (w.modifyCall call ({ · with cancelled := true })).wake call

/-! ## Closed terminals -/

/-- Adds a listener for closed terminals of a service. -/
def listen (w : World) (service : Nat) (reaction : Reaction) : World :=
  { w with listeners := w.listeners ++ [({ service, reaction } : CloseListener)] }

/-- Takes a listener's registration back. -/
def unlisten (w : World) (listener : Nat) : World :=
  { w with listeners := w.listeners.modify listener ({ · with active := false }) }

/-- The listeners of a service whose registration stands. -/
def listenersOf (w : World) (service : Nat) : List Nat :=
  (List.range w.listeners.length).filter fun i =>
    match w.listeners[i]? with
    | some listener => listener.active && listener.service == service
    | none => false

def notify (w : World) (listener : Nat) : World :=
  match w.listeners[listener]? with
  | none => w
  | some l =>
    let listeners := w.listeners.modify listener fun l => { l with fired := l.fired + 1 }
    let w := { w with listeners }
    match l.reaction with
    | .none => w
    | .dispose => w.dispose l.service
    | .show => w.addCall l.service (.show true)

/-- A service hears that a terminal was closed. -/
def hearClosed (w : World) (service terminal : Nat) : World :=
  match w.services[service]? with
  | none => w
  | some s =>
    if s.phase.held? = some terminal then
      let listeners := w.listenersOf service
      listeners.foldl notify <|
        (w.setPhase service .idle).write <| .info <| "Terminal closed: title='" ++ s.title ++
          "', id=" ++ idText terminal
    else w

/-- The host reports that a terminal was closed.  Everyone who was registered at that moment
hears of it. -/
def close (w : World) (terminal : Nat) : World :=
  w.host.closeListeners.foldl (fun w service => w.hearClosed service terminal) w

end World
end Terminal
end Workbench
