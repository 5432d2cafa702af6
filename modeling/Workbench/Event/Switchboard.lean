import Workbench.Event.Emitter
import Workbench.Turns

namespace Workbench
namespace Event

/-!
# Switchboards

An emitter of whole numbers, and subscriptions under names.  Listeners and the release of a
subscription may do anything in turn: subscribe, dispose, fire again or drop the emitter.  What is
still to do stands on an agenda, the next task first, and what a task gives rise to comes before
the rest.

Whom an event reaches is settled when it is fired: a registration that is taken back meanwhile is
still called, and a new one is not.  In what order listeners are called is left open; it is a
parameter of every run.
-/

/-- Something to do with a switchboard. -/
inductive Action where
  /-- Registers one listener, which records its calls under `id`, once for every name. -/
  | subscribe (id : String) (names : List String) (reaction : List Action)
  /-- Makes a subscription whose release is recorded under its name. -/
  | custom (id : String) (reaction : List Action)
  /-- Makes a subscription that holds nothing. -/
  | empty (id : String)
  /-- Releases what a name's subscription holds. -/
  | dispose (id : String)
  /-- Releases what a name's subscription holds, and forgets the name. -/
  | drop (id : String)
  /-- Fires a value. -/
  | fire (value : Int)
  /-- Fires the number after the present one, as long as that is below a bound. -/
  | fireNext (below : Int)
  /-- Gives up the emitter. -/
  | dropEmitter

structure Listener where
  id : String
  reaction : List Action

/-- What a subscription holds until it is released. -/
inductive Held where
  | registration (number : Nat)
  | custom (id : String) (reaction : List Action)

inductive Happening where
  /-- A registration was called because of the event of a number. -/
  | called (event registration : Nat) (id : String) (value : Int)
  /-- A subscription of its own kind was released. -/
  | released (subscription : Nat) (id : String)
  deriving DecidableEq, Repr

namespace Happening

/-- How it is recorded: under a name, with the value or -1 for a release. -/
def record : Happening → String × Int
  | called _ _ id value => (id, value)
  | released _ id => (id, -1)

end Happening

structure Fired where
  value : Int
  registrations : List Nat
  deriving DecidableEq, Repr

inductive Task where
  | act (action : Action) (value : Int)
  | register (name : String) (listener : Listener)
  | call (event registration : Nat) (listener : Listener) (value : Int)
  | release (subscription : Nat)

structure Switchboard where
  emitter : Option (Emitter Listener) := some {}
  /-- Every subscription that was ever made: what it holds, and nothing once it is released. -/
  subscriptions : List (Option Held) := []
  /-- The names and the subscriptions kept under them, in the order of the names. -/
  table : List (String × Nat) := []
  history : List Happening := []
  events : List Fired := []
  agenda : List Task := []

/-- An order in which the registrations that the event of a number reaches are called. -/
abbrev Arrangement := Nat → List (Nat × Listener) → List (Nat × Listener)

namespace Switchboard

def inOrder : Arrangement := fun _ registrations => registrations

/-- Puts tasks in front of the agenda. -/
def push (s : Switchboard) (tasks : List Task) : Switchboard :=
  { s with agenda := tasks ++ s.agenda }

/-- A table with one name more or changed. -/
def setName (name : String) (subscription : Nat) : List (String × Nat) → List (String × Nat)
  | [] => [(name, subscription)]
  | entry :: rest =>
    if entry.1 = name then (name, subscription) :: rest
    else if name < entry.1 then (name, subscription) :: entry :: rest
    else entry :: setName name subscription rest

/-- Makes a subscription under a name.  What stood there before is dropped after that. -/
def store (s : Switchboard) (name : String) (held : Option Held) : Switchboard :=
  let stored : Switchboard :=
    { s with
      subscriptions := s.subscriptions ++ [held]
      table := setName name s.subscriptions.length s.table }
  match s.table.lookup name with
  | some old => stored.push [.release old]
  | none => stored

/-- Registers a listener, if there is an emitter. -/
def register (s : Switchboard) (name : String) (listener : Listener) : Switchboard :=
  match s.emitter with
  | none => s
  | some e =>
    let registered : Switchboard := { s with emitter := some (e.subscribe listener) }
    registered.store name (some (.registration e.next))

/-- Takes a registration back, if there is an emitter. -/
def unregister (s : Switchboard) (number : Nat) : Switchboard :=
  { s with emitter := s.emitter.map (·.unsubscribe number) }

/-- Fires a value, if there is an emitter. -/
def fire (arrange : Arrangement) (s : Switchboard) (value : Int) : Switchboard :=
  match s.emitter with
  | none => s
  | some e =>
    let event := s.events.length
    let reached := arrange event e.registrations
    let fired : Switchboard :=
      { s with events := s.events ++ [⟨value, reached.map Prod.fst⟩] }
    fired.push (reached.map fun r => .call event r.1 r.2 value)

/-- Releases a subscription.  It counts as released before anything else comes of that. -/
def release (s : Switchboard) (subscription : Nat) : Switchboard :=
  let released : Switchboard := { s with subscriptions := s.subscriptions.set subscription none }
  match s.subscriptions[subscription]? with
  | some (some (.registration number)) => released.unregister number
  | some (some (.custom id reaction)) =>
    let noted : Switchboard :=
      { released with history := s.history ++ [.released subscription id] }
    noted.push (reaction.map (.act · (-1)))
  | _ => s

def act (arrange : Arrangement) (s : Switchboard) (value : Int) : Action → Switchboard
  | .subscribe id names reaction => s.push (names.map (.register · ⟨id, reaction⟩))
  | .custom id reaction => s.store id (some (.custom id reaction))
  | .empty id => s.store id none
  | .dispose id =>
    match s.table.lookup id with
    | some subscription => s.push [.release subscription]
    | none => s
  | .drop id =>
    match s.table.lookup id with
    | some subscription =>
      let forgotten : Switchboard :=
        { s with table := s.table.filter fun entry => entry.1 ≠ id }
      forgotten.push [.release subscription]
    | none => s
  | .fire value => s.fire arrange value
  | .fireNext below => if value < below then s.fire arrange (value + 1) else s
  | .dropEmitter => { s with emitter := none }

def perform (arrange : Arrangement) (s : Switchboard) : Task → Switchboard
  | .act action value => s.act arrange value action
  | .register name listener => s.register name listener
  | .call event registration listener value =>
    let noted : Switchboard :=
      { s with history := s.history ++ [.called event registration listener.id value] }
    noted.push (listener.reaction.map (.act · value))
  | .release subscription => s.release subscription

def step (arrange : Arrangement) (s : Switchboard) : Switchboard :=
  match s.agenda with
  | [] => s
  | task :: agenda => ({ s with agenda } : Switchboard).perform arrange task

/-- Does the tasks of the agenda, and at most so many. -/
def run (arrange : Arrangement) (limit : Nat) (s : Switchboard) : Switchboard :=
  turns (·.agenda.isEmpty) (step arrange) limit s

/-- Forgets all names and drops their subscriptions. -/
def dropAll (s : Switchboard) : Switchboard :=
  let forgotten : Switchboard := { s with table := [] }
  forgotten.push (s.table.map fun entry => .release entry.2)

/-- Whether a subscription holds nothing any more. -/
def isDisposed (s : Switchboard) (subscription : Nat) : Bool :=
  match s.subscriptions[subscription]? with
  | some (some _) => false
  | _ => true

def describeSubscription (s : Switchboard) (subscription : Nat) : String :=
  Text.describeRecord "Subscription" [("disposed", Text.describe (s.isDisposed subscription))]

end Switchboard
end Event
end Workbench
