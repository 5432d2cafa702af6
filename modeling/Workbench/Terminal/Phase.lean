import Workbench.Error
import Workbench.Shell.Kind
import Workbench.Terminal.Options

namespace Workbench
namespace Terminal

/-!
# The phases of a service

A service has no terminal, or one is being created, or it has one, or it is disposed.  Creations
are numbered; what a creation reports counts only while the service is still waiting for that very
creation, and `record?`, `release?` and `settle` leave any other phase as it is.
-/

/-- A terminal that can be used, with the kind of shell it runs. -/
structure Active where
  /-- The terminal's position among those of the host. -/
  terminal : Nat
  /-- The kind of shell it was created for. -/
  shell : Shell.Kind
  deriving DecidableEq, Repr

abbrev Outcome := Except Error Active

/-- Two results are equal if both succeeded with equal values or both failed with equal errors. -/
instance decidableEqResult {ε α : Type} [DecidableEq ε] [DecidableEq α] :
    DecidableEq (Except ε α)
  | .ok a, .ok b => decidable_of_iff (a = b) (by simp)
  | .error a, .error b => decidable_of_iff (a = b) (by simp)
  | .ok _, .error _ => isFalse nofun
  | .error _, .ok _ => isFalse nofun

inductive Phase where
  | idle
  /-- A creation is under way; the host may have handed its terminal out already. -/
  | creating (generation : Nat) (slot : Option Nat)
  | ready (active : Active)
  | disposed
  deriving DecidableEq, Repr

namespace Phase

/-- Whether a creation is the one that the service waits for. -/
def isCurrent (phase : Phase) (generation : Nat) : Bool :=
  match phase with
  | creating current _ => current == generation
  | _ => false

/-- The terminal that the service holds: the one in use, or the one handed out for the creation
under way. -/
def held? : Phase → Option Nat
  | creating _ slot => slot
  | ready active => some active.terminal
  | _ => none

def active? : Phase → Option Active
  | ready active => some active
  | _ => none

/-- Whether there is a terminal in use. -/
def isReady (phase : Phase) : Bool :=
  phase.active?.isSome

/-- Takes the terminal of a creation in, if that creation still counts. -/
def record? (phase : Phase) (generation terminal : Nat) : Option Phase :=
  match phase with
  | creating current _ =>
    if current = generation then some (creating current (some terminal)) else none
  | _ => none

/-- Gives the terminal of a creation back, if that creation still counts and has it. -/
def release? (phase : Phase) (generation : Nat) : Option Phase :=
  match phase with
  | creating current (some _) =>
    if current = generation then some (creating current none) else none
  | _ => none

/-- The phase after the end of a creation that still counts. -/
def after : Outcome → Phase
  | .ok active => ready active
  | .error _ => idle

/-- The phase after the end of a creation. -/
def settle (phase : Phase) (generation : Nat) (outcome : Outcome) : Phase :=
  if phase.isCurrent generation then after outcome else phase

/-- What those who waited for a creation are told.  A terminal that nobody counts on any more is
not handed to them. -/
def verdict (phase : Phase) (generation : Nat) (outcome : Outcome) : Outcome :=
  if phase.isCurrent generation then outcome
  else
    match outcome with
    | .ok _ => .error (if phase = .disposed then .terminalDisposed else .terminalClosed)
    | .error error => .error error

theorem settle_of_not_current {phase : Phase} {generation : Nat} {outcome : Outcome}
    (h : phase.isCurrent generation = false) : phase.settle generation outcome = phase := by
  simp [settle, h]

/-- Nobody who waited for a creation that does not count is handed a terminal. -/
theorem verdict_of_not_current {phase : Phase} {generation : Nat} {outcome : Outcome}
    (h : phase.isCurrent generation = false) :
    ∃ error, phase.verdict generation outcome = .error error := by
  cases outcome with
  | ok active => exact ⟨_, by simp [verdict, h]; rfl⟩
  | error error => exact ⟨error, by simp [verdict, h]⟩

theorem settle_disposed (generation : Nat) (outcome : Outcome) :
    Phase.disposed.settle generation outcome = .disposed := by
  simp [settle, isCurrent]

end Phase

/-- The places of those who wait for a creation.  A place that became free is taken again by the
next one who comes, the latest first. -/
structure Seats where
  places : List (Option Nat) := []
  free : List Nat := []
  deriving DecidableEq, Repr

namespace Seats

/-- The calls at the places, in the order of the places. -/
def calls (seats : Seats) : List Nat :=
  seats.places.filterMap id

def sit (seats : Seats) (call : Nat) : Seats × Nat :=
  match seats.free with
  | place :: free => ({ places := seats.places.set place (some call), free }, place)
  | [] => ({ seats with places := seats.places ++ [some call] }, seats.places.length)

def leave (seats : Seats) (place : Nat) : Seats :=
  { places := seats.places.set place none, free := place :: seats.free }

end Seats

inductive Stage where
  /-- The host is asked for a terminal and answers at a certain time. -/
  | hosting (due : Nat)
  /-- The environment is being prepared in the terminal until a certain time. -/
  | activating (terminal : Nat) (due : Nat)
  /-- It is over. -/
  | settled (outcome : Outcome)
  deriving DecidableEq, Repr

structure Creation where
  preserveFocus : Bool
  options : Options
  shell : Shell.Kind
  stage : Stage
  terminal : Option Nat := none
  /-- Whether the environment has been prepared in that terminal. -/
  prepared : Bool := false
  seats : Seats := {}
  deriving DecidableEq, Repr

end Terminal
end Workbench
