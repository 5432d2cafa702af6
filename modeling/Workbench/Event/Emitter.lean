import Workbench.Text.Description

namespace Workbench
namespace Event

/-!
# Emitters

An emitter keeps its registrations under numbers that it never gives out twice, so taking a
registration back can only ever meet that one, whatever else shares its listener.
-/

/-- A source of events, with a listener for every registration. -/
structure Emitter (α : Type) where
  /-- The listeners and the numbers they are registered under, the oldest first. -/
  registrations : List (Nat × α) := []
  /-- The number of the next registration.  It has no bound; a counter of 64 bits, which starts over
  when it is used up, gives out the same numbers to fewer than `2 ^ 64` registrations. -/
  next : Nat := 1

namespace Emitter

variable {α : Type}

/-- Registers a listener, under `e.next`. -/
def subscribe (e : Emitter α) (listener : α) : Emitter α :=
  { registrations := e.registrations ++ [(e.next, listener)], next := e.next + 1 }

/-- Takes the registration of a number back. -/
def unsubscribe (e : Emitter α) (number : Nat) : Emitter α :=
  { e with registrations := e.registrations.filter fun r => r.1 ≠ number }

/-- The number of registered listeners. -/
def count (e : Emitter α) : Nat :=
  e.registrations.length

theorem mem_unsubscribe {e : Emitter α} {number : Nat} {r : Nat × α} :
    r ∈ (e.unsubscribe number).registrations ↔ r ∈ e.registrations ∧ r.1 ≠ number := by
  simp [unsubscribe]

/-- An emitter in words, of which only the number of listeners shows. -/
def describeCount (listeners : Nat) : String :=
  Text.describeRecord "Emitter" [("listeners", Text.describe listeners)]

instance : Text.Describe (Emitter α) where
  describe e := describeCount e.count

end Emitter
end Event
end Workbench
