import Workbench.Terminal.World
import Workbench.Turns

namespace Workbench
namespace Terminal
namespace World

/-!
# The passing of time

Calls whose turn has come run one after another until there is none left.  Time passes from one
timer's end to the next; what is woken there runs before time goes on.
-/

/-- The first call in the queue has its turn. -/
def turn (w : World) : World :=
  match w.queue with
  | [] => w
  | call :: rest => { w with queue := rest }.poll call

/-- Runs until no call is left in the queue.  A call has at most one turn that it has in advance
and one more when the creation it waits for ends. -/
def run (w : World) : World :=
  turns (·.queue.isEmpty) turn (w.queue.length + 2 * w.calls.length) w

/-- Wakes those who wait for the creation of a timer. -/
def fire (w : World) (timer : Timer) : World :=
  w.wakeAll <|
    ((((w.services[timer.service]?).bind (·.creation? timer.generation)).map
      (·.seats.calls)).getD [])

/-- The end of the timer that fires first. -/
def nextDue? (w : World) : Option Nat :=
  (w.timers.map Timer.due).min?

/-- All timers that end at a time fire, in the order in which they were started. -/
def fireAt (w : World) (time : Nat) : World :=
  let firing := w.timers.filter fun timer => timer.due == time
  firing.foldl fire
    { w with now := time, timers := w.timers.filter fun timer => timer.due != time }

/-- Lets so many milliseconds pass.  A creation has two timers at most, one after the other. -/
def advance (w : World) (milliseconds : Nat) : World :=
  let finish := w.now + milliseconds
  let fire (w : World) (due : Nat) : World := (w.fireAt due).run
  { passTime nextDue? fire finish (2 * w.run.timers.length + 1) w.run with now := finish }

end World
end Terminal
end Workbench
