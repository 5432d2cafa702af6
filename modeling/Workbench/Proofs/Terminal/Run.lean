import Mathlib.Data.List.Induction
import Workbench.Terminal.Clock

namespace Workbench
namespace Terminal

/-!
# Runs

A run is what can happen to all services over one host, one action after another, from a world
without services on.  Calls have their turns in any order and as often as one likes: the queue of
the world and its timers are a proposal of the executor, which `arrange` may change at any time.
Host and activator may take any time for each of their answers and fail whenever they like.

What lies between two waits of a call is one action, so a `Moment` of a run, a world with the action
that is done in it, is also the unit in which things happen at the same time.  All later statements
about what happened in a run speak of the moments in its `past`.
-/

/-- What can happen next. -/
inductive Action where
  /-- A service is made. -/
  | addService (title : String) (resource : Option Url) (helper : Helper)
  /-- Someone takes one more reference to a service. -/
  | retain (service : Nat)
  /-- Someone gives up a reference to a service. -/
  | release (service : Nat)
  /-- A service is disposed. -/
  | dispose (service : Nat)
  /-- A call to a service is made, which has no turn yet. -/
  | call (service : Nat) (request : Request)
  /-- A call has its turn. -/
  | poll (call : Nat)
  /-- The end of a call is asked for. -/
  | abort (call : Nat)
  /-- The host reports a terminal closed, its own or any other. -/
  | close (terminal : Nat)
  /-- Someone wants to know of closed terminals of a service. -/
  | listen (service : Nat) (reaction : Reaction)
  /-- Someone does not want to know any more. -/
  | unlisten (listener : Nat)
  /-- From now on the next creation fails, or does not. -/
  | failCreation (error : Option Error)
  /-- From now on the next activation fails, or does not. -/
  | failActivation (error : Option Error)
  /-- From now on creations and activations take so long. -/
  | delay (creation activation : Nat)
  /-- Time passes. -/
  | pass (milliseconds : Nat)
  /-- The executor arranges its queue and its timers anew. -/
  | arrange (queue : List Nat) (timers : List Timer)

namespace World

def perform (w : World) : Action → World
  | .addService title resource helper => w.addService title resource helper
  | .retain service => w.retain service
  | .release service => w.release service
  | .dispose service => w.dispose service
  | .call service request => w.addCall service request
  | .poll call => w.poll call
  | .abort call => w.abort call
  | .close terminal => w.close terminal
  | .listen service reaction => w.listen service reaction
  | .unlisten listener => w.unlisten listener
  | .failCreation error => { w with host := { w.host with failNext := error } }
  | .failActivation error => { w with activator := { w.activator with failNext := error } }
  | .delay creation activation =>
    { w with
      host := { w.host with delay := creation }
      activator := { w.activator with delay := activation } }
  | .pass milliseconds => { w with now := w.now + milliseconds }
  | .arrange queue timers => { w with queue, timers }

end World

/-- A world and what is done in it. -/
structure Moment where
  before : World
  action : Action

def Moment.after (m : Moment) : World :=
  m.before.perform m.action

namespace World

/-- The moments in which one action after another is done. -/
def history (w : World) : List Action → List Moment
  | [] => []
  | action :: rest => ⟨w, action⟩ :: (w.perform action).history rest

theorem history_append (w : World) (first second : List Action) :
    w.history (first ++ second) =
      w.history first ++ (first.foldl perform w).history second := by
  induction first generalizing w with
  | nil => rfl
  | cons action rest inductionHypothesis =>
      simp only [List.cons_append, history, List.foldl_cons, inductionHypothesis]

end World

/-- What happens in an environment, the first action first. -/
structure Run where
  env : Environment := {}
  actions : List Action

namespace Run

def world (run : Run) : World :=
  run.actions.foldl World.perform { env := run.env }

/-- The moments of a run, the first one first. -/
def past (run : Run) : List Moment :=
  World.history { env := run.env } run.actions

def extend (run : Run) (more : List Action) : Run :=
  { run with actions := run.actions ++ more }

/-- What happened in a run since an earlier part of it. -/
def since (run : Run) (more : List Action) : List Moment :=
  run.world.history more

theorem world_extend (run : Run) (more : List Action) :
    (run.extend more).world = more.foldl World.perform run.world := by
  simp only [world, extend, List.foldl_append]

theorem past_extend (run : Run) (more : List Action) :
    (run.extend more).past = run.past ++ run.since more :=
  World.history_append _ _ _

def step (run : Run) (action : Action) : Run :=
  run.extend [action]

@[simp]
theorem world_step (run : Run) (action : Action) :
    (run.step action).world = run.world.perform action :=
  run.world_extend [action]

@[simp]
theorem past_step (run : Run) (action : Action) :
    (run.step action).past = run.past ++ [⟨run.world, action⟩] :=
  run.past_extend [action]

theorem extend_extend (run : Run) (first second : List Action) :
    (run.extend first).extend second = run.extend (first ++ second) := by
  simp only [extend, List.append_assoc]

theorem extend_nil (run : Run) : run.extend [] = run := by
  simp only [extend, List.append_nil]

theorem extend_cons (run : Run) (action : Action) (rest : List Action) :
    run.extend (action :: rest) = (run.step action).extend rest := by
  rw [step, extend_extend, List.singleton_append]

theorem since_cons (run : Run) (action : Action) (rest : List Action) :
    run.since (action :: rest) = ⟨run.world, action⟩ :: (run.step action).since rest := by
  rw [since, World.history, since, world_step]

theorem extend_concat (run : Run) (more : List Action) (action : Action) :
    run.extend (more ++ [action]) = (run.extend more).step action := by
  rw [step, extend_extend]

theorem since_concat (run : Run) (more : List Action) (action : Action) :
    run.since (more ++ [action]) = run.since more ++ [⟨(run.extend more).world, action⟩] := by
  rw [since, World.history_append, world_extend]
  rfl

/-- What holds at the start and is kept by every action holds of every run. -/
theorem induction {motive : Run → Prop} (start : ∀ env, motive ⟨env, []⟩)
    (step : ∀ run action, motive run → motive (run.step action)) (run : Run) : motive run := by
  rcases run with ⟨env, actions⟩
  induction actions using List.reverseRecOn with
  | nil => exact start env
  | append_singleton earlier action inductionHypothesis =>
      exact step ⟨env, earlier⟩ action inductionHypothesis

/-- Every moment of a run is the last one of an earlier run. -/
theorem exists_of_mem_past {run : Run} {m : Moment} (member : m ∈ run.past) :
    ∃ (earlier : Run) (later : List Action),
      m = ⟨earlier.world, m.action⟩ ∧ run = (earlier.step m.action).extend later := by
  induction run using Run.induction with
  | start env => cases member
  | step run action inductionHypothesis =>
      rw [past_step, List.mem_append, List.mem_singleton] at member
      rcases member with member | same
      · rcases inductionHypothesis member with ⟨earlier, later, moment, rest⟩
        refine ⟨earlier, later ++ [action], moment, ?_⟩
        rw [rest, step, extend_extend]
      · subst same
        exact ⟨run, [], rfl, (extend_nil _).symm⟩

end Run

end Terminal
end Workbench
