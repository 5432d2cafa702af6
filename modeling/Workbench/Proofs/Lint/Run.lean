import Mathlib.Data.List.Induction
import Workbench.Lint.World

namespace Workbench
namespace Lint

/-!
# Runs of schedulers

A run is what can happen to all schedulers in one editor, one action after another.  Tasks have
their turns in any order, the clock goes on by any amount at any time, and a timer fires at any time
from its deadline on; the executor, which serves tasks in order and stops at each deadline, is one
among all that do so.
-/

/-- What can happen next. -/
inductive Action where
  /-- A scheduler is made, if there is a runtime. -/
  | start (config : Config)
  | dispose (scheduler : Nat)
  | drop (scheduler : Nat)
  | openDocument (document : Document)
  | saveDocument (document : Document)
  | closeDocument (document : Document)
  | changeConfiguration (change : Change)
  | changeInterpreter
  /-- From now on these switches are in effect. -/
  | setSwitches (table : SwitchTable)
  /-- From now on these linters are active. -/
  | setLinters (linters : List Linter)
  /-- From now on lookups fail, or do not. -/
  | failLookups (fail : Bool)
  /-- From now on the engine fails, or does not. -/
  | failEngine (fail : Bool)
  /-- The task at a place in the queue has its turn. -/
  | turn (place : Nat)
  /-- Time passes. -/
  | pass (milliseconds : Nat)
  /-- The timers of a deadline fire, if it is past. -/
  | fire (due : Nat)

namespace World

/-- The task at a place in the queue has its turn. -/
def turnAt (w : World) (place : Nat) : World :=
  match w.queue[place]? with
  | some task => { w with queue := w.queue.eraseIdx place }.perform task
  | none => w

/-- The timers of a deadline fire. -/
def fire (w : World) (due : Nat) : World :=
  { w with
    timers := w.timers.filter fun timer => timer.due != due
    queue := w.queue ++ (w.timers.filter fun timer => timer.due == due).map fun timer =>
      .delayed timer.index }

def act (w : World) : Action → World
  | .start config => (w.startScheduler config).toOption.getD w
  | .dispose scheduler => w.disposeScheduler scheduler
  | .drop scheduler => w.dropScheduler scheduler
  | .openDocument document => w.openDocument document
  | .saveDocument document => w.saveDocument document
  | .closeDocument document => w.closeDocument document
  | .changeConfiguration change => w.changeConfiguration change
  | .changeInterpreter => w.changeInterpreter
  | .setSwitches table => { w with table }
  | .setLinters linters => { w with linters }
  | .failLookups fail => { w with failLookups := fail }
  | .failEngine fail => { w with failEngine := fail }
  | .turn place => w.turnAt place
  | .pass milliseconds => { w with now := w.now + milliseconds }
  | .fire due => if due ≤ w.now then w.fire due else w

/-- What can be collected along one action after another, given what each of them yields. -/
def collect {α : Type} (yield : World → Action → List α) (w : World) : List Action → List α
  | [] => []
  | action :: rest => yield w action ++ (w.act action).collect yield rest

theorem collect_append {α : Type} (yield : World → Action → List α) (w : World)
    (first second : List Action) :
    w.collect yield (first ++ second) =
      w.collect yield first ++ (first.foldl act w).collect yield second := by
  induction first generalizing w with
  | nil => rfl
  | cons action rest inductionHypothesis =>
      simp only [List.cons_append, collect, List.foldl_cons, inductionHypothesis, List.append_assoc]

end World

/-- What happens, the first action first, with or without a runtime. -/
structure Run where
  hasRuntime : Bool := true
  actions : List Action

namespace Run

def world (run : Run) : World :=
  run.actions.foldl World.act { hasRuntime := run.hasRuntime }

/-- What is collected along a run. -/
def collect {α : Type} (run : Run) (yield : World → Action → List α) : List α :=
  World.collect yield { hasRuntime := run.hasRuntime } run.actions

def extend (run : Run) (more : List Action) : Run :=
  { run with actions := run.actions ++ more }

def step (run : Run) (action : Action) : Run :=
  run.extend [action]

theorem world_extend (run : Run) (more : List Action) :
    (run.extend more).world = more.foldl World.act run.world := by
  simp only [world, extend, List.foldl_append]

theorem collect_extend {α : Type} (run : Run) (yield : World → Action → List α)
    (more : List Action) :
    (run.extend more).collect yield = run.collect yield ++ run.world.collect yield more :=
  World.collect_append _ _ _ _

@[simp]
theorem world_step (run : Run) (action : Action) :
    (run.step action).world = run.world.act action :=
  run.world_extend [action]

@[simp]
theorem collect_step {α : Type} (run : Run) (yield : World → Action → List α) (action : Action) :
    (run.step action).collect yield = run.collect yield ++ yield run.world action := by
  rw [step, collect_extend, World.collect, World.collect, List.append_nil]

theorem extend_nil (run : Run) : run.extend [] = run := by
  simp only [extend, List.append_nil]

theorem extend_extend (run : Run) (first second : List Action) :
    (run.extend first).extend second = run.extend (first ++ second) := by
  simp only [extend, List.append_assoc]

theorem extend_cons (run : Run) (action : Action) (rest : List Action) :
    run.extend (action :: rest) = (run.step action).extend rest := by
  rw [step, extend_extend, List.singleton_append]

/-- What holds at the start and is kept by every action holds of every run. -/
theorem induction {motive : Run → Prop} (start : ∀ hasRuntime, motive ⟨hasRuntime, []⟩)
    (step : ∀ run action, motive run → motive (run.step action)) (run : Run) : motive run := by
  rcases run with ⟨hasRuntime, actions⟩
  induction actions using List.reverseRecOn with
  | nil => exact start hasRuntime
  | append_singleton earlier action inductionHypothesis =>
      exact step ⟨hasRuntime, earlier⟩ action inductionHypothesis

/-- What every action keeps is kept along all that follows. -/
theorem kept_extend {kept : Run → Prop} (step : ∀ run action, kept run → kept (run.step action))
    {run : Run} (holds : kept run) (more : List Action) : kept (run.extend more) := by
  induction more generalizing run with
  | nil => rwa [extend_nil]
  | cons action rest inductionHypothesis =>
      rw [extend_cons]
      exact inductionHypothesis (step run action holds)

end Run

end Lint
end Workbench
