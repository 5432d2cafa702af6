import Mathlib.Data.List.Perm.Basic
import Workbench.Proofs.Lint.Listening

namespace Workbench
namespace Lint

/-!
# Tasks and their turns

Every task that an event starts has one turn, or waits for it in the queue.  What is asked of the
engine is asked in the turn of a task that holds a pass, or when a delayed pass is due.
-/

namespace Task

def pass? : Task → Option Pass
  | pass asked => some asked
  | _ => none

end Task

namespace World

variable {w w' : World} {action : Action}

/-- The task that has its turn. -/
def servedAt (w : World) : Action → List Task
  | .turn place => (w.queue[place]?).toList
  | _ => []

/-- The passes that events ask for at once. -/
def causedAt (w : World) (action : Action) : List Pass :=
  (w.tasksAt action).filterMap Task.pass?

/-- The pass, not delayed, that the engine is asked for. -/
def madeAt (w : World) (action : Action) : List Pass :=
  (w.servedAt action).filterMap Task.pass?

/-- Nothing but tasks of delayed passes is added to the queue. -/
def Delays (w w' : World) : Prop :=
  ∃ indices : List Nat, w'.queue = w.queue ++ indices.map Task.delayed

theorem Delays.of_eq (queue : w'.queue = w.queue) : Delays w w' :=
  ⟨[], by rw [queue, List.map_nil, List.append_nil]⟩

theorem Obeys.delays {orders : List Order} (obeys : Obeys orders w w') : Delays w w' := by
  cases obeys with
  | nothing _ queue => exact .of_eq queue
  | schedules schedules => exact ⟨[w.delayed.length], schedules.queue⟩

theorem Awaits.queue {index : Nat} (awaits : Awaits index w w') : w'.queue = w.queue := by
  cases awaits with
  | ended _ same | waits _ _ _ same => rw [same]
  | reaches _ _ _ _ _ queue => exact queue

/-- A task that has its turn starts no other task than that of a delayed pass. -/
theorem perform_delays (attuned : w.Attuned) (task : Task) : Delays w (w.perform task) := by
  cases task with
  | pass pass => exact .of_eq (w.lint_frame pass).2.2.1
  | lookUp scheduler uri baseName =>
      rcases lookUp_obeys attuned ⟨scheduler, uri, baseName⟩ with ⟨log, obeys⟩
      exact obeys.delays
  | delayed index => exact .of_eq (w.awaitDue_awaits index).queue

/-- Otherwise tasks are added to the queue as they are started. -/
theorem Happens.queue (happens : Happens w action w') (turnless : ∀ place, action ≠ .turn place) :
    ∃ indices : List Nat, w'.queue = w.queue ++ w.tasksAt action ++ indices.map .delayed := by
  have eventless {action : Action} (none : ∀ scheduler s, w.eventTasks scheduler s action = [])
      (delays : Delays w w') :
      ∃ indices : List Nat, w'.queue = w.queue ++ w.tasksAt action ++ indices.map .delayed := by
    rwa [tasksAt_eq_nil none, List.append_nil]
  cases happens with
  | calm _ queue => exact ⟨[], by rw [queue, List.map_nil, List.append_nil]⟩
  | started adds obeys =>
      rcases obeys.delays with ⟨indices, queue⟩
      exact eventless (fun _ _ => rfl) ⟨indices, by rw [queue, adds.queue]⟩
  | retired which retires =>
      rcases which with rfl | rfl <;> exact eventless (fun _ _ => rfl) (.of_eq retires.queue)
  | linted | lookedUp | awaited => exact absurd rfl (turnless _)
  | @fired due past =>
      refine eventless (fun _ _ => rfl)
        ⟨(w.timers.filter fun timer => timer.due == due).map Timer.index, ?_⟩
      rw [List.map_map]
      rfl

/-- A task is in the queue from the event that starts it to its turn, and apart from these there are
only the tasks of delayed passes. -/
theorem act_tasks (attuned : w.Attuned) (action : Action) :
    ∃ indices : List Nat, (w.servedAt action ++ (w.act action).queue).Perm
      (w.queue ++ w.tasksAt action ++ indices.map .delayed) := by
  have otherwise {action : Action} (turnless : ∀ place, action ≠ .turn place)
      (unserved : w.servedAt action = []) :
      ∃ indices : List Nat, (w.servedAt action ++ (w.act action).queue).Perm
        (w.queue ++ w.tasksAt action ++ indices.map .delayed) := by
    rcases (act_happens attuned action).queue turnless with ⟨indices, queue⟩
    refine ⟨indices, ?_⟩
    rw [unserved, List.nil_append, queue]
  cases action with
  | turn place =>
      have eventless : w.tasksAt (.turn place) = [] := tasksAt_eq_nil fun _ _ => rfl
      show ∃ indices : List Nat, (w.servedAt (.turn place) ++ (w.turnAt place).queue).Perm _
      rw [eventless, List.append_nil]
      cases found : w.queue[place]? with
      | none =>
          refine ⟨[], ?_⟩
          rw [turnAt_of_none found, servedAt, found, List.map_nil, List.append_nil]
          exact .refl _
      | some task =>
          rcases perform_delays (w := { w with queue := w.queue.eraseIdx place })
            (attuned.of_eq rfl rfl) task with ⟨indices, queue⟩
          refine ⟨indices, ?_⟩
          rcases List.getElem?_eq_some_iff.mp found with ⟨inside, same⟩
          rw [turnAt_of_getElem? found, queue, servedAt, found, Option.toList_some, ← same,
            ← List.append_assoc]
          exact (List.getElem_cons_eraseIdx_perm inside).append_right _
  | _ => exact otherwise (by rintro place ⟨⟩) rfl

/-- What a task stands for other than a delayed pass is there once, be it served or still in the
queue. -/
theorem act_filterMap {α : Type} (of : Task → Option α)
    (undelayed : ∀ index, of (.delayed index) = none) (attuned : w.Attuned) (action : Action) :
    ((w.servedAt action).filterMap of ++ (w.act action).queue.filterMap of).Perm
      (w.queue.filterMap of ++ (w.tasksAt action).filterMap of) := by
  rcases act_tasks attuned action with ⟨indices, perm⟩
  have nothing : (indices.map Task.delayed).filterMap of = [] := by
    rw [List.filterMap_map]
    exact List.filterMap_eq_nil_iff.mpr fun index _ => undelayed index
  have mapped := perm.filterMap of
  rwa [List.filterMap_append, List.filterMap_append, List.filterMap_append, nothing,
    List.append_nil] at mapped

/-- The same along one action after another. -/
theorem collect_filterMap {α : Type} (of : Task → Option α)
    (undelayed : ∀ index, of (.delayed index) = none) (attuned : w.Attuned)
    (actions : List Action) :
    (w.collect (fun v action => (v.servedAt action).filterMap of) actions ++
        (actions.foldl act w).queue.filterMap of).Perm
      (w.queue.filterMap of ++
        w.collect (fun v action => (v.tasksAt action).filterMap of) actions) := by
  induction actions generalizing w with
  | nil => exact .of_eq (List.append_nil _).symm
  | cons action rest inductionHypothesis =>
      have first := act_filterMap of undelayed attuned action
      have others := inductionHypothesis (act_attuned attuned action)
      simp only [collect, List.foldl_cons]
      rw [List.append_assoc]
      refine (others.append_left _).trans ?_
      rw [← List.append_assoc, ← List.append_assoc]
      exact first.append_right _

/-! ## Passes -/

theorem Obeys.passes {orders : List Order} (obeys : Obeys orders w w') : w'.passes = w.passes := by
  cases obeys with
  | nothing calm => exact calm.passes
  | schedules schedules => exact schedules.passes

/-- Only in turns is anything asked of the engine. -/
theorem Happens.passes (happens : Happens w action w') (turnless : ∀ place, action ≠ .turn place) :
    w'.passes = w.passes := by
  cases happens with
  | calm calm => exact calm.passes
  | started adds obeys => exact obeys.passes.trans adds.passes
  | retired _ retires => exact retires.passes
  | linted | lookedUp | awaited => exact absurd rfl (turnless _)
  | fired => rfl

/-- The engine is asked for the pass of the task that has its turn, or for a delayed pass. -/
theorem act_passes (attuned : w.Attuned) (action : Action) :
    (w.act action).passes = w.passes ++ w.madeAt action ++
      (w.reachedAt action).filterMap fun index =>
        (w.delayed[index]?).map fun pass => .openFiles pass.reason := by
  have otherwise {action : Action} (turnless : ∀ place, action ≠ .turn place)
      (unserved : w.servedAt action = []) (unreached : w.reachedAt action = []) :
      (w.act action).passes = w.passes ++ w.madeAt action ++
        (w.reachedAt action).filterMap fun index =>
          (w.delayed[index]?).map fun pass => .openFiles pass.reason := by
    rw [(act_happens attuned action).passes turnless, madeAt, unserved, unreached,
      List.filterMap_nil, List.filterMap_nil, List.append_nil, List.append_nil]
  cases action with
  | turn place =>
      show (w.turnAt place).passes = _
      cases found : w.queue[place]? with
      | none => simp [turnAt_of_none found, madeAt, servedAt, reachedAt, found]
      | some task =>
          have turns := turnAt_of_getElem? found
          cases task with
          | pass pass =>
              have passes : (w.turnAt place).passes = w.passes ++ [pass] := by
                rw [turns]
                exact (lint_frame _ pass).2.2.2.2.1
              simp [passes, madeAt, servedAt, reachedAt, found, Task.pass?]
          | lookUp scheduler uri baseName =>
              rcases lookUp_obeys (w := { w with queue := w.queue.eraseIdx place })
                (attuned.of_eq rfl rfl) ⟨scheduler, uri, baseName⟩ with ⟨log, obeys⟩
              have passes : (w.turnAt place).passes = w.passes := by
                rw [turns]
                exact obeys.passes
              simp [passes, madeAt, servedAt, reachedAt, found, Task.pass?]
          | delayed index =>
              have awaits := awaitDue_awaits { w with queue := w.queue.eraseIdx place } index
              have unmade : w.madeAt (.turn place) = [] := by
                simp [madeAt, servedAt, found, Task.pass?]
              rw [unmade, List.append_nil]
              change Awaits _ _ (World.perform _ (.delayed index)) at awaits
              rw [← turns] at awaits
              cases awaits with
              | ended _ same | waits _ _ _ same => simp [reachedAt, found, same]
              | reaches known _ _ _ _ _ _ passes => simp [reachedAt, found, passes, known]
  | _ => exact otherwise (by rintro place ⟨⟩) rfl rfl

/-- What an event asks the engine for at once is asked once, or its turn is still to come. -/
theorem collect_causedAt (attuned : w.Attuned) (actions : List Action) :
    (w.collect madeAt actions ++ (actions.foldl act w).queue.filterMap Task.pass?).Perm
      (w.queue.filterMap Task.pass? ++ w.collect causedAt actions) :=
  collect_filterMap Task.pass? (fun _ => rfl) attuned actions

end World

namespace Run

/-- The passes that events asked for at once. -/
def caused (run : Run) : List Pass :=
  run.collect World.causedAt

/-- The passes, not delayed, that the engine was asked for. -/
def made (run : Run) : List Pass :=
  run.collect World.madeAt

theorem caused_perm (run : Run) :
    (run.made ++ run.world.queue.filterMap Task.pass?).Perm run.caused :=
  World.collect_causedAt (Run.attuned ⟨run.hasRuntime, []⟩) run.actions

end Run

end Lint
end Workbench
