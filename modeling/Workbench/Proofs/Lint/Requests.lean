import Workbench.Proofs.Lint.Delayed
import Workbench.Proofs.Lint.Tasks

namespace Workbench
namespace Lint

/-!
# What is requested along a run

Every lookup that is requested is made once, or its turn is still to come, and no others are made.
Delayed passes are ordered by lookups, and by schedulers that start with a pass, once each.
-/

namespace Order

/-- The pass that a scheduler orders which starts at a time, given how many there were before. -/
def startup? (entry : (Config × Nat) × Nat) : Option Order :=
  if entry.1.1.runStartupPass then
    some ⟨entry.2, .startup, entry.1.2, entry.1.1.startupDelay⟩
  else none

def isStartup (order : Order) : Bool :=
  order.reason == .startup

def isRescan (order : Order) : Bool :=
  order.reason == .configFileSaved

end Order

namespace World

variable {w w' : World} {action : Action}

/-- The scheduler that starts, and when. -/
def startedAt (w : World) : Action → List (Config × Nat)
  | .start config => if w.hasRuntime then [(config, w.now)] else []
  | _ => []

/-- The passes that are ordered by a lookup. -/
def rescansAt (w : World) (action : Action) : List Order :=
  (w.lookedUpAt action).flatMap w.orderedBy

/-! ## Lookups -/

theorem Obeys.lookups {orders : List Order} (obeys : Obeys orders w w') :
    w'.lookups = w.lookups := by
  cases obeys with
  | nothing calm queue => exact calm.lookups
  | schedules schedules => exact schedules.lookups

theorem Happens.lookups (happens : Happens w action w') :
    w'.lookups = w.lookups ++ (w.lookedUpAt action).map Lookup.inquiry := by
  cases happens with
  | calm calm _ _ _ unlooked => simp [calm.lookups, unlooked]
  | started adds obeys => simp [lookedUpAt, obeys.lookups, adds.lookups]
  | retired which retires => rcases which with rfl | rfl <;> simp [lookedUpAt, retires.lookups]
  | linted found _ _ _ _ _ lookups => simp [lookedUpAt, found, Task.lookup?, lookups]
  | lookedUp found asked obeys =>
      rcases asked with ⟨log, rfl⟩
      simp [lookedUpAt, found, obeys.lookups]
  | awaited found awaits =>
      have same : w'.lookups = w.lookups := by
        cases awaits with
        | ended _ same | waits _ _ _ same => rw [same]
        | reaches _ _ _ _ _ _ _ _ lookups => exact lookups
      simp [lookedUpAt, found, Task.lookup?, same]
  | fired past => simp [lookedUpAt, fire]

theorem filterMap_servedAt (w : World) (action : Action) :
    (w.servedAt action).filterMap Task.lookup? = w.lookedUpAt action := by
  cases action with
  | turn place =>
      rw [servedAt, lookedUpAt]
      cases w.queue[place]? with
      | none => rfl
      | some task => cases looks : task.lookup? <;> simp [looks]
  | _ => rfl

/-! ## Schedulers that start -/

theorem Obeys.configs {orders : List Order} (obeys : Obeys orders w w') :
    w'.configs = w.configs := by
  cases obeys with
  | nothing calm queue => exact calm.configs
  | schedules schedules => exact schedules.configs

theorem Happens.configs (happens : Happens w action w')
    (unstarted : ∀ config, action ≠ .start config) : w'.configs = w.configs := by
  cases happens with
  | calm calm => exact calm.configs
  | started => exact absurd rfl (unstarted _)
  | retired _ retires => exact retires.configs
  | linted _ schedulers => exact congrArg (List.map Scheduler.config) schedulers
  | lookedUp _ asked obeys =>
      rcases asked with ⟨log, rfl⟩
      exact obeys.configs
  | awaited _ awaits =>
      cases awaits with
      | ended _ same | waits _ _ _ same => rw [same]; rfl
      | reaches _ _ _ schedulers => exact congrArg (List.map Scheduler.config) schedulers
  | fired => rfl

theorem act_configs (attuned : w.Attuned) (action : Action) :
    (w.act action).configs = w.configs ++ (w.startedAt action).map Prod.fst := by
  have happens := act_happens attuned action
  cases action with
  | start config =>
      show ((w.startScheduler config).toOption.getD w).configs = _
      unfold startScheduler startedAt
      split
      · rcases w.addScheduler_adds config with ⟨added, adds, obeys⟩
        exact obeys.configs.trans adds.configs
      · exact (List.append_nil _).symm
  | _ =>
      rw [happens.configs (by rintro config ⟨⟩)]
      exact (List.append_nil _).symm

theorem filter_isRescan_orderedAt (w : World) (action : Action) :
    (w.orderedAt action).filter Order.isRescan = w.rescansAt action := by
  cases action with
  | start config =>
      dsimp only [orderedAt]
      split <;> rfl
  | turn place =>
      refine List.filter_eq_self.mpr fun order member => ?_
      rcases List.mem_flatMap.mp member with ⟨lookup, _, member⟩
      rw [Order.isRescan, reason_of_orderedBy member]
      rfl
  | _ => rfl

theorem filter_isStartup_orderedAt (w : World) (action : Action) :
    (w.orderedAt action).filter Order.isStartup =
      ((w.startedAt action).zipIdx w.configs.length).filterMap Order.startup? := by
  cases action with
  | start config =>
      unfold orderedAt startedAt
      cases w.hasRuntime with
      | false => rfl
      | true =>
          cases startup : config.runStartupPass with
          | false => simp [Order.startup?, startup]
          | true => simp [Order.startup?, startup, Order.isStartup, configs]
  | turn place =>
      refine List.filter_eq_nil_iff.mpr fun order member => ?_
      rcases List.mem_flatMap.mp member with ⟨lookup, _, member⟩
      rw [Order.isStartup, reason_of_orderedBy member]
      simp
  | _ => rfl

end World

namespace Run

/-- The lookups that were requested, in order. -/
def requested (run : Run) : List Lookup :=
  run.collect World.requestedAt

/-- The lookups that were made. -/
def lookedUp (run : Run) : List Lookup :=
  run.collect World.lookedUpAt

/-- The delayed passes that were ordered. -/
def ordered (run : Run) : List Order :=
  run.collect World.orderedAt

/-- The delayed passes that reached the engine, by the places of their orders. -/
def reached (run : Run) : List Nat :=
  run.collect World.reachedAt

/-- The passes that lookups ordered. -/
def rescans (run : Run) : List Order :=
  run.collect World.rescansAt

/-- The schedulers that started, and when. -/
def starts (run : Run) : List (Config × Nat) :=
  run.collect World.startedAt

section

variable (run : Run) (action : Action)

theorem lookedUp_step :
    (run.step action).lookedUp = run.lookedUp ++ run.world.lookedUpAt action :=
  run.collect_step _ action

theorem ordered_step : (run.step action).ordered = run.ordered ++ run.world.orderedAt action :=
  run.collect_step _ action

theorem reached_step : (run.step action).reached = run.reached ++ run.world.reachedAt action :=
  run.collect_step _ action

theorem rescans_step : (run.step action).rescans = run.rescans ++ run.world.rescansAt action :=
  run.collect_step _ action

theorem starts_step : (run.step action).starts = run.starts ++ run.world.startedAt action :=
  run.collect_step _ action

end

theorem lookups_eq (run : Run) : run.world.lookups = run.lookedUp.map Lookup.inquiry := by
  induction run using Run.induction with
  | start hasRuntime => rfl
  | step run action inductionHypothesis =>
      rw [world_step, (run.happens action).lookups, inductionHypothesis, lookedUp_step,
        List.map_append]

/-- What is requested is looked up, or waits for its turn. -/
theorem requested_perm (run : Run) :
    (run.lookedUp ++ run.world.queue.filterMap Task.lookup?).Perm run.requested := by
  have perm := World.collect_filterMap Task.lookup? (fun _ => rfl)
    (Run.attuned ⟨run.hasRuntime, []⟩) run.actions
  simp only [World.filterMap_servedAt, World.filterMap_tasksAt] at perm
  exact perm

theorem configs_eq (run : Run) : run.world.configs = run.starts.map Prod.fst := by
  induction run using Run.induction with
  | start hasRuntime => rfl
  | step run action inductionHypothesis =>
      rw [world_step, World.act_configs run.attuned, inductionHypothesis, starts_step,
        List.map_append]

theorem startups_eq (run : Run) :
    run.ordered.filter Order.isStartup = run.starts.zipIdx.filterMap Order.startup? := by
  induction run using Run.induction with
  | start hasRuntime => rfl
  | step run action inductionHypothesis =>
      have length : run.world.configs.length = run.starts.length := by
        rw [configs_eq, List.length_map]
      rw [ordered_step, starts_step, List.filter_append, List.zipIdx_append, List.filterMap_append,
        World.filter_isStartup_orderedAt, length, Nat.zero_add, inductionHypothesis]

theorem rescans_eq (run : Run) : run.ordered.filter Order.isRescan = run.rescans := by
  induction run using Run.induction with
  | start hasRuntime => rfl
  | step run action inductionHypothesis =>
      rw [ordered_step, rescans_step, List.filter_append, World.filter_isRescan_orderedAt,
        inductionHypothesis]

/-- The book of a run. -/
theorem book (run : Run) : World.Book run.ordered run.reached run.world := by
  induction run using Run.induction with
  | start hasRuntime => exact .empty hasRuntime
  | step run action inductionHypothesis =>
      rw [world_step, ordered_step, reached_step]
      exact inductionHypothesis.act run.attuned action

/-- Other passes than delayed ones are asked for in their own tasks' turns. -/
theorem passes_filter {p : Pass → Bool}
    (undelayed : ∀ reason : Reason, reason.isDelayed = true → p (.openFiles reason) = false)
    (run : Run) : run.world.passes.filter p = run.made.filter p := by
  induction run using Run.induction with
  | start hasRuntime => rfl
  | step run action inductionHypothesis =>
      have late : ((run.world.reachedAt action).filterMap fun index =>
          (run.world.delayed[index]?).map fun pass =>
            Pass.openFiles pass.reason).filter p = [] := by
        refine List.filter_eq_nil_iff.mpr fun pass member => ?_
        rcases List.mem_filterMap.mp member with ⟨index, _, same⟩
        rcases Option.map_eq_some_iff.mp same with ⟨delayed, found, rfl⟩
        rcases run.book.exists_order found with ⟨order, ordered, reason, _⟩
        have delays := run.book.delayed order (List.mem_of_getElem? ordered)
        rw [reason] at delays
        rw [undelayed delayed.reason delays]
        exact Bool.false_ne_true
      have made : (run.step action).made = run.made ++ run.world.madeAt action :=
        run.collect_step _ action
      rw [world_step, World.act_passes run.attuned, List.filter_append, List.filter_append, late,
        List.append_nil, inductionHypothesis, made, List.filter_append]

end Run

end Lint
end Workbench
