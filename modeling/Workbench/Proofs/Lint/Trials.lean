import Workbench.Proofs.Lint.Executor

namespace Workbench
namespace Lint

/-!
# Trials

In a trial the executor serves all tasks, and of every request to the engine and of every lookup of
linters it is decided beforehand whether it fails.  The executor of the world is the case in which
everything goes on failing or succeeding as it did (`Run.foldl_plainly`).
-/

/-- Which requests to the engine fail and which lookups of linters, by how many of them there were
before. -/
structure Faults where
  engine : Nat → Bool
  lookups : Nat → Bool

/-- Whether an action does nothing but decide what fails from then on. -/
def Action.decides : Action → Bool
  | failEngine _ | failLookups _ => true
  | _ => false

/-- What can be done from outside. -/
inductive Command where
  | ask (action : Action) (outside : action.isExecution = false)
  /-- All tasks have their turns. -/
  | settle
  /-- Time passes, and the executor does all that becomes due. -/
  | advance (milliseconds : Nat)

def Command.decides : Command → Bool
  | ask action _ => action.decides
  | settle | advance _ => false

structure Step where
  command : Command
  faults : Faults

namespace World

variable {w : World}

/-- What is asked for next fails or succeeds as is decided for it. -/
def facing (w : World) (faults : Faults) : World :=
  { w with
    failEngine := faults.engine w.passes.length
    failLookups := faults.lookups w.lookups.length }

/-- Everything goes on failing or succeeding as it does. -/
def faults (w : World) : Faults where
  engine := fun _ => w.failEngine
  lookups := fun _ => w.failLookups

/-- What the executor of the world does about a command. -/
def follow (w : World) : Command → World
  | .ask action _ => w.act action
  | .settle => w.run
  | .advance milliseconds => w.advance milliseconds

/-- The steps of a trial in which everything goes on failing or succeeding as it does, until a
command decides otherwise. -/
def plainly (w : World) : List Command → List Step
  | [] => []
  | command :: rest => ⟨command, w.faults⟩ :: (w.follow command).plainly rest

theorem schedule_faults (w : World) (scheduler delay : Nat) (reason : Reason) :
    (w.schedule scheduler delay reason).faults = w.faults := by
  rw [schedule_eq]
  cases w.live? scheduler <;> rfl

theorem lint_faults (w : World) (pass : Pass) : (w.lint pass).faults = w.faults := by
  cases pass <;> (unfold lint; dsimp only; split <;> rfl)

/-- All timers end later if the first one does. -/
theorem beyond_of_nextDue? {finish : Nat} (first : ∀ due, w.nextDue? = some due → finish < due) :
    ∀ timer ∈ w.timers, finish < timer.due := by
  intro timer member
  cases next : w.nextDue? with
  | none =>
      rw [nextDue?, List.min?_eq_none_iff, List.map_eq_nil_iff] at next
      rw [next] at member
      cases member
  | some due =>
      exact Nat.lt_of_lt_of_le (first due next) ((nextDue?_eq_some_iff.mp next).2 timer member)

/-- Nothing that a task does decides what fails. -/
theorem perform_faults (w : World) (task : Task) : (w.perform task).faults = w.faults := by
  cases task with
  | pass pass => exact w.lint_faults pass
  | lookUp scheduler uri baseName =>
      show (w.lookUp scheduler uri baseName).faults = w.faults
      unfold lookUp
      dsimp only
      split
      · rfl
      · split
        · split
          · rfl
          · exact schedule_faults _ _ _ _
        · rfl
  | delayed index =>
      show (w.awaitDue index).faults = w.faults
      unfold awaitDue
      split
      · rfl
      · split
        · rfl
        · split
          · exact lint_faults _ _
          · rfl

theorem turn_faults (w : World) : w.turn.faults = w.faults := by
  cases queue : w.queue with
  | nil =>
      unfold turn
      rw [queue]
  | cons task rest =>
      rw [turn_of_cons queue]
      exact perform_faults _ task

end World

namespace Run

variable {run : Run}

/-! ## The executor of a trial -/

/-- The next task has its turn. -/
def turn (faults : Faults) (run : Run) : Run :=
  run.extend
    [.failEngine (faults.engine run.world.passes.length),
      .failLookups (faults.lookups run.world.lookups.length), .turn 0]

/-- All tasks have their turns. -/
def settle (faults : Faults) (run : Run) : Run :=
  turns (·.world.queue.isEmpty) (turn faults) (2 * run.world.queue.length) run

/-- A deadline comes. -/
def arrive (run : Run) (due : Nat) : Run :=
  run.extend [.pass (due - run.world.now), .fire due]

/-- The executor stops at a deadline. -/
def stop (faults : Faults) (run : Run) (due : Nat) : Run :=
  (run.arrive due).settle faults

/-- The executor goes on from deadline to deadline, up to a time. -/
def goOn (faults : Faults) (finish : Nat) (fuel : Nat) (run : Run) : Run :=
  passTime (·.world.nextDue?) (stop faults) finish fuel run

def advance (faults : Faults) (run : Run) (milliseconds : Nat) : Run :=
  let finish := run.world.now + milliseconds
  let settled := run.settle faults
  let last := goOn faults finish (settled.world.timers.length + 1) settled
  last.extend [.pass (finish - last.world.now)]

def follow (run : Run) (step : Step) : Run :=
  match step.command with
  | .ask action _ => run.step action
  | .settle => run.settle step.faults
  | .advance milliseconds => run.advance step.faults milliseconds

/-- What happens when one step is made after another. -/
def trial (hasRuntime : Bool) (steps : List Step) : Run :=
  steps.foldl follow ⟨hasRuntime, []⟩

/-! ## Turns -/

theorem turn_world (faults : Faults) (run : Run) :
    (run.turn faults).world = (run.world.facing faults).turn := by
  rw [turn, world_extend, World.turn_eq]
  rfl

theorem turn_workload (faults : Faults) (busy : run.world.queue.isEmpty = false) :
    (run.turn faults).world.workload < run.world.workload := by
  rw [turn_world]
  exact World.turn_workload (w := run.world.facing faults) busy

theorem settle_queue (faults : Faults) (run : Run) : (run.settle faults).world.queue = [] :=
  List.isEmpty_iff.mp (turns_isIdle (fun run : Run => run.world.workload) (fun _ => True)
    (fun _ busy _ => ⟨trivial, turn_workload faults busy⟩) _ trivial run.world.workload_le).2

theorem turn_now (faults : Faults) (run : Run) : (run.turn faults).world.now = run.world.now := by
  rw [turn_world, World.turn_eq]
  exact World.act_now (by rintro _ ⟨⟩)

theorem settle_now (faults : Faults) (run : Run) :
    (run.settle faults).world.now = run.world.now :=
  turns_induction (fun later : Run => later.world.now = run.world.now)
    (fun later _ same => (turn_now faults later).trans same) _ rfl

/-- The executor serves all tasks. -/
theorem settle_settled (faults : Faults) (punctual : run.world.Punctual) :
    (run.settle faults).world.Settled := by
  refine ⟨run.settle_queue faults, ?_⟩
  refine turns_induction (fun later : Run => later.world.Punctual) (fun later _ kept => ?_) _
    punctual
  have attuned : (later.world.facing faults).Attuned := later.attuned.of_eq rfl rfl
  have punctual' : (later.world.facing faults).Punctual := kept
  rw [turn_world, World.turn_eq]
  exact punctual'.act attuned (by rintro _ ⟨⟩)

/-- Who is due starts no timers. -/
theorem settle_timers (faults : Faults) (prompt : run.world.Prompt) :
    (run.settle faults).world.timers = run.world.timers := by
  refine (turns_induction
    (fun later : Run => later.world.Prompt ∧ later.world.timers = run.world.timers)
    (fun later _ kept => ?_) _ ⟨prompt, rfl⟩).2
  have prompt' : (later.world.facing faults).Prompt := kept.1
  rw [turn_world]
  exact prompt'.turn.imp_right (·.trans kept.2)

/-! ## Deadlines -/

theorem arrive_world {due : Nat} (later : run.world.now ≤ due) :
    (run.arrive due).world = run.world.fireAt due := by
  rw [World.fireAt_eq later, arrive, world_extend]
  rfl

/-- The executor goes on to the next deadline. -/
theorem stop_settled (faults : Faults) (settled : run.world.Settled) {due : Nat}
    (next : run.world.nextDue? = some due) :
    (run.stop faults due).world.Settled ∧ (run.stop faults due).world.now = due ∧
      (run.stop faults due).world.timers.length < run.world.timers.length := by
  have arrived := run.arrive_world (settled.le_of_nextDue? next)
  have prompt : (run.arrive due).world.Prompt := by
    rw [arrived]
    exact run.serves_self.fireAt_prompt settled.idle due
  have punctual : (run.arrive due).world.Punctual := by
    rw [arrived]
    exact World.fireAt_punctual next
  refine ⟨settle_settled faults punctual, ?_, ?_⟩
  · rw [stop, settle_now, arrived]
    rfl
  · rw [stop, settle_timers faults prompt, arrived]
    exact World.length_timers_fireAt next

/-- What the executor comes to when it goes on from deadline to deadline. -/
theorem goOn_settled (faults : Faults) (settled : run.world.Settled) {finish fuel : Nat}
    (within : run.world.now ≤ finish) (enough : run.world.timers.length < fuel) :
    ((run.goOn faults finish fuel).world.Settled ∧
        (run.goOn faults finish fuel).world.now ≤ finish) ∧
      ∀ timer ∈ (run.goOn faults finish fuel).world.timers, finish < timer.due := by
  have passes := passTime_beyond (fun run : Run => run.world.timers.length)
    (fun run => run.world.Settled ∧ run.world.now ≤ finish)
    (fun run due next within kept => by
      rcases stop_settled faults kept.1 next with ⟨settled', now, fewer⟩
      exact ⟨⟨settled', Nat.le_trans (Nat.le_of_eq now) within⟩, fewer⟩)
    fuel ⟨settled, within⟩ enough
  change (_ ∧ _) ∧ ∀ due, (run.goOn faults finish fuel).world.nextDue? = some due → _ at passes
  exact ⟨passes.1, World.beyond_of_nextDue? passes.2⟩

/-- The executor does not go on when all deadlines are later. -/
theorem goOn_of_beyond (faults : Faults) {finish : Nat}
    (beyond : ∀ timer ∈ run.world.timers, finish < timer.due) (fuel : Nat) :
    run.goOn faults finish fuel = run := by
  cases fuel with
  | zero => rfl
  | succ fuel =>
      unfold goOn
      rw [passTime]
      cases next : run.world.nextDue? with
      | none => rfl
      | some due =>
          rcases World.nextDue?_eq_some_iff.mp next with ⟨⟨timer, member, rfl⟩, _⟩
          exact if_neg (Nat.not_le_of_lt (beyond timer member))

theorem goOn_of_next (faults : Faults) {finish due : Nat} (next : run.world.nextDue? = some due)
    (within : due ≤ finish) (fuel : Nat) :
    run.goOn faults finish (fuel + 1) = (run.stop faults due).goOn faults finish fuel := by
  unfold goOn
  rw [passTime, next]
  exact if_pos within

theorem advance_settled (faults : Faults) (punctual : run.world.Punctual) (milliseconds : Nat) :
    (run.advance faults milliseconds).world.Settled := by
  have within : (run.settle faults).world.now ≤ run.world.now + milliseconds := by
    rw [settle_now]
    exact Nat.le_add_right _ _
  rcases goOn_settled faults (settle_settled faults punctual) within (Nat.lt_succ_self _) with
    ⟨⟨settled, reached⟩, beyond⟩
  unfold advance
  dsimp only
  rw [world_extend]
  refine ⟨settled.idle, fun timer member => ?_⟩
  show _ + (_ - _) < timer.due
  rw [Nat.add_sub_cancel' reached]
  exact beyond timer member

theorem follow_punctual (punctual : run.world.Punctual) (step : Step) :
    (run.follow step).world.Punctual := by
  rcases step with ⟨command, faults⟩
  cases command with
  | ask action outside =>
      show (run.step action).world.Punctual
      rw [world_step]
      refine punctual.act run.attuned ?_
      rintro milliseconds rfl
      cases outside
  | settle => exact (settle_settled faults punctual).punctual
  | advance milliseconds => exact (advance_settled faults punctual milliseconds).punctual

/-! ## The executor of the world -/

theorem turn_plain {faults : Faults} (same : run.world.faults = faults) :
    (run.turn faults).world.faults = faults ∧ (run.turn faults).world = run.world.turn := by
  have plain : run.world.facing faults = run.world := by
    rw [← same]
    rfl
  rw [turn_world, plain, World.turn_faults]
  exact ⟨same, rfl⟩

theorem settle_plain {faults : Faults} (same : run.world.faults = faults) :
    (run.settle faults).world.faults = faults ∧ (run.settle faults).world = run.world.run :=
  turns_project Run.world (·.queue.isEmpty) (fun run => run.world.faults = faults)
    (fun _ same => turn_plain same) _ same

theorem stop_plain {faults : Faults} (same : run.world.faults = faults) {due : Nat}
    (later : run.world.now ≤ due) :
    (run.stop faults due).world.faults = faults ∧
      (run.stop faults due).world = (run.world.fireAt due).run := by
  have arrived := arrive_world later
  have same' : (run.arrive due).world.faults = faults := by
    rw [arrived, ← same]
    rfl
  rw [← arrived]
  exact settle_plain same'

theorem advance_plain {faults : Faults} (same : run.world.faults = faults)
    (punctual : run.world.Punctual) (milliseconds : Nat) :
    (run.advance faults milliseconds).world = run.world.advance milliseconds := by
  have settled := settle_settled faults punctual
  have plain := settle_plain same
  have within : (run.settle faults).world.now ≤ run.world.now + milliseconds := by
    rw [settle_now]
    exact Nat.le_add_right _ _
  let fire (w : World) (due : Nat) : World := (w.fireAt due).run
  have step (run : Run) (due : Nat) (next : run.world.nextDue? = some due)
      (kept : run.world.faults = faults ∧ run.world.Settled) :
      ((run.stop faults due).world.faults = faults ∧ (run.stop faults due).world.Settled) ∧
        (run.stop faults due).world = fire run.world due := by
    rcases stop_plain kept.1 (kept.2.le_of_nextDue? next) with ⟨same, world⟩
    exact ⟨⟨same, (stop_settled faults kept.2 next).1⟩, world⟩
  have passes (finish fuel : Nat) : (goOn faults finish fuel (run.settle faults)).world =
      passTime World.nextDue? fire finish fuel (run.settle faults).world :=
    passTime_project Run.world World.nextDue? _ step fuel ⟨plain.1, settled⟩
  have reached := (goOn_settled faults settled within (Nat.lt_succ_self _)).1.2
  unfold advance
  dsimp only
  rw [world_extend]
  generalize last : (goOn faults _ _ (run.settle faults)).world = w at reached
  show ({ w with now := w.now + (run.world.now + milliseconds - w.now) } : World) = _
  rw [Nat.add_sub_cancel' reached, ← last, passes, plain.2]
  rfl

/-- As long as nothing is decided anew, a trial is what the executor of the world does. -/
theorem follow_plain (punctual : run.world.Punctual) (command : Command) :
    (run.follow ⟨command, run.world.faults⟩).world = run.world.follow command := by
  cases command with
  | ask action outside => exact run.world_step action
  | settle => exact (settle_plain rfl).2
  | advance milliseconds => exact advance_plain rfl punctual milliseconds

/-- Whatever the executor of the world does is a trial. -/
theorem foldl_plainly (punctual : run.world.Punctual) (commands : List Command) :
    ((run.world.plainly commands).foldl follow run).world =
      commands.foldl World.follow run.world := by
  induction commands generalizing run with
  | nil => rfl
  | cons command rest inductionHypothesis =>
      have later := inductionHypothesis (follow_punctual punctual ⟨command, run.world.faults⟩)
      rw [follow_plain punctual command] at later
      exact later

end Run

end Lint
end Workbench
