import Workbench.Proofs.Lint.Commissions
import Workbench.Proofs.Lint.Trials

namespace Workbench
namespace Lint

/-!
# Failures do not interfere

Two trials in which the same is done differ in what fails.  If the same lookups fail, nobody can
tell one from the other.  If more lookups fail in one of them, it lacks the rescans that they would
have ordered, and nothing else.  What the executor of the world does by itself, while it is decided
from time to time what fails, is such a trial (`Run.foldl_plainly`).

One trial is followed next to the other, turn by turn and deadline by deadline, where the one that
lacks something waits while what it lacks has its turn in the other.
-/

namespace Run

variable {fails lost : Nat → Bool} {one other : Run} {w : World} {faults faults' : Faults}

/-! ## One trial next to another -/

/-- Whether passes are lost that were ordered so far is said of them correctly. -/
def Agrees (run : Run) (fails lost : Nat → Bool) : Prop :=
  ∀ index commission, run.commissions[index]? = some commission →
    lost index = commission.2.any fails

theorem agrees_loses (run : Run) (fails : Nat → Bool) : run.Agrees fails (run.loses fails) := by
  intro index commission found
  rw [loses, causeOf, found, Option.bind_some]

theorem Agrees.loses {run : Run} (agrees : run.Agrees fails lost) {index : Nat}
    (inside : index < run.world.delayed.length) : lost index = run.loses fails index := by
  rw [← run.length_commissions] at inside
  have found := List.getElem?_eq_getElem inside
  rw [agrees index _ found, run.agrees_loses fails index _ found]

theorem Agrees.earlier {run later : Run} {more : List (Order × Option Nat)}
    (agrees : later.Agrees fails lost) (commissions : later.commissions = run.commissions ++ more) :
    run.Agrees fails lost := by
  intro index commission found
  refine agrees index commission ?_
  rw [commissions, List.getElem?_append_left (List.getElem?_eq_some_iff.mp found).1, found]

/-- A world is that of a run, but for what is lost when certain lookups fail. -/
def Mirrors (fails : Nat → Bool) (run : Run) (w : World) : Prop :=
  ∀ lost, run.Agrees fails lost → World.Thin lost run.world w ∧
    w.passes = (run.requests.filter fun request => !request.2.any lost).map Prod.fst

/-! ## Turns -/

theorem turn_commissions (faults : Faults) (run : Run) : (run.turn faults).commissions =
    run.commissions ++ (run.world.facing faults).commissionsAt (.turn 0) := by
  rw [commissions, turn, collect_extend]
  simp [World.collect, World.commissionsAt, World.orderedAt, World.act, World.facing, commissions]

theorem turn_requests (faults : Faults) (run : Run) : (run.turn faults).requests =
    run.requests ++ (run.world.facing faults).requestsAt (.turn 0) := by
  rw [requests, turn, collect_extend]
  simp [World.collect, World.requestsAt, World.act, World.facing, requests]

/-- What the next task asks the engine for is lost if the task is that of a lost pass. -/
theorem filter_requestsAt {task : Task} {rest : List Task} (queue : w.queue = task :: rest)
    (lost : Nat → Bool) :
    ((w.requestsAt (.turn 0)).filter fun request => !request.2.any lost).map Prod.fst =
      if task.index?.any lost then [] else w.askedBy task := by
  have asked : w.requestsAt (.turn 0) = (w.askedBy task).map fun pass => (pass, task.index?) := by
    rw [World.requestsAt, queue]
    rfl
  rw [asked, List.filter_map, List.map_map]
  cases status : task.index?.any lost with
  | true =>
      have none : (w.askedBy task).filter (fun _ => !task.index?.any lost) = [] :=
        List.filter_eq_nil_iff.mpr fun _ _ => by simp [status]
      exact congrArg (List.map _) none
  | false =>
      have all : (w.askedBy task).filter (fun _ => !task.index?.any lost) = w.askedBy task :=
        List.filter_eq_self.mpr fun _ _ => by simp [status]
      exact (congrArg (List.map _) all).trans (List.map_id _)

theorem any_index {task : Task} {rest : List Task} (queue : one.world.queue = task :: rest)
    (agrees : one.Agrees fails lost) :
    task.index?.any lost = task.index?.any (one.loses fails) := by
  cases task with
  | pass | lookUp => rfl
  | delayed index =>
      have member : .delayed index ∈ one.world.queue := by
        rw [queue]
        exact List.mem_cons_self
      exact agrees.loses (one.queued index member)

/-- What is lost has its turn, and nothing changes in the mirror. -/
theorem Mirrors.turn_lost (mirrors : Mirrors fails one w) {task : Task} {rest : List Task}
    (queue : one.world.queue = task :: rest) (gone : task.index?.any (one.loses fails) = true)
    (faults : Faults) : Mirrors fails (one.turn faults) w := by
  intro lost agrees
  have agrees := agrees.earlier (turn_commissions faults one)
  rcases mirrors lost agrees with ⟨thin, passes⟩
  rw [← any_index queue agrees] at gone
  have facing : World.Thin lost (one.world.facing faults) w :=
    thin.even ⟨_, _, _, _, rfl⟩ (.refl w)
  constructor
  · rw [turn_world]
    exact facing.turn_lost queue (Task.left?_eq_none_iff.mpr gone)
  · rw [turn_requests, List.filter_append, List.map_append, ← passes,
      filter_requestsAt (w := one.world.facing faults) queue, if_pos gone, List.append_nil]

/-- What a lookup orders in the next turn is lost if the lookup is one of those that fail. -/
theorem fate_of_agrees {task : Task} {rest : List Task} (queue : one.world.queue = task :: rest)
    (agrees : (one.turn faults).Agrees fails lost) {lookup : Lookup}
    (looks : task.lookup? = some lookup)
    (orders : (one.world.facing faults).orderedBy lookup ≠ []) :
    lost one.world.delayed.length = fails one.world.lookups.length := by
  rcases World.orderedBy_cases (one.world.facing faults) lookup with none | ⟨order, ordered⟩
  · exact absurd none orders
  · have member : order ∈ (one.world.facing faults).orderedBy lookup := by
      rw [ordered]
      exact List.mem_singleton_self _
    have looked : (one.world.facing faults).lookedUpAt (.turn 0) = [lookup] := by
      show (((one.world.queue)[0]?).bind Task.lookup?).toList = [lookup]
      rw [queue, List.getElem?_cons_zero, Option.bind_some, looks, Option.toList_some]
    have rescan : order.isRescan = true := by
      rw [Order.isRescan, World.reason_of_orderedBy member]
      rfl
    have commissions : (one.turn faults).commissions =
        one.commissions ++ [(order, some one.world.lookups.length)] := by
      rw [turn_commissions, World.commissionsAt, World.orderedAt, looked, List.flatMap_singleton,
        ordered, List.map_singleton, if_pos rescan]
      rfl
    refine agrees _ (order, some one.world.lookups.length) ?_
    rw [commissions, ← length_commissions, List.getElem?_concat_length]

theorem Mirrors.thin (mirrors : Mirrors fails one w) : World.Thin (one.loses fails) one.world w :=
  (mirrors _ (one.agrees_loses fails)).1

/-- Where nothing is left to do, nothing is left to do in the mirror. -/
theorem Mirrors.idle (mirrors : Mirrors fails one other.world) (queue : one.world.queue = [])
    (fuel fuel' : Nat) :
    Mirrors fails (turns (·.world.queue.isEmpty) (Run.turn faults) fuel one)
      (turns (·.world.queue.isEmpty) (Run.turn faults') fuel' other).world := by
  have queue' : other.world.queue = [] := by rw [mirrors.thin.queue, queue, List.filterMap_nil]
  rw [turns_of_idle _ _ (by rw [queue, List.isEmpty_nil]),
    turns_of_idle _ _ (by rw [queue', List.isEmpty_nil])]
  exact mirrors

/-! ## Time and what is asked from outside -/

/-- An action that is no turn asks the engine for nothing. -/
theorem Mirrors.step (mirrors : Mirrors fails one w) {action : Action} {w' : World}
    (unasked : one.world.requestsAt action = []) (passes : w'.passes = w.passes)
    (thin : ∀ lost, (one.step action).Agrees fails lost → World.Thin lost one.world w →
      World.Thin lost (one.world.act action) w') :
    Mirrors fails (one.step action) w' := by
  intro lost later
  have commissions : (one.step action).commissions =
      one.commissions ++ one.world.commissionsAt action := one.collect_step _ action
  have requests : (one.step action).requests = one.requests ++ one.world.requestsAt action :=
    one.collect_step _ action
  have before := mirrors lost (later.earlier commissions)
  rw [world_step, requests, unasked, List.append_nil, passes]
  exact ⟨thin lost later before.1, before.2⟩

/-- Time passes up to a moment. -/
theorem Mirrors.pass (mirrors : Mirrors fails one w) {time : Nat} (later : one.world.now ≤ time) :
    Mirrors fails (one.step (.pass (time - one.world.now))) { w with now := time } := by
  refine mirrors.step rfl rfl fun lost _ thin => ?_
  show World.Thin lost ({ one.world with now := one.world.now + (time - one.world.now) } : World) _
  rw [Nat.add_sub_cancel' later]
  exact thin.pass time

theorem Mirrors.arrive (mirrors : Mirrors fails one w) {due : Nat} (later : one.world.now ≤ due) :
    Mirrors fails (one.arrive due) (w.fireAt due) := by
  rw [Run.arrive, extend_cons]
  refine (mirrors.pass later).step rfl rfl fun lost _ thin => ?_
  have reached : (one.step (.pass (due - one.world.now))).world.now = due := by
    rw [world_step]
    exact Nat.add_sub_cancel' later
  show World.Thin lost (if due ≤ _ then World.fire _ due else _) _
  rw [reached, if_pos (Nat.le_refl due)]
  exact thin.fire due

/-- The same is asked in both trials from outside. -/
theorem Mirrors.ask (mirrors : Mirrors fails one other.world) {action : Action}
    (outside : action.isExecution = false) :
    Mirrors fails (one.step action) (other.step action).world := by
  have turnless : ∀ place, action ≠ .turn place := by
    rintro place rfl
    cases outside
  have unasked : one.world.requestsAt action = [] := by
    cases action with
    | turn place => exact absurd rfl (turnless place)
    | _ => rfl
  have passes : (other.step action).world.passes = other.world.passes := by
    rw [world_step]
    exact (other.happens action).passes turnless
  refine mirrors.step unasked passes fun lost later thin => ?_
  rw [world_step]
  refine thin.act one.attuned other.attuned one.bounded other.bounded outside fun orders => ?_
  -- Only a scheduler that starts orders a pass at once, and it does so on nobody's behalf.
  have commissioned : ∃ order, one.world.commissionsAt action = [(order, none)] := by
    cases action with
    | start config =>
        rw [World.orderedAt] at orders
        split at orders
        · rename_i starts
          rw [World.commissionsAt, World.orderedAt, if_pos starts]
          exact ⟨_, rfl⟩
        · exact absurd rfl orders
    | turn place => exact absurd rfl (turnless place)
    | _ => exact absurd rfl orders
  rcases commissioned with ⟨order, commissioned⟩
  have commissions : (one.step action).commissions = one.commissions ++ [(order, none)] := by
    rw [← commissioned]
    exact one.collect_step _ action
  refine later _ (order, none) ?_
  rw [commissions, ← length_commissions, List.getElem?_concat_length]

/-- In each trial it is decided as one likes what fails from then on. -/
theorem Mirrors.decide (mirrors : Mirrors fails one other.world) {action action' : Action}
    (decides : action.decides = true) (decides' : action'.decides = true) :
    Mirrors fails (one.step action) (other.step action').world := by
  have even {w : World} {action : Action} (decides : action.decides = true) :
      World.Even w (w.act action) ∧ w.requestsAt action = [] ∧
        (w.act action).passes = w.passes := by
    cases action with
    | failEngine | failLookups => exact ⟨⟨_, _, _, _, rfl⟩, rfl, rfl⟩
    | _ => cases decides
  rw [world_step]
  exact mirrors.step (even decides).2.1 (even decides').2.2
    fun lost _ thin => thin.even (even decides).1 (even decides').1

/-- A stop at a deadline of which nothing is left changes nothing but the time. -/
theorem stop_of_none (faults : Faults) (idle : other.world.queue = []) {due : Nat}
    (later : other.world.now ≤ due) (none : ∀ timer ∈ other.world.timers, timer.due ≠ due) :
    (other.stop faults due).world = { other.world with now := due } := by
  have waiting : other.world.timers.filter (fun timer => timer.due != due) = other.world.timers :=
    List.filter_eq_self.mpr fun timer member => bne_iff_ne.mpr (none timer member)
  have firing : other.world.timers.filter (fun timer => timer.due == due) = [] :=
    List.filter_eq_nil_iff.mpr fun timer member => by simp [none timer member]
  have arrived : (other.arrive due).world = { other.world with now := due } := by
    rw [arrive_world later, World.fireAt, waiting, firing, List.map_nil, List.append_nil]
  have queue : (other.arrive due).world.queue = [] := by
    rw [arrived]
    exact idle
  rw [Run.stop, Run.settle, turns_of_idle _ _ (by rw [queue, List.isEmpty_nil]), arrived]

/-! ## The executor in both trials -/

section

-- Of the lookups, those that failed in one trial fail in the other, and some others.
variable (worse : ∀ number, faults'.lookups number = (faults.lookups number || fails number))
include worse

/-- What is not lost has its turn in both trials. -/
theorem Mirrors.turn (mirrors : Mirrors fails one other.world) {task : Task} {rest : List Task}
    (queue : one.world.queue = task :: rest) (kept : task.index?.any (one.loses fails) = false) :
    Mirrors fails (one.turn faults) (other.turn faults').world := by
  intro lost later
  have agrees := later.earlier (turn_commissions faults one)
  rcases mirrors lost agrees with ⟨thin, passes⟩
  rw [← any_index queue agrees] at kept
  have facing : World.Thin lost (one.world.facing faults) (other.world.facing faults') :=
    thin.even ⟨_, _, _, _, rfl⟩ ⟨_, _, _, _, rfl⟩
  have failing : (other.world.facing faults').failLookups =
      ((one.world.facing faults).failLookups || fails one.world.lookups.length) := by
    show faults'.lookups other.world.lookups.length = _
    rw [thin.sees World.lookups fun _ => rfl, worse]
    rfl
  rcases Task.exists_left kept with ⟨task', left⟩
  have turns := facing.turn (one.attuned.of_eq rfl rfl) (other.attuned.of_eq rfl rfl)
    one.bounded other.bounded failing queue left
    fun lookup looks => fate_of_agrees queue later looks
  rw [turn_world, turn_world]
  refine ⟨turns.1, ?_⟩
  rw [turns.2, turn_requests, List.filter_append, List.map_append, ← passes,
    filter_requestsAt (w := one.world.facing faults) queue, if_neg (by simp [kept])]
  rfl

/-- All tasks have their turns in both trials, as long as there is anything to do. -/
theorem Mirrors.turns (fuel fuel' : Nat) {one other : Run}
    (mirrors : Mirrors fails one other.world)
    (enough : one.world.workload ≤ fuel) (enough' : other.world.workload ≤ fuel') :
    Mirrors fails (turns (·.world.queue.isEmpty) (Run.turn faults) fuel one)
      (turns (·.world.queue.isEmpty) (Run.turn faults') fuel' other).world := by
  induction fuel generalizing one other fuel' with
  | zero =>
      have none : one.world.queue.length = 0 := by
        unfold World.workload at enough
        omega
      exact mirrors.idle (List.eq_nil_of_length_eq_zero none) _ _
  | succ fuel inductionHypothesis =>
      cases queue : one.world.queue with
      | nil => exact mirrors.idle queue _ _
      | cons task rest =>
          have busy : one.world.queue.isEmpty = false := by rw [queue, List.isEmpty_cons]
          have less := turn_workload faults busy
          rw [Workbench.turns, if_neg (by simp [busy])]
          cases status : task.index?.any (one.loses fails) with
          | true =>
              exact inductionHypothesis fuel' (mirrors.turn_lost queue status faults) (by omega)
                enough'
          | false =>
              have busy' : other.world.queue.isEmpty = false := by
                rcases Task.exists_left status with ⟨task', left⟩
                rw [mirrors.thin.queue, queue, List.filterMap_cons_some left, List.isEmpty_cons]
              have less' := turn_workload faults' busy'
              cases fuel' with
              | zero => omega
              | succ fuel' =>
                  rw [Workbench.turns, if_neg (by simp [busy'])]
                  exact inductionHypothesis fuel' (mirrors.turn worse queue status) (by omega)
                    (by omega)

theorem Mirrors.settle (mirrors : Mirrors fails one other.world) :
    Mirrors fails (one.settle faults) (other.settle faults').world :=
  mirrors.turns worse _ _ one.world.workload_le other.world.workload_le

/-- Both trials stop at a deadline, which is no earlier than where they are. -/
theorem Mirrors.stop
    (mirrors : Mirrors fails one { other.world with now := one.world.now }) {due : Nat}
    (lags : other.world.now ≤ one.world.now) (later : one.world.now ≤ due) :
    Mirrors fails (one.stop faults due) (other.stop faults' due).world := by
  refine Mirrors.settle worse ?_
  rw [arrive_world (Nat.le_trans lags later)]
  exact mirrors.arrive later

/-- Both trials go from deadline to deadline, where the mirror may lag behind. -/
theorem Mirrors.goOn {finish : Nat} (fuel fuel' : Nat) {one other : Run}
    (mirrors : Mirrors fails one { other.world with now := one.world.now })
    (settled : one.world.Settled) (settled' : other.world.Settled)
    (lags : other.world.now ≤ one.world.now)
    (enough : one.world.timers.length < fuel) (enough' : other.world.timers.length < fuel') :
    Mirrors fails (one.goOn faults finish fuel)
        { (other.goOn faults' finish fuel').world with
          now := (one.goOn faults finish fuel).world.now } ∧
      (other.goOn faults' finish fuel').world.now ≤ (one.goOn faults finish fuel).world.now := by
  induction fuel generalizing one other fuel' with
  | zero => exact absurd enough (Nat.not_lt_zero _)
  | succ fuel inductionHypothesis =>
      have thin := mirrors.thin
      by_cases beyond : ∀ due, one.world.nextDue? = some due → finish < due
      · -- Nothing is due in either trial any more.
        have beyond' := World.beyond_of_nextDue? beyond
        have later : ∀ timer ∈ other.world.timers, finish < timer.due := by
          intro timer member
          rcases thin.exists_timer member with ⟨timer', member', same⟩
          rw [← same]
          exact beyond' timer' member'
        rw [goOn_of_beyond faults beyond', goOn_of_beyond faults' later]
        exact ⟨mirrors, lags⟩
      · simp only [not_forall, Nat.not_lt] at beyond
        rcases beyond with ⟨due, next, within⟩
        have later := settled.le_of_nextDue? next
        rcases stop_settled faults settled next with ⟨stopped, now, fewer⟩
        have both := mirrors.stop worse lags later
        rw [goOn_of_next faults next within]
        rcases thin.nextDue? next with next' | absent
        · -- Both stop.
          rcases stop_settled faults' settled' next' with ⟨stopped', now', fewer'⟩
          cases fuel' with
          | zero => exact absurd enough' (Nat.not_lt_zero _)
          | succ fuel' =>
              have level := now.trans now'.symm
              rw [goOn_of_next faults' next' within]
              refine inductionHypothesis fuel' ?_ stopped stopped' (Nat.le_of_eq level.symm)
                (by omega) (by omega)
              rw [level]
              exact both
        · -- What is due is lost, and the mirror lags behind.
          have none : ∀ timer ∈ other.world.timers, timer.due ≠ due :=
            fun timer member => Nat.ne_of_gt (absent timer member)
          have lags' := Nat.le_trans lags later
          rw [stop_of_none faults' settled'.idle lags' none] at both
          refine inductionHypothesis fuel' ?_ stopped settled' ?_ (by omega) enough'
          · rw [now]
            exact both
          · rwa [now]

theorem Mirrors.advance (mirrors : Mirrors fails one other.world) (punctual : one.world.Punctual)
    (punctual' : other.world.Punctual) (milliseconds : Nat) :
    Mirrors fails (one.advance faults milliseconds)
      (other.advance faults' milliseconds).world := by
  have settled := settle_settled faults punctual
  have settled' := settle_settled faults' punctual'
  have both := mirrors.settle worse
  have level : (one.settle faults).world.now = (other.settle faults').world.now := by
    rw [settle_now, settle_now, mirrors.thin.now]
  have within : (one.settle faults).world.now ≤ one.world.now + milliseconds := by
    rw [settle_now]
    exact Nat.le_add_right _ _
  have aligned : Mirrors fails (one.settle faults)
      { (other.settle faults').world with now := (one.settle faults).world.now } := by
    rw [level]
    exact both
  rcases aligned.goOn worse ((one.settle faults).world.timers.length + 1)
    ((other.settle faults').world.timers.length + 1) settled settled' (Nat.le_of_eq level.symm)
    (Nat.lt_succ_self _) (Nat.lt_succ_self _) with ⟨last, lags⟩
  have reached := (goOn_settled faults settled within (Nat.lt_succ_self _)).1.2
  unfold Run.advance
  dsimp only
  rw [mirrors.thin.now]
  generalize Run.goOn faults _ _ (one.settle faults) = one' at last lags reached
  generalize Run.goOn faults' _ _ (other.settle faults') = other' at last lags
  have passed : (other'.extend [.pass (one.world.now + milliseconds - other'.world.now)]).world =
      { other'.world with now := one.world.now + milliseconds } := by
    rw [world_extend]
    show ({ other'.world with now := other'.world.now + (_ - _) } : World) = _
    rw [Nat.add_sub_cancel' (Nat.le_trans lags reached)]
  rw [passed]
  exact last.pass reached

end

/-! ## Trials -/

end Run

/-- In a trial, the same is done as in another, but for decisions about what fails.  The engine may
fail in whatever way, and of the lookups those that failed fail again, and some others. -/
structure Step.Resembles (fails : Nat → Bool) (one other : Step) : Prop where
  command : other.command = one.command ∨
    one.command.decides = true ∧ other.command.decides = true
  lookups : ∀ number,
    other.faults.lookups number = (one.faults.lookups number || fails number)

namespace Run

variable {fails : Nat → Bool} {one other : Run}

theorem Mirrors.follow (mirrors : Mirrors fails one other.world) (punctual : one.world.Punctual)
    (punctual' : other.world.Punctual) {step step' : Step}
    (resembles : Step.Resembles fails step step') :
    Mirrors fails (one.follow step) (other.follow step').world := by
  rcases step with ⟨command, faults⟩
  rcases step' with ⟨command', faults'⟩
  rcases resembles with ⟨same | ⟨decides, decides'⟩, lookups⟩
  · cases same
    cases command with
    | ask action outside => exact mirrors.ask outside
    | settle => exact mirrors.settle lookups
    | advance milliseconds => exact mirrors.advance lookups punctual punctual' milliseconds
  · cases command with
    | settle | advance => cases decides
    | ask action outside =>
        cases command' with
        | settle | advance => cases decides'
        | ask action' outside' => exact mirrors.decide decides decides'

theorem Mirrors.trial {steps others : List Step}
    (resemble : List.Forall₂ (Step.Resembles fails) steps others)
    (mirrors : Mirrors fails one other.world) (punctual : one.world.Punctual)
    (punctual' : other.world.Punctual) :
    Mirrors fails (steps.foldl Run.follow one) (others.foldl Run.follow other).world := by
  induction resemble generalizing one other with
  | nil => exact mirrors
  | cons resembles _ inductionHypothesis =>
      exact inductionHypothesis (mirrors.follow punctual punctual' resembles)
        (follow_punctual punctual _) (follow_punctual punctual' _)

/-- Nothing depends on whether requests to the engine fail, at any moment of any trial.  Where
lookups fail, exactly the rescans are missing that they would have ordered: those that would be
pending, and those that would have reached the engine.  The executor of the world makes such a trial
of whatever it is told to do. -/
theorem failures_do_not_interfere {fails : Nat → Bool} {steps others : List Step}
    (resemble : List.Forall₂ (Step.Resembles fails) steps others) (hasRuntime : Bool) :
    let one := Run.trial hasRuntime steps
    let other := Run.trial hasRuntime others
    -- What can be seen at the moment, apart from passes.
    (other.world.lookups = one.world.lookups ∧ other.world.cleared = one.world.cleared ∧
      other.world.now = one.world.now ∧ other.world.editors = one.world.editors ∧
      other.world.listeners = one.world.listeners ∧
      other.world.schedulers.map Scheduler.bare = one.world.schedulers.map Scheduler.bare) ∧
    -- What the engine was asked for, in order.
    (one.world.passes = one.requests.map Prod.fst ∧
      other.world.passes =
        (one.requests.filter fun request => !request.2.any (one.loses fails)).map Prod.fst) ∧
    -- What is pending.
    (∀ scheduler, one.world.pendingTimers scheduler =
      other.world.pendingTimers scheduler +
        (one.world.running scheduler).countP (one.loses fails)) ∧
    -- What is missing are rescans.
    (∀ index, one.loses fails index = true → ∀ pass, (pass, some index) ∈ one.requests →
      pass = .openFiles .configFileSaved ∧
        ∃ number, one.causeOf index = some number ∧ fails number = true ∧
          number < one.world.lookups.length) ∧
    -- What is going to happen.
    World.Thin (one.loses fails) one.world other.world ∧
    -- Nothing is missing if the same lookups fail.
    ((∀ number, fails number = false) →
      other.world.passes = one.world.passes ∧
        (∀ scheduler, other.world.pendingTimers scheduler = one.world.pendingTimers scheduler) ∧
        other.world.delayed = one.world.delayed ∧ other.world.timers = one.world.timers ∧
        other.world.queue = one.world.queue) ∧
    -- What the executor of the world does is a trial.
    ∀ commands : List Command,
      (Run.trial hasRuntime (World.plainly { hasRuntime } commands)).world =
        commands.foldl World.follow { hasRuntime } := by
  intro one other
  have start : Mirrors fails ⟨hasRuntime, []⟩ (Run.world ⟨hasRuntime, []⟩) := by
    intro lost _
    exact ⟨⟨rfl, rfl, fun _ => rfl, rfl, rfl, rfl⟩, rfl⟩
  have punctual : (Run.world ⟨hasRuntime, []⟩).Punctual := fun timer member => by cases member
  have mirrors : Mirrors fails one other.world := start.trial resemble punctual punctual
  have thin := mirrors.thin
  have passes := (mirrors _ (one.agrees_loses fails)).2
  refine ⟨⟨thin.sees World.lookups fun _ => rfl, thin.sees World.cleared fun _ => rfl, thin.now,
    thin.sees World.editors fun _ => rfl, thin.sees World.listeners fun _ => rfl,
    thin.schedulers⟩, ⟨one.passes_eq, passes⟩, thin.pendingTimers,
    fun index gone pass asked => rescan_of_loses gone asked, thin, fun none => ?_,
    foldl_plainly punctual⟩
  rw [loses_of_none none] at thin passes
  refine ⟨?_, fun scheduler => ?_, thin.same⟩
  · rw [passes, one.passes_eq, List.filter_eq_self.mpr]
    rintro ⟨pass, index⟩ _
    cases index <;> rfl
  · rw [thin.pendingTimers, List.countP_false]
    rfl

/-- A linter's configuration file is saved twice, and the interpreter changes. -/
def twoSaves : List Command :=
  let file : Document :=
    { uri := { scheme := "untitled", path := "setup.cfg" }, languageId := "ini" }
  [.ask (.start ⟨"python", "python", 5, 10, true⟩) rfl,
    .ask (.setLinters [⟨"flake8", ["setup.cfg"]⟩]) rfl, .ask (.saveDocument file) rfl, .advance 3,
    .ask (.saveDocument file) rfl, .settle, .ask .changeInterpreter rfl, .advance 8]

/-- Nothing fails. -/
def smooth : List Step :=
  twoSaves.map (⟨·, ⟨fun _ => false, fun _ => false⟩⟩)

/-- The first lookup fails, and every other request to the engine. -/
def rough : List Step :=
  twoSaves.map (⟨·, ⟨fun number => number % 2 == 0, fun number => number == 0⟩⟩)

theorem rough_lacks_a_rescan :
    let one := Run.trial true smooth
    let other := Run.trial true rough
    List.Forall₂ (Step.Resembles (· == 0)) smooth rough ∧
      other.world.lookups = one.world.lookups ∧ other.world.cleared = one.world.cleared ∧
      other.world.passes =
        (one.requests.filter fun request => !request.2.any (one.loses (· == 0))).map Prod.fst ∧
      one.world.passes = [.openFiles .interpreterChanged, .openFiles .startup,
        .openFiles .configFileSaved] ∧
      other.world.passes = [.openFiles .interpreterChanged, .openFiles .startup] ∧
      one.world.lookups.length = 2 ∧ one.world.pendingTimers 0 = 1 := by
  intro one other
  have resemble : List.Forall₂ (Step.Resembles (· == 0)) smooth rough := by
    refine List.forall₂_map_left_iff.mpr (List.forall₂_map_right_iff.mpr ?_)
    exact List.forall₂_same.mpr fun command _ => ⟨Or.inl rfl, fun _ => (Bool.false_or _).symm⟩
  have apart := failures_do_not_interfere resemble true
  exact ⟨resemble, apart.1.1, apart.1.2.1, apart.2.1.2, by decide +kernel, by decide +kernel,
    by decide +kernel, by decide +kernel⟩

end Run

end Lint
end Workbench
