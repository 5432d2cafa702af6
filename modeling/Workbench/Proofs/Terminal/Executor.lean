import Workbench.Proofs.Terminal.Workload
import Workbench.Proofs.Turns

namespace Workbench
namespace Terminal

/-!
# The executor

The executor gives out turns in the order of its queue until that is empty, and stops at each time
at which a timer ends.  What it does is orderly, and it is done in the number of steps that it
allows itself.  So a state that is reached when it does its work after all that happens from outside
is the state of an orderly run, and nothing that could run is left in it.
-/

namespace World

variable {w w' : World} {call : Nat}

theorem turn_eq {rest : List Nat} (queue : w.queue = call :: rest) :
    w.turn = World.poll { w with queue := w.queue.eraseIdx 0 } call := by
  unfold turn
  rw [queue]
  rfl

theorem nextDue?_eq_some_iff {due : Nat} :
    w.nextDue? = some due ↔
      (∃ timer ∈ w.timers, timer.due = due) ∧ ∀ timer ∈ w.timers, due ≤ timer.due := by
  simp [nextDue?, List.min?_eq_some_iff]

end World

namespace Action

/-- What the executor does on its own. -/
def isExecution : Action → Bool
  | poll _ | arrange .. | pass _ => true
  | _ => false

end Action

namespace Run

variable {run : Run} {w : World}

/-- What the executor can make of a run on its own. -/
def Serves (run : Run) (w : World) : Prop :=
  ∃ more, (∀ action ∈ more, action.isExecution = true) ∧ (run.extend more).Orderly ∧
    (run.extend more).world = w

namespace Serves

theorem orderly (serves : run.Serves w) : ∃ earlier : Run, earlier.Orderly ∧ earlier.world = w := by
  rcases serves with ⟨more, _, orderly, same⟩
  exact ⟨_, orderly, same⟩

theorem wakeful (serves : run.Serves w) : World.Wakeful none w ∧ w.Sound := by
  rcases serves.orderly with ⟨run', orderly, rfl⟩
  exact ⟨orderly.wakeful, run'.sound⟩

/-- It goes on by actions of its own. -/
theorem extend (serves : run.Serves w) (others : List Action)
    (executions : ∀ action ∈ others, action.isExecution = true)
    (orderly : ∀ run' : Run, run'.Orderly → run'.world = w → (run'.extend others).Orderly) :
    run.Serves (others.foldl World.perform w) := by
  rcases serves with ⟨more, earlier, sofar, rfl⟩
  refine ⟨more ++ others, fun action member => ?_, ?_, ?_⟩
  · exact (List.mem_append.mp member).elim (earlier action) (executions action)
  · rw [← extend_extend]
    exact orderly _ sofar rfl
  · rw [← extend_extend, world_extend]

/-- One call after the other has its turn. -/
theorem turn (serves : run.Serves w) {call : Nat} {rest : List Nat}
    (queue : w.queue = call :: rest) : run.Serves w.turn := by
  rw [World.turn_eq queue]
  refine serves.extend [.arrange (w.queue.eraseIdx 0) w.timers, .poll call]
    (by simp [Action.isExecution]) fun run' orderly same => ?_
  subst same
  rw [extend_cons, extend_cons, extend_nil]
  exact orderly.turn (by rw [queue]; rfl)

theorem pass (serves : run.Serves w) (milliseconds : Nat) :
    run.Serves { w with now := w.now + milliseconds } := by
  refine serves.extend [.pass milliseconds] (by simp [Action.isExecution])
    fun run' orderly _ => ?_
  rw [extend_cons, extend_nil]
  exact orderly.outside ⟨rfl, nofun⟩

theorem fired (serves : run.Serves w) {due : Nat} (past : due ≤ w.now) :
    run.Serves (w.fired due) := by
  have same : w.fired due = w.perform (.arrange (w.fired due).queue (w.fired due).timers) := by
    rcases World.fired_eq w due with ⟨queue, same, _⟩
    rw [same]
    rfl
  rw [same]
  refine serves.extend [.arrange (w.fired due).queue (w.fired due).timers]
    (by simp [Action.isExecution]) fun run' orderly same => ?_
  subst same
  rw [extend_cons, extend_nil]
  exact orderly.fires past

/-- The executor gives out turns until no call is left in the queue, and no timer is late after
that. -/
theorem settle (serves : run.Serves w) (punctual : w.Punctual) :
    run.Serves w.run ∧ w.run.Settled ∧ w.run.now = w.now ∧
      (w.Started → w.run.pendency ≤ w.pendency) := by
  let kept (v : World) : Prop := run.Serves v ∧ v.Punctual ∧ v.now = w.now ∧
    (w.Started → v.Started ∧ v.pendency ≤ w.pendency)
  have step (v : World) (busy : v.queue.isEmpty = false) (holds : kept v) :
      kept v.turn ∧ v.turn.workload < v.workload := by
    rcases holds with ⟨served, late, now, timers⟩
    cases queue : v.queue with
    | nil => simp [queue] at busy
    | cons call rest =>
        rcases served.wakeful with ⟨wakeful, sound⟩
        have next : v.queue[0]? = some call := by rw [queue]; rfl
        have sound' : World.Sound { v with queue := v.queue.eraseIdx 0 } := ⟨sound.each⟩
        rcases (wakeful.takes next).spends sound' late with ⟨now', late', less, timers'⟩
        have fewer : World.workload { v with queue := v.queue.eraseIdx 0 } < v.workload := by
          show (v.queue.eraseIdx 0).length + v.standing.card < v.queue.length + v.standing.card
          rw [queue]
          exact Nat.add_lt_add_right (Nat.lt_succ_self _) _
        rw [← World.turn_eq queue] at now' late' less timers'
        refine ⟨⟨served.turn queue, late', now'.trans now, fun started => ?_⟩,
          Nat.lt_of_le_of_lt less fewer⟩
        rcases timers started with ⟨started', within⟩
        rcases timers' started' with ⟨started'', within'⟩
        exact ⟨started'', Nat.le_trans within' within⟩
  have enough : w.workload ≤ w.queue.length + 2 * w.calls.length := by
    have counted := w.standing_card_le
    unfold World.workload
    omega
  have turned : kept w.run ∧ w.run.queue.isEmpty = true :=
    turns_isIdle World.workload kept step _
      ⟨serves, punctual, rfl, fun started => ⟨started, Nat.le_refl _⟩⟩ enough
  rcases turned with ⟨⟨served, late, now, timers⟩, idle⟩
  exact ⟨served, ⟨List.isEmpty_iff.mp idle, late⟩, now, fun started => (timers started).2⟩

/-- The executor goes on to the next time at which timers end. -/
theorem fires (serves : run.Serves w) (settled : w.Settled) {due : Nat}
    (next : w.nextDue? = some due) :
    (run.Serves (w.fireAt due).run ∧ (w.fireAt due).run.Settled ∧ (w.fireAt due).run.now = due) ∧
      (w.fireAt due).run.pendency < w.pendency := by
  rcases World.nextDue?_eq_some_iff.mp next with ⟨⟨timer, member, ends⟩, first⟩
  have later : w.now ≤ due := by
    rw [← ends]
    exact Nat.le_of_lt (settled.punctual timer member)
  have started := serves.wakeful.1.started settled.idle
  have reached : run.Serves { w with now := due } := by
    have passed := serves.pass (due - w.now)
    rwa [Nat.add_sub_cancel' later] at passed
  have fired : run.Serves (w.fireAt due) := reached.fired (Nat.le_refl due)
  rcases World.fired_eq { w with now := due } due with ⟨queue, same, _⟩
  have same : w.fireAt due = { w with
      now := due, queue, timers := w.timers.filter fun timer => timer.due != due } := same
  rw [same] at fired ⊢
  have punctual : World.Punctual { w with
      now := due, queue, timers := w.timers.filter fun timer => timer.due != due } := by
    intro other found
    rcases List.mem_filter.mp found with ⟨there, different⟩
    exact Nat.lt_of_le_of_ne (first other there) (bne_iff_ne.mp different).symm
  rcases fired.settle punctual with ⟨served, settled', now, less⟩
  refine ⟨⟨served, settled', now⟩, Nat.lt_of_le_of_lt (less started) ?_⟩
  refine Nat.add_lt_add_right ?_ w.hosts.card
  exact List.length_filter_lt_length_iff_exists.mpr ⟨timer, member, by simp [ends]⟩

/-- While time passes, the executor does all that becomes due. -/
theorem advance (serves : run.Serves w) (punctual : w.Punctual) (milliseconds : Nat) :
    run.Serves (w.advance milliseconds) ∧ (w.advance milliseconds).Settled := by
  let finish := w.now + milliseconds
  let fire (w : World) (due : Nat) : World := (w.fireAt due).run
  rcases serves.settle punctual with ⟨served, settled, now, _⟩
  have within : w.run.now ≤ finish := by
    rw [now]
    exact Nat.le_add_right _ _
  let kept (v : World) : Prop := run.Serves v ∧ v.Settled ∧ v.now ≤ finish
  have step (v : World) (due : Nat) (next : v.nextDue? = some due) (inside : due ≤ finish)
      (holds : kept v) : kept (fire v due) ∧ (fire v due).pendency < v.pendency := by
    rcases holds.1.fires holds.2.1 next with ⟨⟨served', settled', reached⟩, fewer⟩
    exact ⟨⟨served', settled', Nat.le_trans (Nat.le_of_eq reached) inside⟩, fewer⟩
  have enough : w.run.pendency < 2 * w.run.timers.length + 1 := by
    have counted := served.wakeful.1.hosts_card_le settled.idle
    unfold World.pendency
    omega
  have passes := passTime_beyond World.pendency kept step _ ⟨served, settled, within⟩ enough
  have eq : w.advance milliseconds = { passTime World.nextDue? fire finish
      (2 * w.run.timers.length + 1) w.run with now := finish } := rfl
  rw [eq]
  generalize passTime World.nextDue? fire finish (2 * w.run.timers.length + 1) w.run = v at passes
  rcases passes with ⟨⟨served', settled', within'⟩, beyond⟩
  refine ⟨?_, settled'.idle, fun timer member => ?_⟩
  · have passed := served'.pass (finish - v.now)
    rwa [Nat.add_sub_cancel' within'] at passed
  · cases next : v.nextDue? with
    | none =>
        rw [World.nextDue?, List.min?_eq_none_iff, List.map_eq_nil_iff] at next
        rw [next] at member
        cases member
    | some due =>
        exact Nat.lt_of_lt_of_le (beyond due next)
          ((World.nextDue?_eq_some_iff.mp next).2 timer member)

end Serves

theorem Orderly.serves (orderly : run.Orderly) : run.Serves run.world :=
  ⟨[], List.forall_mem_nil _, by rwa [extend_nil], by rw [extend_nil]⟩

end Run

/-! ## States in which the executor did its work -/

namespace World

variable {w : World}

/-- The states that are reached when one thing after another happens from outside and the executor
does its work in between, with or without letting time pass. -/
inductive Attained : World → Prop
  | start (env : Environment) : Attained { env }
  | outside {w : World} {action : Action} (attained : Attained w) (admits : w.Admits action)
      (timeless : ∀ milliseconds, action ≠ .pass milliseconds) : Attained (w.perform action)
  | runs {w : World} (attained : Attained w) : Attained w.run
  | advances {w : World} (attained : Attained w) (milliseconds : Nat) :
      Attained (w.advance milliseconds)

/-- What time it is, and for which times there are timers. -/
def clock (w : World) : Nat × List Timer :=
  (w.now, w.timers)

theorem Unseen.clock {w' : World} (unseen : Unseen w w') : w'.clock = w.clock := by
  rw [World.clock, World.clock, unseen.now, unseen.timers]

theorem Punctual.of_clock {w' : World} (punctual : w.Punctual) (same : w'.clock = w.clock) :
    w'.Punctual := by
  rcases Prod.mk.inj same with ⟨now, timers⟩
  intro timer member
  rw [timers] at member
  rw [now]
  exact punctual timer member

theorem clock_wake (w : World) (call : Nat) : (w.wake call).clock = w.clock := by
  unfold wake
  split <;> rfl

theorem clock_addCall (w : World) (service : Nat) (request : Request) :
    (w.addCall service request).clock = w.clock :=
  clock_wake { w with calls := w.calls ++ [({ service, request } : Call)] } w.calls.length

theorem clock_notify (w : World) (listener : Nat) : (w.notify listener).clock = w.clock := by
  unfold notify
  split
  · rfl
  · dsimp only
    split
    · rfl
    · exact (Unseen.dispose _ _).clock
    · exact clock_addCall _ _ _

theorem clock_hearClosed (w : World) (service terminal : Nat) :
    (w.hearClosed service terminal).clock = w.clock := by
  have notified (listeners : List Nat) (w : World) :
      (listeners.foldl notify w).clock = w.clock := by
    induction listeners generalizing w with
    | nil => rfl
    | cons first rest inductionHypothesis =>
        exact (inductionHypothesis _).trans (clock_notify w first)
  unfold hearClosed
  split
  · rfl
  · dsimp only
    split
    · exact notified _ _
    · rfl

theorem clock_close (w : World) (terminal : Nat) : (w.close terminal).clock = w.clock := by
  unfold close
  generalize w.host.closeListeners = services
  induction services generalizing w with
  | nil => rfl
  | cons service rest inductionHypothesis =>
      exact (inductionHypothesis _).trans (clock_hearClosed w service terminal)

/-- Nothing that happens from outside starts or stops a timer. -/
theorem Admits.clock {action : Action} (admits : w.Admits action)
    (timeless : ∀ milliseconds, action ≠ .pass milliseconds) :
    (w.perform action).clock = w.clock := by
  cases action with
  | poll | arrange => exact absurd admits.outside (by simp [Action.isOutside])
  | pass milliseconds => exact absurd rfl (timeless milliseconds)
  | call service request => exact clock_addCall w service request
  | close terminal => exact clock_close w terminal
  | dispose service => exact (Unseen.dispose w service).clock
  | release service => exact (Unseen.sweep _ service).clock
  | abort call =>
      show (w.abort call).clock = w.clock
      unfold abort
      split
      · rfl
      · split
        · rfl
        · exact clock_wake _ call
  | addService | retain | listen | unlisten | failCreation | failActivation | delay => rfl

/-- Such a state is one of an orderly run, and no timer is late there. -/
theorem Attained.orderly (attained : w.Attained) :
    (∃ run : Run, run.Orderly ∧ run.world = w) ∧ w.Punctual := by
  have serves {v : World} (orderly : ∃ run : Run, run.Orderly ∧ run.world = v) :
      ∃ run : Run, run.Serves v := by
    rcases orderly with ⟨run, orderly, rfl⟩
    exact ⟨run, orderly.serves⟩
  induction attained with
  | start env => exact ⟨⟨⟨env, []⟩, .start env, rfl⟩, List.forall_mem_nil _⟩
  | @outside v action _ admits timeless inductionHypothesis =>
      rcases inductionHypothesis with ⟨⟨run, orderly, rfl⟩, punctual⟩
      refine ⟨⟨run.step action, orderly.outside admits, Run.world_step run action⟩, ?_⟩
      exact punctual.of_clock (admits.clock timeless)
  | runs _ inductionHypothesis =>
      rcases serves inductionHypothesis.1 with ⟨run, serves⟩
      rcases serves.settle inductionHypothesis.2 with ⟨served, settled, _⟩
      exact ⟨served.orderly, settled.punctual⟩
  | advances _ milliseconds inductionHypothesis =>
      rcases serves inductionHypothesis.1 with ⟨run, serves⟩
      rcases serves.advance inductionHypothesis.2 milliseconds with ⟨served, settled⟩
      exact ⟨served.orderly, settled.punctual⟩

end World

end Terminal
end Workbench
