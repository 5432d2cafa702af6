import Workbench.Proofs.Lint.Requests
import Workbench.Proofs.Turns

namespace Workbench

/-!
# The executor

The executor gives out turns in order until no task is left, and stops at each deadline while time
passes.  What it does is a run as any other (`Run.Serves`), and when it is done no task is left and
no timer is past (`World.Settled`).
-/

namespace Lint

/-- What the executor does on its own: it gives out turns, lets time pass, and lets timers fire. -/
def Action.isExecution : Action → Bool
  | turn _ | pass _ | fire _ => true
  | _ => false

namespace World

variable {w w' : World}

/-- No timer is past. -/
def Punctual (w : World) : Prop :=
  ∀ timer ∈ w.timers, w.now < timer.due

/-- All tasks had their turns, and no timer is past. -/
structure Settled (w : World) : Prop where
  idle : w.queue = []
  punctual : w.Punctual

/-- How many turns there may be before no task is left: a lookup may add one. -/
def workload (w : World) : Nat :=
  w.queue.length + w.queue.countP fun task => task.lookup?.isSome

/-! ## Time -/

theorem schedule_now (w : World) (scheduler delay : Nat) (reason : Reason) :
    (w.schedule scheduler delay reason).now = w.now := by
  rw [schedule_eq]
  cases w.live? scheduler <;> rfl

theorem lint_now (w : World) (pass : Pass) : (w.lint pass).now = w.now := by
  cases pass <;> (unfold lint; dsimp only; split <;> rfl)

theorem perform_now (w : World) (task : Task) : (w.perform task).now = w.now := by
  cases task with
  | pass pass => exact w.lint_now pass
  | lookUp scheduler uri baseName =>
      show (w.lookUp scheduler uri baseName).now = w.now
      unfold lookUp
      dsimp only
      split
      · rfl
      · split
        · split
          · rfl
          · exact schedule_now _ _ _ _
        · rfl
  | delayed index =>
      show (w.awaitDue index).now = w.now
      unfold awaitDue
      split
      · rfl
      · split
        · rfl
        · split
          · exact lint_now _ _
          · rfl

theorem turnAt_now (w : World) (place : Nat) : (w.turnAt place).now = w.now := by
  unfold turnAt
  split
  · exact perform_now _ _
  · rfl

theorem disposeScheduler_now (w : World) (scheduler : Nat) :
    (w.disposeScheduler scheduler).now = w.now := by
  unfold disposeScheduler
  split
  · rfl
  · split <;> rfl

theorem Asks.now {tasks : List Task} (asks : Asks tasks w w') : w'.now = w.now := by
  rcases asks with ⟨cleared, log, rfl⟩
  rfl

/-- The clock stands still unless time passes. -/
theorem act_now {action : Action} (timeless : ∀ milliseconds, action ≠ .pass milliseconds) :
    (w.act action).now = w.now := by
  cases action with
  | start config =>
      show ((w.startScheduler config).toOption.getD w).now = w.now
      unfold startScheduler
      split
      · unfold Except.toOption addScheduler
        dsimp only [Option.getD_some]
        split
        · exact schedule_now _ _ _ _
        · rfl
      · rfl
  | dispose scheduler => exact w.disposeScheduler_now scheduler
  | drop scheduler => exact w.disposeScheduler_now scheduler
  | openDocument document =>
      exact (tell_asks (w := { w with editors := w.editors.add document })
        (fun _ _ => onOpened_asks document) .opened).now
  | closeDocument document =>
      exact (tell_asks (w := { w with editors := w.editors.close document.uri })
        (fun _ _ => onClosed_asks document) .closed).now
  | saveDocument document => exact (tell_asks (fun _ _ => onSaved_asks document) .saved).now
  | changeConfiguration change =>
      exact (tell_asks (fun _ _ => onConfigurationChanged_asks change) .configuration).now
  | changeInterpreter => exact (tell_asks (fun _ _ => onInterpreterChanged_asks) .interpreter).now
  | setSwitches | setLinters | failLookups | failEngine => rfl
  | turn place => exact w.turnAt_now place
  | pass milliseconds => exact absurd rfl (timeless milliseconds)
  | fire due =>
      show (if due ≤ w.now then w.fire due else w).now = w.now
      split <;> rfl

theorem Obeys.timers {orders : List Order} (obeys : Obeys orders w w') : w'.timers = w.timers := by
  cases obeys with
  | nothing calm queue => exact calm.timers
  | schedules schedules => exact schedules.timers

/-- Timers are started for deadlines that are still to come. -/
theorem Happens.timers {action : Action} (happens : Happens w action w') :
    ∀ timer ∈ w'.timers, timer ∈ w.timers ∨ w.now < timer.due := by
  have same (timers : w'.timers = w.timers) :
      ∀ timer ∈ w'.timers, timer ∈ w.timers ∨ w.now < timer.due := by
    rw [timers]
    exact fun timer member => Or.inl member
  cases happens with
  | calm calm => exact same calm.timers
  | started adds obeys => exact same (obeys.timers.trans adds.timers)
  | retired _ retires => exact same retires.timers
  | linted _ _ _ _ timers => exact same timers
  | lookedUp _ asked obeys =>
      rcases asked with ⟨log, rfl⟩
      exact same (obeys.timers.trans rfl)
  | awaited _ awaits =>
      cases awaits with
      | ended _ unchanged => exact same (by rw [unchanged])
      | reaches _ _ _ _ _ _ timers => exact same timers
      | waits _ _ early started =>
          intro timer member
          rw [started] at member
          rcases List.mem_append.mp member with earlier | last
          · exact Or.inl earlier
          · rw [List.mem_singleton.mp last]
            exact Or.inr early
  | fired _ => exact fun timer member => Or.inl (List.mem_of_mem_filter member)

theorem Punctual.act (punctual : w.Punctual) (attuned : w.Attuned) {action : Action}
    (timeless : ∀ milliseconds, action ≠ .pass milliseconds) : (w.act action).Punctual := by
  intro timer member
  rw [act_now timeless]
  exact ((act_happens attuned action).timers timer member).elim (punctual timer) id

/-! ## Turns -/

theorem turn_eq (w : World) : w.turn = w.act (.turn 0) := by
  show w.turn = w.turnAt 0
  unfold turn turnAt
  cases w.queue <;> rfl

theorem turn_of_cons {task : Task} {rest : List Task} (queue : w.queue = task :: rest) :
    w.turn = { w with queue := rest }.perform task := by
  unfold World.turn
  rw [queue]

theorem schedule_workload (w : World) (scheduler delay : Nat) (reason : Reason) :
    (w.schedule scheduler delay reason).workload ≤ w.workload + 1 := by
  rw [schedule_eq]
  cases w.live? scheduler with
  | none => exact Nat.le_succ _
  | some s =>
      let last := [Task.delayed w.delayed.length]
      have none : last.countP (fun task => task.lookup?.isSome) = 0 := rfl
      show (w.queue ++ last).length + (w.queue ++ last).countP _ ≤ w.workload + 1
      rw [List.length_append, List.countP_append, none, workload]
      exact Nat.le_of_eq (Nat.add_right_comm _ _ _)

/-- A turn leaves less to do than there was before the task was taken from the queue. -/
theorem perform_workload (w : World) (task : Task) :
    (w.perform task).workload < w.workload + if task.lookup?.isSome then 2 else 1 := by
  have unchanged {v : World} (queue : v.queue = w.queue) :
      v.workload < w.workload + if task.lookup?.isSome then 2 else 1 := by
    rw [workload, queue, ← workload]
    split <;> omega
  cases task with
  | pass pass => exact unchanged (w.lint_frame pass).2.2.1
  | lookUp scheduler uri baseName =>
      show (w.lookUp scheduler uri baseName).workload < w.workload + 2
      unfold lookUp
      dsimp only
      split
      · exact unchanged rfl
      · split
        · split
          · exact unchanged rfl
          · exact Nat.lt_succ_of_le (schedule_workload _ _ _ _)
        · exact unchanged rfl
  | delayed index =>
      refine unchanged ?_
      cases w.awaitDue_awaits index with
      | ended _ same | waits _ _ _ same => exact (congrArg World.queue same).trans rfl
      | reaches _ _ _ _ _ queue => exact queue

theorem turn_workload (busy : w.queue.isEmpty = false) : w.turn.workload < w.workload := by
  cases queue : w.queue with
  | nil => simp [queue] at busy
  | cons task rest =>
      have before : w.workload = World.workload { w with queue := rest } +
          if task.lookup?.isSome then 2 else 1 := by
        simp only [workload, queue, List.length_cons, List.countP_cons]
        split <;> omega
      rw [turn_of_cons queue, before]
      exact perform_workload _ _

theorem workload_le (w : World) : w.workload ≤ 2 * w.queue.length := by
  have lookups := w.queue.countP_le_length (p := fun task => task.lookup?.isSome)
  unfold workload
  omega

/-- No task is left. -/
theorem run_queue (w : World) : w.run.queue = [] :=
  List.isEmpty_iff.mp (turns_isIdle workload (fun _ => True)
    (fun _ busy _ => ⟨trivial, turn_workload busy⟩) _ trivial w.workload_le).2

theorem run_now (w : World) : w.run.now = w.now :=
  turns_induction (fun v : World => v.now = w.now)
    (fun v _ same => by rw [turn_eq, act_now (by rintro _ ⟨⟩), same]) _ rfl

/-- All tasks are of delayed passes whose deadlines are past. -/
def Prompt (w : World) : Prop :=
  ∀ task ∈ w.queue, ∃ index, task = .delayed index ∧
    ∀ pass, w.delayed[index]? = some pass → pass.due ≤ w.now

theorem Prompt.turn (prompt : w.Prompt) : w.turn.Prompt ∧ w.turn.timers = w.timers := by
  cases queue : w.queue with
  | nil =>
      have same : w.turn = w := by
        unfold World.turn
        rw [queue]
      rw [same]
      exact ⟨prompt, rfl⟩
  | cons task rest =>
      rcases prompt task (by rw [queue]; exact List.mem_cons_self) with ⟨index, rfl, past⟩
      have turns : w.turn = { w with queue := rest }.awaitDue index := turn_of_cons queue
      have others {other : Task} (member : other ∈ rest) := prompt other (by
        rw [queue]
        exact List.mem_cons_of_mem _ member)
      have now : w.turn.now = w.now := by rw [turn_eq, act_now (by rintro _ ⟨⟩)]
      rw [turns] at now ⊢
      have awaits := awaitDue_awaits { w with queue := rest } index
      generalize { w with queue := rest }.awaitDue index = w' at awaits now
      cases awaits with
      | ended _ same =>
          subst same
          exact ⟨fun other member => others member, rfl⟩
      | reaches _ _ _ _ delayed queue timers =>
          refine ⟨fun other member => ?_, timers⟩
          rw [queue] at member
          rcases others member with ⟨index', rfl, past'⟩
          refine ⟨index', rfl, fun pass found => ?_⟩
          rw [delayed, List.getElem?_modify] at found
          rcases Option.map_eq_some_iff.mp found with ⟨before, found', rfl⟩
          rw [now]
          have due := past' before found'
          split <;> exact due
      | waits found _ early => exact absurd (past _ found) (Nat.not_le_of_lt early)

theorem Prompt.run_timers (prompt : w.Prompt) : w.run.timers = w.timers :=
  (turns_induction (fun v : World => v.Prompt ∧ v.timers = w.timers)
    (fun _ _ kept => kept.1.turn.imp_right (·.trans kept.2)) _ ⟨prompt, rfl⟩).2

/-! ## Deadlines -/

theorem fireAt_eq {due : Nat} (later : w.now ≤ due) :
    w.fireAt due = (w.act (.pass (due - w.now))).act (.fire due) := by
  have reached : w.now + (due - w.now) = due := Nat.add_sub_cancel' later
  show w.fireAt due =
    if due ≤ w.now + (due - w.now) then
      World.fire { w with now := w.now + (due - w.now) } due
    else _
  rw [reached, if_pos (Nat.le_refl due)]
  rfl

theorem nextDue?_eq_some_iff {due : Nat} :
    w.nextDue? = some due ↔
      (∃ timer ∈ w.timers, timer.due = due) ∧ ∀ timer ∈ w.timers, due ≤ timer.due := by
  simp [nextDue?, List.min?_eq_some_iff]

/-- No deadline has passed while nothing was done. -/
theorem Settled.le_of_nextDue? (settled : w.Settled) {due : Nat} (next : w.nextDue? = some due) :
    w.now ≤ due := by
  rcases nextDue?_eq_some_iff.mp next with ⟨⟨timer, member, rfl⟩, _⟩
  exact Nat.le_of_lt (settled.punctual timer member)

/-- What does not end at the next deadline ends after it. -/
theorem fireAt_punctual {due : Nat} (next : w.nextDue? = some due) : (w.fireAt due).Punctual := by
  intro timer found
  change timer ∈ w.timers.filter _ at found
  rw [List.mem_filter, bne_iff_ne] at found
  exact Nat.lt_of_le_of_ne ((nextDue?_eq_some_iff.mp next).2 timer found.1) found.2.symm

theorem length_timers_fireAt {due : Nat} (next : w.nextDue? = some due) :
    (w.fireAt due).timers.length < w.timers.length := by
  rcases nextDue?_eq_some_iff.mp next with ⟨⟨timer, member, ends⟩, _⟩
  show (w.timers.filter _).length < _
  refine List.length_filter_lt_length_iff_exists.mpr ⟨timer, member, ?_⟩
  simp [ends]

end World

namespace Run

variable {run : Run} {w : World}

/-- A run that goes on may get to a world. -/
def Leads (run : Run) (w : World) : Prop :=
  ∃ more, (run.extend more).world = w

/-- It may get there by what the executor does alone. -/
def Serves (run : Run) (w : World) : Prop :=
  ∃ more, (∀ action ∈ more, action.isExecution = true) ∧ (run.extend more).world = w

theorem serves_self (run : Run) : run.Serves run.world :=
  ⟨[], fun _ member => absurd member List.not_mem_nil, by rw [extend_nil]⟩

theorem leads_self (run : Run) : run.Leads run.world :=
  ⟨[], by rw [extend_nil]⟩

namespace Serves

theorem attuned (serves : run.Serves w) : w.Attuned := by
  rcases serves with ⟨more, _, rfl⟩
  exact (run.extend more).attuned

theorem act (serves : run.Serves w) {action : Action} (execution : action.isExecution = true) :
    run.Serves (w.act action) := by
  rcases serves with ⟨more, executions, rfl⟩
  refine ⟨more ++ [action], fun other member => ?_, ?_⟩
  · rcases List.mem_append.mp member with earlier | last
    · exact executions other earlier
    · rw [List.mem_singleton.mp last]
      exact execution
  · rw [← extend_extend]
    exact world_step _ action

theorem served (serves : run.Serves w) : run.Serves w.run :=
  turns_induction run.Serves
    (fun v _ serves => by
      rw [World.turn_eq]
      exact serves.act rfl) _ serves

/-- The executor serves all tasks. -/
theorem settle (serves : run.Serves w) (punctual : w.Punctual) :
    run.Serves w.run ∧ w.run.Settled := by
  have kept : run.Serves w.run ∧ w.run.Punctual :=
    turns_induction (fun v => run.Serves v ∧ v.Punctual)
      (fun v _ kept => by
        rw [World.turn_eq]
        exact ⟨kept.1.act rfl, kept.2.act kept.1.attuned (by rintro _ ⟨⟩)⟩) _ ⟨serves, punctual⟩
  exact ⟨kept.1, w.run_queue, kept.2⟩

/-- The tasks whose timers fire are those of passes that are due. -/
theorem fireAt_prompt (serves : run.Serves w) (idle : w.queue = []) (due : Nat) :
    (w.fireAt due).Prompt := by
  rcases serves with ⟨more, _, rfl⟩
  intro task member
  rw [World.fireAt, idle, List.nil_append] at member
  rcases List.mem_map.mp member with ⟨timer, fires, rfl⟩
  rw [List.mem_filter, beq_iff_eq] at fires
  refine ⟨timer.index, rfl, fun pass found => ?_⟩
  rcases (run.extend more).book.timed timer fires.1 with ⟨order, ordered, same⟩
  rcases (run.extend more).book.exists_order found with ⟨order', ordered', _, due'⟩
  rw [ordered] at ordered'
  cases ordered'
  exact Nat.le_of_eq (due'.symm.trans (same.symm.trans fires.2))

/-- The executor goes on to the next deadline. -/
theorem fires (serves : run.Serves w) (settled : w.Settled) {due : Nat}
    (next : w.nextDue? = some due) :
    (run.Serves (w.fireAt due).run ∧ (w.fireAt due).run.Settled ∧ (w.fireAt due).run.now = due) ∧
      (w.fireAt due).run.timers.length < w.timers.length := by
  have fired : run.Serves (w.fireAt due) := by
    rw [World.fireAt_eq (settled.le_of_nextDue? next)]
    exact (serves.act rfl).act rfl
  rcases fired.settle (World.fireAt_punctual next) with ⟨serves', settled'⟩
  refine ⟨⟨serves', settled', World.run_now _⟩, ?_⟩
  rw [(serves.fireAt_prompt settled.idle due).run_timers]
  exact World.length_timers_fireAt next

/-- While time passes, the executor does all that becomes due, and nothing else. -/
theorem advance (serves : run.Serves w) (punctual : w.Punctual) (milliseconds : Nat) :
    run.Serves (w.advance milliseconds) ∧ (w.advance milliseconds).Settled ∧
      (w.advance milliseconds).now = w.now + milliseconds := by
  let finish := w.now + milliseconds
  let fire (w : World) (due : Nat) : World := (w.fireAt due).run
  have start := serves.settle punctual
  have now : w.run.now ≤ finish := by
    rw [World.run_now]
    exact Nat.le_add_right _ _
  let kept (v : World) : Prop := run.Serves v ∧ v.Settled ∧ v.now ≤ finish
  have step (v : World) (due : Nat) (next : v.nextDue? = some due) (within : due ≤ finish)
      (holds : kept v) :
      kept (fire v due) ∧ (fire v due).timers.length < v.timers.length := by
    rcases holds.1.fires holds.2.1 next with ⟨⟨serves', settled', reached⟩, fewer⟩
    exact ⟨⟨serves', settled', Nat.le_trans (Nat.le_of_eq reached) within⟩, fewer⟩
  have passes := passTime_beyond (fun v : World => v.timers.length) kept step
    (w.run.timers.length + 1) ⟨start.1, start.2, now⟩ (Nat.lt_succ_self _)
  have eq : w.advance milliseconds =
      { passTime World.nextDue? fire finish (w.run.timers.length + 1) w.run with now := finish } :=
    rfl
  rw [eq]
  generalize passTime World.nextDue? fire finish (w.run.timers.length + 1) w.run = v at passes
  rcases passes with ⟨⟨serves', settled, within⟩, beyond⟩
  refine ⟨?_, ⟨settled.idle, fun timer member => ?_⟩, rfl⟩
  · have passing : (Action.pass (finish - v.now)).isExecution = true := rfl
    have passed : run.Serves { v with now := v.now + (finish - v.now) } := serves'.act passing
    rwa [Nat.add_sub_cancel' within] at passed
  · cases next : v.nextDue? with
    | none =>
        rw [World.nextDue?, List.min?_eq_none_iff, List.map_eq_nil_iff] at next
        rw [next] at member
        cases member
    | some due =>
        exact Nat.lt_of_lt_of_le (beyond due next)
          ((World.nextDue?_eq_some_iff.mp next).2 timer member)

end Serves

/-- What the executor does is a run as any other. -/
theorem Leads.advance (leads : run.Leads w) (punctual : w.Punctual) (milliseconds : Nat) :
    run.Leads (w.advance milliseconds) ∧ (w.advance milliseconds).Settled ∧
      (w.advance milliseconds).now = w.now + milliseconds := by
  rcases leads with ⟨more, rfl⟩
  have advanced := (run.extend more).serves_self.advance punctual milliseconds
  refine ⟨?_, advanced.2⟩
  rcases advanced.1 with ⟨others, _, same⟩
  rw [extend_extend] at same
  exact ⟨more ++ others, same⟩

end Run

end Lint
end Workbench
