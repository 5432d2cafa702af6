import Workbench.Proofs.Lint.Outside

namespace Workbench
namespace Lint

/-!
# On whose behalf passes are made

A delayed pass is ordered by a scheduler that starts, or on behalf of a lookup, which is known by
its number.  Each request to the engine that is a delayed pass can be traced back to its order, and
so to the lookup without which it would not have been made.
-/

namespace World

variable {w w' : World} {action : Action}

/-- What is ordered, and on whose behalf: on that of a lookup, by its number, or on nobody's. -/
def commissionsAt (w : World) (action : Action) : List (Order × Option Nat) :=
  (w.orderedAt action).map fun order =>
    (order, if order.isRescan then some w.lookups.length else none)

/-- What the engine is asked for, and which delayed pass it is. -/
def requestsAt (w : World) : Action → List (Pass × Option Nat)
  | .turn place =>
    match w.queue[place]? with
    | some task => (w.askedBy task).map fun pass => (pass, task.index?)
    | none => []
  | _ => []

theorem act_requests (attuned : w.Attuned) (action : Action) :
    (w.act action).passes = w.passes ++ (w.requestsAt action).map Prod.fst := by
  have otherwise {action : Action} (turnless : ∀ place, action ≠ .turn place)
      (unasked : w.requestsAt action = []) :
      (w.act action).passes = w.passes ++ (w.requestsAt action).map Prod.fst := by
    rw [(act_happens attuned action).passes turnless, unasked, List.map_nil, List.append_nil]
  cases action with
  | turn place =>
      show (w.turnAt place).passes = _
      cases found : w.queue[place]? with
      | none => rw [turnAt_of_none found, requestsAt, found, List.map_nil, List.append_nil]
      | some task =>
          have attuned' : ({ w with queue := w.queue.eraseIdx place } : World).Attuned :=
            attuned.of_eq rfl rfl
          rw [turnAt_of_getElem? found, perform_passes attuned', requestsAt, found, List.map_map]
          exact congrArg _ (List.map_id _).symm
  | _ => exact otherwise (by rintro place ⟨⟩) rfl

/-! ## Tasks of delayed passes -/

/-- The tasks of delayed passes are those of passes that there are. -/
def Queued (w : World) : Prop :=
  ∀ index, .delayed index ∈ w.queue → index < w.delayed.length

theorem delayed_not_mem_tasksAt {index : Nat} : .delayed index ∉ w.tasksAt action := by
  intro member
  have left := filterMap_left?_tasksOf w action (fun _ => true) (List.range w.schedulers.length)
  change (w.tasksAt action).filterMap _ = w.tasksAt action at left
  rw [← left] at member
  rcases List.mem_filterMap.mp member with ⟨task, _, same⟩
  cases task <;> simp [Task.left?, moved?] at same

theorem Obeys.queued {orders : List Order} (obeys : Obeys orders w w') (queued : w.Queued) :
    w'.Queued := by
  intro index member
  cases obeys with
  | nothing calm queue =>
      rw [queue] at member
      rw [calm.delayed]
      exact queued index member
  | schedules schedules =>
      rw [schedules.queue] at member
      rw [schedules.delayed, List.length_append]
      rcases List.mem_append.mp member with earlier | last
      · exact Nat.lt_add_right _ (queued index earlier)
      · cases List.mem_singleton.mp last
        exact Nat.lt_succ_self _

theorem length_endAll (delayed : List Delayed) (indices : List Nat) :
    (endAll delayed indices).length = delayed.length := by
  have same := congrArg List.length (terms_endAll delayed indices)
  rwa [List.length_map, List.length_map] at same

theorem Queued.happens (queued : w.Queued)
    (timed : ∀ timer ∈ w.timers, timer.index < w.delayed.length)
    (happens : Happens w action w') : w'.Queued := by
  have erased (place : Nat) (lookups : List Inquiry) (log : List Log.Line) :
      World.Queued { w with queue := w.queue.eraseIdx place, lookups, log } :=
    fun index member => queued index (List.mem_of_mem_eraseIdx member)
  cases happens with
  | calm calm queue =>
      intro index member
      rw [queue] at member
      rw [calm.delayed]
      exact queued index ((List.mem_append.mp member).resolve_right delayed_not_mem_tasksAt)
  | started adds obeys =>
      refine obeys.queued fun index member => ?_
      rw [adds.queue] at member
      rw [adds.delayed]
      exact queued index member
  | retired _ retires =>
      intro index member
      rw [retires.queue] at member
      rw [retires.delayed, length_endAll]
      exact queued index member
  | linted _ _ delayed queue =>
      intro index member
      rw [queue] at member
      rw [delayed]
      exact queued index (List.mem_of_mem_eraseIdx member)
  | lookedUp _ asked obeys =>
      rcases asked with ⟨log, rfl⟩
      exact obeys.queued (erased _ _ log)
  | awaited _ awaits =>
      intro index member
      rw [awaits.queue] at member
      have inside := queued index (List.mem_of_mem_eraseIdx member)
      cases awaits with
      | ended _ same | waits _ _ _ same =>
          rw [same]
          exact inside
      | reaches _ _ _ _ delayed =>
          rw [delayed, List.length_modify]
          exact inside
  | fired _ =>
      intro index member
      rcases List.mem_append.mp member with earlier | firing
      · exact queued index earlier
      · rcases List.mem_map.mp firing with ⟨timer, fires, same⟩
        cases same
        exact timed timer (List.mem_of_mem_filter fires)

end World

namespace Run

variable {run : Run}

/-- What was ordered, and on whose behalf. -/
def commissions (run : Run) : List (Order × Option Nat) :=
  run.collect World.commissionsAt

/-- What the engine was asked for, and which delayed pass it was. -/
def requests (run : Run) : List (Pass × Option Nat) :=
  run.collect World.requestsAt

/-- The number of the lookup that ordered a delayed pass. -/
def causeOf (run : Run) (index : Nat) : Option Nat :=
  (run.commissions[index]?).bind Prod.snd

/-- Whether a delayed pass is lost when certain lookups fail. -/
def loses (run : Run) (fails : Nat → Bool) (index : Nat) : Bool :=
  (run.causeOf index).any fails

theorem loses_of_none {fails : Nat → Bool} (none : ∀ number, fails number = false) :
    run.loses fails = fun _ => false := by
  funext index
  rw [loses]
  cases run.causeOf index with
  | none => rfl
  | some number => exact none number

theorem passes_eq (run : Run) : run.world.passes = run.requests.map Prod.fst := by
  induction run using Run.induction with
  | start hasRuntime => rfl
  | step run action inductionHypothesis =>
      have requests : (run.step action).requests = run.requests ++ run.world.requestsAt action :=
        run.collect_step _ action
      rw [world_step, World.act_requests run.attuned, inductionHypothesis, requests,
        List.map_append]

theorem commissions_eq (run : Run) : run.commissions.map Prod.fst = run.ordered := by
  induction run using Run.induction with
  | start hasRuntime => rfl
  | step run action inductionHypothesis =>
      have commissions : (run.step action).commissions =
          run.commissions ++ run.world.commissionsAt action := run.collect_step _ action
      rw [commissions, ordered_step, List.map_append, inductionHypothesis, World.commissionsAt,
        List.map_map]
      exact congrArg _ (List.map_id _)

theorem length_commissions (run : Run) : run.commissions.length = run.world.delayed.length := by
  rw [run.book.length, ← commissions_eq, List.length_map]

/-- What is ordered on behalf of a lookup is a rescan, and the lookup was made. -/
theorem rescan_of_commission (run : Run) :
    ∀ commission ∈ run.commissions, ∀ number, commission.2 = some number →
      commission.1.reason = .configFileSaved ∧ number < run.world.lookups.length := by
  induction run using Run.induction with
  | start hasRuntime => exact fun commission member => absurd member List.not_mem_nil
  | step run action inductionHypothesis =>
      have commissions : (run.step action).commissions =
          run.commissions ++ run.world.commissionsAt action := run.collect_step _ action
      intro commission member number behalf
      rw [commissions] at member
      rw [world_step, (run.happens action).lookups, List.length_append]
      rcases List.mem_append.mp member with earlier | last
      · exact (inductionHypothesis commission earlier number behalf).imp_right (Nat.lt_add_right _)
      · rcases List.mem_map.mp last with ⟨order, ordered, rfl⟩
        dsimp only at behalf ⊢
        split at behalf
        · rename_i rescan
          cases behalf
          have looked : order ∈ run.world.rescansAt action := by
            rw [← World.filter_isRescan_orderedAt]
            exact List.mem_filter.mpr ⟨ordered, rescan⟩
          rcases List.mem_flatMap.mp looked with ⟨lookup, made, _⟩
          refine ⟨beq_iff_eq.mp rescan, Nat.lt_add_of_pos_right ?_⟩
          rw [List.length_map]
          exact List.length_pos_of_mem made
        · cases behalf

/-- A request that is a delayed pass is for what was ordered. -/
theorem order_of_request (run : Run) :
    ∀ request ∈ run.requests, ∀ index, request.2 = some index →
      ∃ order, run.ordered[index]? = some order ∧ request.1 = order.pass := by
  induction run using Run.induction with
  | start hasRuntime => exact fun request member => absurd member List.not_mem_nil
  | step run action inductionHypothesis =>
      have requests : (run.step action).requests = run.requests ++ run.world.requestsAt action :=
        run.collect_step _ action
      have kept {index : Nat} {pass : Pass}
          (known : ∃ order, run.ordered[index]? = some order ∧ pass = order.pass) :
          ∃ order, (run.step action).ordered[index]? = some order ∧ pass = order.pass := by
        rcases known with ⟨order, found, same⟩
        refine ⟨order, ?_, same⟩
        rw [ordered_step, List.getElem?_append_left (List.getElem?_eq_some_iff.mp found).1, found]
      intro request member index which
      rw [requests] at member
      rcases List.mem_append.mp member with earlier | last
      · exact kept (inductionHypothesis request earlier index which)
      · refine kept ?_
        unfold World.requestsAt at last
        split at last
        · split at last
          · rename_i task _
            rcases List.mem_map.mp last with ⟨pass, asked, rfl⟩
            cases task with
            | pass | lookUp => cases which
            | delayed other =>
                cases which
                rw [World.askedBy] at asked
                split at asked
                · rename_i delayed found
                  rcases run.book.exists_order found with ⟨order, ordered, reason, _⟩
                  split at asked
                  · refine ⟨order, ordered, ?_⟩
                    rw [List.mem_singleton.mp asked, Order.pass, reason]
                  · cases asked
                · cases asked
          · cases last
        · cases last

/-- What is lost when certain lookups fail is a rescan that one of them ordered. -/
theorem rescan_of_loses {run : Run} {fails : Nat → Bool} {index : Nat}
    (gone : run.loses fails index = true) {pass : Pass}
    (asked : (pass, some index) ∈ run.requests) :
    pass = .openFiles .configFileSaved ∧
      ∃ number, run.causeOf index = some number ∧ fails number = true ∧
        number < run.world.lookups.length := by
  rcases (Option.any_eq_true _ _).mp gone with ⟨number, cause, failing⟩
  rcases Option.bind_eq_some_iff.mp cause with ⟨commission, found, behalf⟩
  have rescan := run.rescan_of_commission commission (List.mem_of_getElem? found) number behalf
  rcases run.order_of_request _ asked index rfl with ⟨order, ordered, same⟩
  rw [← commissions_eq, List.getElem?_map, found, Option.map_some, Option.some.injEq] at ordered
  refine ⟨same.trans ?_, number, cause, failing, rescan.2⟩
  rw [← ordered, Order.pass, rescan.1]

theorem timed (run : Run) : ∀ timer ∈ run.world.timers, timer.index < run.world.delayed.length := by
  intro timer member
  rcases run.book.timed timer member with ⟨order, ordered, _⟩
  rw [run.book.length]
  exact (List.getElem?_eq_some_iff.mp ordered).1

theorem queued (run : Run) : run.world.Queued := by
  induction run using Run.induction with
  | start hasRuntime => exact fun index member => absurd member List.not_mem_nil
  | step run action inductionHypothesis =>
      rw [world_step]
      exact inductionHypothesis.happens run.timed (run.happens action)

theorem bounded (run : Run) : run.world.Bounded := by
  intro scheduler index member
  rw [World.pendingOf] at member
  cases found : run.world.schedulers[scheduler]? with
  | none =>
      rw [found] at member
      cases member
  | some s =>
      rw [found] at member
      change index ∈ s.pending at member
      cases standing : s.disposed with
      | true =>
          rw [run.released s (List.mem_of_getElem? found) standing] at member
          cases member
      | false =>
          have live := World.live?_eq_some_iff.mpr ⟨found, standing⟩
          rcases run.book.owned live index member with ⟨order, ordered, _⟩
          rw [run.book.length]
          exact (List.getElem?_eq_some_iff.mp ordered).1

end Run

end Lint
end Workbench
