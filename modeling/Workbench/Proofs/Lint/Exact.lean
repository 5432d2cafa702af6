import Workbench.Proofs.Lint.Executor

namespace Workbench
namespace Lint

/-!
# Delayed passes are exact

A delayed pass reaches the engine once, not before its deadline, and it has done so whenever no task
is left and no timer is past, unless its scheduler was disposed before, in which case it never does.
-/

/-- Capital letters of ASCII do not matter to which configuration files a linter reads. -/
theorem Linter.watches_iff (linter : Linter) (baseName : String) :
    linter.watches baseName = true ↔
      ∃ file ∈ linter.configFiles, Text.lowered file = Text.lowered baseName := by
  simp [watches, Text.lowered_eq_iff]

namespace World

variable {w w' : World} {action : Action} {scheduler : Nat}

theorem Obeys.disposed {orders : List Order} (obeys : Obeys orders w w')
    (disposed : w.live? scheduler = none) : w'.live? scheduler = none := by
  cases obeys with
  | nothing calm queue => rw [calm.live, disposed]
  | schedules schedules =>
      rw [schedules.others scheduler ?_, disposed]
      rintro rfl
      rcases schedules.live with ⟨s, before, _⟩
      rw [disposed] at before
      cases before

/-- A scheduler that is disposed stays so. -/
theorem Happens.disposed (happens : Happens w action w') (known : scheduler < w.configs.length)
    (disposed : w.live? scheduler = none) : w'.live? scheduler = none := by
  cases happens with
  | calm calm => rw [calm.live, disposed]
  | started adds obeys =>
      refine obeys.disposed ?_
      rw [World.configs, List.length_map] at known
      rw [adds.live, if_neg (Nat.ne_of_lt known), disposed]
  | retired _ retires => rw [retires.live, disposed, ite_self]
  | linted _ schedulers => rw [live?_of_schedulers schedulers, disposed]
  | lookedUp _ asked obeys =>
      rcases asked with ⟨log, rfl⟩
      exact obeys.disposed disposed
  | awaited _ awaits =>
      cases awaits with
      | ended _ same | waits _ _ _ same =>
          rw [same]
          exact disposed
      | reaches _ _ _ schedulers => rwa [live?_of_schedulers schedulers]
  | fired => exact disposed

namespace Book

variable {orders : List Order} {reached : List Nat}

/-- What reaches the engine was ordered, is due, and belongs to a scheduler that is not disposed. -/
theorem reachedAt (book : Book orders reached w) {index : Nat}
    (member : index ∈ w.reachedAt action) :
    ∃ order, orders[index]? = some order ∧ order.due ≤ w.now ∧ w.live? order.scheduler ≠ none ∧
      (w.act action).passes = w.passes ++ [order.pass] := by
  cases action with
  | turn place =>
      show ∃ order : Order, _ ∧ _ ∧ _ ∧ (w.turnAt place).passes = w.passes ++ [order.pass]
      unfold World.reachedAt at member
      dsimp only at member
      split at member
      · rename_i own found
        split at member
        · cases member
        · rename_i asked
          rw [List.mem_singleton] at member
          subst member
          have turns : w.turnAt place =
              { w with queue := w.queue.eraseIdx place }.awaitDue index :=
            turnAt_of_getElem? found
          have awaits := awaitDue_awaits { w with queue := w.queue.eraseIdx place } index
          rw [← turns] at awaits
          cases awaits with
          | ended _ same | waits _ _ _ same =>
              rw [same] at asked
              exact absurd rfl asked
          | reaches found running due _ _ _ _ passes _ =>
              rcases book.exists_order found with ⟨order, ordered, reason, same⟩
              have before : w.hasEnded index = false := by
                rw [hasEnded_eq, found]
                exact running
              rcases book.pending ordered before with ⟨s, live, _⟩
              refine ⟨order, ordered, Nat.le_trans (Nat.le_of_eq same) due, ?_, ?_⟩
              · rw [live]
                exact Option.some_ne_none s
              · rw [passes, Order.pass, reason]
      · cases member
  | _ => cases member

/-- When no task is left and no timer is past, all that is due reached the engine. -/
theorem settled (book : Book orders reached w) (settled : w.Settled) {index : Nat} {order : Order}
    (ordered : orders[index]? = some order) (due : order.due ≤ w.now)
    (live : w.live? order.scheduler ≠ none) : index ∈ reached := by
  cases finished : w.hasEnded index with
  | true => exact (book.finished ordered finished).resolve_right live
  | false =>
      rcases book.waiting index finished with queued | ⟨timer, member, rfl⟩
      · rw [settled.idle] at queued
        cases queued
      · rcases book.timed timer member with ⟨order', ordered', same⟩
        rw [ordered] at ordered'
        cases ordered'
        have early := settled.punctual timer member
        rw [same] at early
        exact absurd due (Nat.not_le_of_lt early)

end Book

end World

namespace Run

/-- After its scheduler was disposed a delayed pass does not reach the engine any more. -/
theorem reached_of_disposed (run : Run) {index : Nat} {order : Order}
    (ordered : run.ordered[index]? = some order)
    (disposed : run.world.live? order.scheduler = none) (more : List Action)
    (reached : index ∈ (run.extend more).reached) : index ∈ run.reached := by
  let kept (later : Run) : Prop :=
    later.ordered[index]? = some order ∧ later.world.live? order.scheduler = none ∧
      (index ∈ later.reached → index ∈ run.reached)
  have step (later : Run) (action : Action) (holds : kept later) : kept (later.step action) := by
    rcases holds with ⟨ordered, disposed, before⟩
    have known := later.book.known order (List.mem_of_getElem? ordered)
    have now : (later.step action).ordered[index]? = some order := by
      rw [ordered_step,
        List.getElem?_append_left (List.getElem?_eq_some_iff.mp ordered).1]
      exact ordered
    refine ⟨now, ?_, ?_⟩
    · rw [world_step]
      exact (later.happens action).disposed known disposed
    · rw [reached_step, List.mem_append]
      rintro (earlier | reaches)
      · exact before earlier
      · rcases later.book.reachedAt reaches with ⟨order', ordered', _, live, _⟩
        rw [ordered] at ordered'
        cases ordered'
        exact absurd disposed live
  have start : kept run := ⟨ordered, disposed, id⟩
  exact (kept_extend step start more).2.2 reached

/-- Every lookup that is requested is made once; a lookup that succeeds orders one pass if its
scheduler is not disposed and some linter reads the file, and so does a scheduler that starts with a
pass.  What is ordered reaches the engine once, not before it is due, and has reached it whenever
the executor is done, unless its scheduler was disposed before, in which case it never does.  The
engine is asked for no other delayed passes. -/
theorem delayed_passes_are_exact (run : Run) :
    -- Lookups are made as they are requested, each of them afresh and for the saved document.
    (run.world.lookups = (run.lookedUp.map fun lookup => ⟨true, some lookup.uri⟩) ∧
      (run.lookedUp ++ run.world.queue.filterMap Task.lookup?).Perm run.requested) ∧
    -- Passes are scheduled as they are ordered, by lookups and at the start.
    (run.world.delayed.map Delayed.terms = run.ordered.map Order.terms ∧
      (∀ order ∈ run.ordered, order.isRescan = true ∨ order.isStartup = true) ∧
      run.ordered.filter Order.isRescan = run.rescans ∧
      (∀ (linter : Linter) (baseName : String), linter.watches baseName = true ↔
        ∃ file ∈ linter.configFiles, Text.lowered file = Text.lowered baseName) ∧
      run.ordered.filter Order.isStartup = run.starts.zipIdx.filterMap Order.startup? ∧
      run.world.configs = run.starts.map Prod.fst) ∧
    -- The engine is asked for them once, and for no others.
    (run.reached.Nodup ∧
      (∀ index ∈ run.reached, index < run.ordered.length) ∧
      run.world.passes.filter Pass.isDelayed =
        run.reached.filterMap fun index => (run.ordered[index]?).map Order.pass) ∧
    -- It is not asked before they are due,
    (∀ action, ∀ index ∈ run.world.reachedAt action,
      ∃ order, run.ordered[index]? = some order ∧ order.due ≤ run.world.now ∧
        run.world.live? order.scheduler ≠ none ∧
        (run.step action).world.passes = run.world.passes ++ [order.pass]) ∧
    (∀ (index : Nat) (order : Order), run.ordered[index]? = some order →
      -- it was asked when the executor is done and they are due,
      (run.world.Settled → order.due ≤ run.world.now → run.world.live? order.scheduler ≠ none →
        index ∈ run.reached) ∧
      -- and it is never asked after the scheduler was disposed.
      (run.world.live? order.scheduler = none → ∀ more, index ∈ (run.extend more).reached →
        index ∈ run.reached)) ∧
    -- What the executor does while time passes is a run as any other.
    (run.world.Punctual →
      (∀ action, (∀ milliseconds, action ≠ .pass milliseconds) →
        (run.step action).world.Punctual) ∧
      ∀ milliseconds, run.Leads (run.world.advance milliseconds) ∧
        (run.world.advance milliseconds).Settled ∧
        (run.world.advance milliseconds).now = run.world.now + milliseconds) := by
  have book := run.book
  refine ⟨⟨run.lookups_eq, run.requested_perm⟩, ⟨book.scheduled, fun order member => ?_,
    run.rescans_eq, Linter.watches_iff, run.startups_eq, run.configs_eq⟩,
    ⟨book.once, fun index member => (book.ended index member).1, book.passes⟩,
    fun action index member => ?_, fun index order ordered => ⟨?_, ?_⟩,
    fun punctual => ⟨fun action timeless => ?_, run.leads_self.advance punctual⟩⟩
  · have delays := book.delayed order member
    unfold Order.isRescan Order.isStartup
    cases reason : order.reason <;> simp_all [Reason.isDelayed]
  · rw [world_step]
    exact book.reachedAt member
  · exact fun settled => book.settled settled ordered
  · exact run.reached_of_disposed ordered
  · rw [world_step]
    exact punctual.act run.attuned timeless

/-- Two linters read the saved file, whose name is spelled otherwise, and one pass is ordered. -/
example :
    let run : Run :=
      { actions :=
          [.start ⟨"python", "python", 5, 10, true⟩,
            .setLinters [⟨"flake8", ["setup.cfg", ".flake8"]⟩, ⟨"pycodestyle", ["SETUP.CFG"]⟩],
            .pass 2,
            .saveDocument
              { uri := { scheme := "untitled", path := "work/Setup.cfg" }, languageId := "ini" },
            .turn 1, .turn 0, .turn 0, .pass 3, .fire 5, .turn 0, .pass 7, .fire 12, .turn 0] }
    run.ordered = [⟨0, .startup, 0, 5⟩, ⟨0, .configFileSaved, 2, 10⟩] ∧ run.reached = [0, 1] := by
  decide +kernel

end Run

end Lint
end Workbench
