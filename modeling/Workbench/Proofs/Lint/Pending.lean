import Workbench.Proofs.Lint.Retirement

namespace Workbench
namespace Lint

/-!
# What is pending

A scheduler that is not disposed has every pass on its list that it ordered and the engine was not
asked for yet, and each once.  The list is pruned only when the next pass is ordered, in whatever
order the passes came to their ends, so it may name some that are over; those do not count.  When
the executor is done, what counts is what is not due yet, and disposal ends all of that.
-/

/-- The elements that fulfil a condition are as many as their places. -/
theorem countP_eq_length_filter_range {α : Type} (p : α → Bool) (things : List α) :
    things.countP p =
      ((List.range things.length).filter fun index => (things[index]?).any p).length := by
  induction things using List.reverseRecOn with
  | nil => rfl
  | append_singleton earlier last inductionHypothesis =>
      have places : (List.range earlier.length).filter
            (fun index => ((earlier ++ [last])[index]?).any p) =
          (List.range earlier.length).filter fun index => (earlier[index]?).any p := by
        refine List.filter_congr fun index member => ?_
        rw [List.getElem?_append_left (List.mem_range.mp member)]
      rw [List.countP_append, List.length_append, List.length_singleton, List.range_succ,
        List.filter_append, places, List.length_append, ← inductionHypothesis]
      cases fulfilled : p last <;> simp [fulfilled]

namespace World

variable {w w' : World} {action : Action} {scheduler : Nat}

/-! ## Lists of pending passes -/

/-- No list of pending passes names a pass twice, or one that was not scheduled. -/
structure Listed (w : World) : Prop where
  once : ∀ {scheduler : Nat} {s : Scheduler}, w.live? scheduler = some s → s.pending.Nodup
  within : ∀ {scheduler : Nat} {s : Scheduler}, w.live? scheduler = some s →
    ∀ index ∈ s.pending, index < w.delayed.length

namespace Listed

theorem same (listed : w.Listed) (live : ∀ k, w'.live? k = w.live? k)
    (delayed : w'.delayed.length = w.delayed.length) : w'.Listed where
  once := fun found => listed.once ((live _).symm.trans found)
  within := fun found => by
    rw [delayed]
    exact listed.within ((live _).symm.trans found)

/-- A pass that is scheduled is a new one. -/
theorem schedules (listed : w.Listed) {order : Order} (schedules : Schedules order w w') :
    w'.Listed := by
  rcases schedules.live with ⟨s, before, after⟩
  have length : w'.delayed.length = w.delayed.length + 1 := by
    rw [schedules.delayed, List.length_append, List.length_singleton]
  constructor
  case once =>
    intro other t found
    by_cases here : other = order.scheduler
    · subst here
      cases after.symm.trans found
      rw [← List.concat_eq_append]
      refine ((listed.once before).filter _).concat fun member => ?_
      exact Nat.lt_irrefl _ (listed.within before _ (List.mem_of_mem_filter member))
    · rw [schedules.others other here] at found
      exact listed.once found
  case within =>
    intro other t found index member
    rw [length]
    rcases schedules.pending_cases found member with ⟨u, live, earlier⟩ | ⟨_, rfl⟩
    · exact Nat.lt_succ_of_lt (listed.within live index earlier)
    · exact Nat.lt_succ_self _

theorem obeys (listed : w.Listed) {orders : List Order} (obeys : Obeys orders w w') :
    w'.Listed := by
  cases obeys with
  | nothing calm => exact listed.same calm.live (congrArg List.length calm.delayed)
  | schedules schedules => exact listed.schedules schedules

theorem adds (listed : w.Listed) {config : Config} (adds : Adds config w w') : w'.Listed := by
  constructor
  case once =>
    intro other s found
    rw [adds.live] at found
    split at found
    · cases found
      exact .nil
    · exact listed.once found
  case within =>
    intro other s found index member
    rw [adds.live] at found
    rw [adds.delayed]
    split at found
    · cases found
      cases member
    · exact listed.within found index member

theorem retires (listed : w.Listed) {s : Scheduler} (retires : Retires scheduler s w w') :
    w'.Listed := by
  have length : w'.delayed.length = w.delayed.length := by
    have same := congrArg List.length (terms_endAll w.delayed s.pending)
    rwa [List.length_map, List.length_map, ← retires.delayed] at same
  have earlier {other : Nat} {t : Scheduler} (found : w'.live? other = some t) :
      w.live? other = some t := by
    rw [retires.live] at found
    split at found
    · cases found
    · exact found
  constructor
  case once => exact fun found => listed.once (earlier found)
  case within =>
    intro other t found
    rw [length]
    exact listed.within (earlier found)

theorem happens (listed : w.Listed) (happens : Happens w action w') : w'.Listed := by
  cases happens with
  | calm calm => exact listed.same calm.live (congrArg List.length calm.delayed)
  | started adds obeys => exact (listed.adds adds).obeys obeys
  | retired _ retires => exact listed.retires retires
  | linted _ schedulers delayed =>
      exact listed.same (live?_of_schedulers schedulers) (congrArg List.length delayed)
  | @lookedUp place lookup w₁ _ _ asked obeys =>
      have looked : w₁.Listed := by
        rcases asked with ⟨log, rfl⟩
        exact listed.same (fun _ => rfl) rfl
      exact looked.obeys obeys
  | awaited _ awaits =>
      cases awaits with
      | ended _ same | waits _ _ _ same =>
          rw [same]
          exact listed.same (fun _ => rfl) rfl
      | reaches _ _ _ schedulers delayed =>
          refine listed.same (live?_of_schedulers schedulers) ?_
          rw [delayed, List.length_modify]
  | fired => exact listed.same (fun _ => rfl) rfl

end Listed

/-- The clock does not go back. -/
theorem now_le_act (w : World) (action : Action) : w.now ≤ (w.act action).now := by
  by_cases passes : ∃ milliseconds, action = .pass milliseconds
  · rcases passes with ⟨milliseconds, rfl⟩
    exact Nat.le_add_right _ _
  · exact Nat.le_of_eq (act_now fun milliseconds same => passes ⟨milliseconds, same⟩).symm

namespace Book

variable {orders : List Order} {reached : List Nat} {s : Scheduler}

/-- Of what is pending just that is over which reached the engine. -/
theorem hasEnded_iff (book : Book orders reached w) (live : w.live? scheduler = some s)
    {index : Nat} (member : index ∈ s.pending) : w.hasEnded index = true ↔ index ∈ reached := by
  rcases book.owned live index member with ⟨order, ordered, own⟩
  refine ⟨fun ended => (book.finished ordered ended).resolve_right ?_,
    fun earlier => (book.ended index earlier).2⟩
  rw [own, live]
  exact Option.some_ne_none s

/-- What a scheduler ordered and the engine was not asked for is pending and not over. -/
theorem pending_of_unreached (book : Book orders reached w) (live : w.live? scheduler = some s)
    {index : Nat} {order : Order} (ordered : orders[index]? = some order)
    (own : order.scheduler = scheduler) (unreached : index ∉ reached) :
    index ∈ s.pending ∧ w.hasEnded index = false := by
  subst own
  have running : w.hasEnded index = false := by
    rw [← Bool.not_eq_true]
    intro ended
    rcases book.finished ordered ended with earlier | gone
    · exact unreached earlier
    · rw [live] at gone
      cases gone
  rcases book.pending ordered running with ⟨t, found, member⟩
  cases live.symm.trans found
  exact ⟨member, running⟩

/-- When a pass is ordered, the list is pruned of just what reached the engine. -/
theorem pending_schedule (book : Book orders reached w) (live : w.live? scheduler = some s)
    (delay : Nat) (reason : Reason) :
    (w.schedule scheduler delay reason).live? scheduler = some { s with
      pending := (s.pending.filter fun index => index ∉ reached) ++ [orders.length] } := by
  rcases (schedule_schedules live delay reason).live with ⟨t, before, after⟩
  cases live.symm.trans before
  have pruned : s.pending.filter (fun index => !w.hasEnded index) =
      s.pending.filter fun index => index ∉ reached := by
    refine List.filter_congr fun index member => ?_
    rw [Bool.eq_iff_iff, decide_eq_true_iff, ← book.hasEnded_iff live member]
    simp
  rw [after, pruned, book.length]

end Book

theorem retires_of_live {s : Scheduler} (live : w.live? scheduler = some s)
    (which : action = .dispose scheduler ∨ action = .drop scheduler) :
    Retires scheduler s w (w.act action) := by
  rcases which with rfl | rfl
  · exact disposeScheduler_retires live
  · exact (disposeScheduler_retires live).calm (w.dropScheduler_calm scheduler) rfl

end World

namespace Run

variable {run : Run} {scheduler : Nat} {s : Scheduler}

theorem listed (run : Run) : run.world.Listed := by
  induction run using Run.induction with
  | start hasRuntime => exact ⟨nofun, nofun⟩
  | step run action inductionHypothesis =>
      rw [world_step]
      exact inductionHypothesis.happens (run.happens action)

/-- What reached the engine is due. -/
theorem due_of_reached {index : Nat} (reached : index ∈ run.reached) {order : Order}
    (ordered : run.ordered[index]? = some order) : order.due ≤ run.world.now := by
  induction run using Run.induction with
  | start hasRuntime => cases reached
  | step run action inductionHypothesis =>
      rw [reached_step, List.mem_append] at reached
      rw [ordered_step] at ordered
      rw [world_step]
      refine Nat.le_trans ?_ (run.world.now_le_act action)
      rcases reached with earlier | now
      · rw [List.getElem?_append_left (run.book.ended index earlier).1] at ordered
        exact inductionHypothesis earlier ordered
      · rcases run.book.reachedAt now with ⟨order', ordered', due, _⟩
        rw [List.getElem?_append_left (List.getElem?_eq_some_iff.mp ordered').1, ordered']
          at ordered
        cases ordered
        exact due

/-- The passes that a scheduler ordered and the engine was not asked for, by the places of their
orders. -/
def unreached (run : Run) (scheduler : Nat) : List Nat :=
  (List.range run.ordered.length).filter fun index =>
    (run.ordered[index]?).any fun order => order.scheduler = scheduler ∧ index ∉ run.reached

theorem mem_unreached_iff {index : Nat} :
    index ∈ run.unreached scheduler ↔
      ∃ order, run.ordered[index]? = some order ∧ order.scheduler = scheduler ∧
        index ∉ run.reached := by
  simp only [unreached, List.mem_filter, List.mem_range, Option.any_eq_true, decide_eq_true_eq]
  refine and_iff_right_of_imp ?_
  rintro ⟨order, ordered, _⟩
  exact (List.getElem?_eq_some_iff.mp ordered).1

/-- The passes that count as pending are those that the engine was not asked for. -/
theorem pending_perm (live : run.world.live? scheduler = some s) :
    (s.pending.filter fun index => !run.world.hasEnded index).Perm (run.unreached scheduler) := by
  have nodup : (run.unreached scheduler).Nodup := List.nodup_range.filter _
  refine (List.perm_ext_iff_of_nodup ((run.listed.once live).filter _) nodup).mpr fun index => ?_
  rw [List.mem_filter, mem_unreached_iff]
  constructor
  · rintro ⟨member, running⟩
    rcases run.book.owned live index member with ⟨order, ordered, own⟩
    refine ⟨order, ordered, own, fun reached => ?_⟩
    rw [(run.book.hasEnded_iff live member).mpr reached] at running
    cases running
  · rintro ⟨order, ordered, own, unreached⟩
    rcases run.book.pending_of_unreached live ordered own unreached with ⟨member, running⟩
    exact ⟨member, by rw [running]; rfl⟩

theorem pendingTimers_eq_length (live : run.world.live? scheduler = some s) :
    run.world.pendingTimers scheduler = (run.unreached scheduler).length := by
  rw [← (pending_perm live).length_eq, ← List.countP_eq_length_filter]
  simp only [World.pendingTimers, (World.live?_eq_some_iff.mp live).1]

/-- When the executor is done, the engine was not asked for just what is not due. -/
theorem unreached_iff (settled : run.world.Settled) (live : run.world.live? scheduler = some s)
    {index : Nat} {order : Order} (ordered : run.ordered[index]? = some order)
    (own : order.scheduler = scheduler) :
    index ∉ run.reached ↔ run.world.now < order.due := by
  rw [← Nat.not_le]
  refine not_congr ⟨fun reached => due_of_reached reached ordered, fun due => ?_⟩
  refine run.book.settled settled ordered due ?_
  rw [own, live]
  exact Option.some_ne_none s

theorem length_unreached (settled : run.world.Settled)
    (live : run.world.live? scheduler = some s) :
    (run.unreached scheduler).length =
      run.ordered.countP fun order => order.scheduler = scheduler ∧ run.world.now < order.due := by
  rw [countP_eq_length_filter_range, unreached]
  refine congrArg List.length (List.filter_congr fun index _ => ?_)
  cases ordered : run.ordered[index]? with
  | none => rfl
  | some order =>
      refine decide_eq_decide.mpr (and_congr_right fun own => ?_)
      exact unreached_iff settled live ordered own

/-- Disposal ends whatever is pending, so that the engine is never asked for it. -/
theorem ended_of_disposed (live : run.world.live? scheduler = some s) {action : Action}
    (which : action = .dispose scheduler ∨ action = .drop scheduler) {index : Nat} {order : Order}
    (ordered : run.ordered[index]? = some order) (own : order.scheduler = scheduler)
    (unreached : index ∉ run.reached) :
    (run.step action).world.hasEnded index = true ∧
      ∀ more, index ∉ ((run.step action).extend more).reached := by
  have retires := World.retires_of_live live which
  refine ⟨?_, fun more reached => unreached ?_⟩
  · rw [world_step, World.hasEnded_endAll retires.delayed, Bool.or_eq_true, decide_eq_true_iff]
    exact Or.inl (run.book.pending_of_unreached live ordered own unreached).1
  · have same : (run.step action).reached = run.reached := by
      rw [reached_step]
      rcases which with rfl | rfl <;> exact List.append_nil _
    have still : (run.step action).ordered[index]? = some order := by
      rw [ordered_step, List.getElem?_append_left (List.getElem?_eq_some_iff.mp ordered).1]
      exact ordered
    rw [← same]
    refine (run.step action).reached_of_disposed still ?_ more reached
    rw [own, world_step, retires.live, if_pos rfl]

/-- A scheduler that is not disposed has every pass on its list that it ordered and the engine was
not asked for, none of them is over, and what counts as pending are just these.  Ordering another
pass prunes the list of just what the engine was asked for.  When the executor is done, what counts
as pending are the passes that are not due yet, and disposal ends all of them for good. -/
theorem pending_passes_are_kept (run : Run) {scheduler : Nat} {s : Scheduler}
    (live : run.world.live? scheduler = some s) :
    -- What was ordered and the engine was not asked for is on the list, once,
    (run.world.delayed.map Delayed.terms = run.ordered.map Order.terms ∧ s.pending.Nodup ∧
      ∀ index order, run.ordered[index]? = some order → order.scheduler = scheduler →
        index ∉ run.reached → index ∈ s.pending ∧ run.world.hasEnded index = false) ∧
    -- and stays there when another pass is ordered.
    (∀ delay reason, (run.world.schedule scheduler delay reason).live? scheduler = some { s with
      pending := (s.pending.filter fun index => index ∉ run.reached) ++ [run.ordered.length] }) ∧
    -- It is what counts as pending,
    run.world.pendingTimers scheduler = (run.unreached scheduler).length ∧
    (run.world.Settled →
      -- which is what is not due when the executor is done,
      run.world.pendingTimers scheduler =
        run.ordered.countP (fun order =>
          order.scheduler = scheduler ∧ run.world.now < order.due) ∧
      -- and nothing of that is left by disposal.
      ∀ action, action = .dispose scheduler ∨ action = .drop scheduler →
        (run.step action).world.pendingTimers scheduler = 0 ∧
        ∀ index order, run.ordered[index]? = some order → order.scheduler = scheduler →
          run.world.now < order.due →
            run.world.hasEnded index = false ∧ (run.step action).world.hasEnded index = true ∧
            ∀ more, index ∉ ((run.step action).extend more).reached) := by
  have timers := pendingTimers_eq_length live
  refine ⟨⟨run.book.scheduled, run.listed.once live, fun index order ordered own unreached =>
      run.book.pending_of_unreached live ordered own unreached⟩,
    run.book.pending_schedule live, timers, fun settled =>
      ⟨timers.trans (length_unreached settled live), fun action which =>
        ⟨?_, fun index order ordered own early => ?_⟩⟩⟩
  · refine World.pendingTimers_of_disposed (run.step action).released ?_
    rw [world_step, World.live?_of_retired which, if_pos rfl]
  · have unreached := (unreached_iff settled live ordered own).mpr early
    exact ⟨(run.book.pending_of_unreached live ordered own unreached).2,
      ended_of_disposed live which ordered own unreached⟩

/-- A run in which a rescan is ordered after the first pass and done before it, and another one is
ordered then. -/
def overlapping : Run where
  actions :=
    let configFile : Document :=
      { uri := { scheme := "untitled", path := "setup.cfg" }, languageId := "ini" }
    [.start ⟨"python", "python", 15, 10, true⟩, .turn 0, .setLinters [⟨"flake8", ["setup.cfg"]⟩],
      .saveDocument configFile, .turn 0, .turn 0, .pass 10, .fire 10, .turn 0,
      .saveDocument configFile, .turn 0, .turn 0]

theorem overlapping_passes_are_kept :
    ∃ s, overlapping.world.live? 0 = some s ∧ s.pending = [0, 2] ∧ overlapping.reached = [1] ∧
      overlapping.world.pendingTimers 0 = 2 ∧
      (overlapping.ordered.countP fun order =>
        order.scheduler = 0 ∧ overlapping.world.now < order.due) = 2 ∧
      (overlapping.step (.dispose 0)).world.pendingTimers 0 = 0 ∧
      ∀ more, 2 ∉ ((overlapping.step (.dispose 0)).extend more).reached := by
  have live : overlapping.world.live? 0 = some
      { config := ⟨"python", "python", 15, 10, true⟩, pending := [0, 2] } := by
    decide +kernel
  have punctual : ∀ timer ∈ overlapping.world.timers, overlapping.world.now < timer.due := by
    decide +kernel
  have settled : overlapping.world.Settled := ⟨by decide +kernel, punctual⟩
  have last : overlapping.ordered[2]? = some ⟨0, .configFileSaved, 10, 10⟩ := by decide +kernel
  rcases pending_passes_are_kept overlapping live with ⟨_, _, timers, done⟩
  rcases done settled with ⟨early, disposal⟩
  rcases disposal (.dispose 0) (Or.inl rfl) with ⟨nothing, ends⟩
  have two : overlapping.world.pendingTimers 0 = 2 := timers.trans (by decide +kernel)
  exact ⟨_, live, rfl, by decide +kernel, two, early.symm.trans two, nothing,
    (ends 2 _ last rfl (by decide +kernel)).2.2⟩

end Run

end Lint
end Workbench
