import Workbench.Proofs.Lint.Clearing
import Workbench.Proofs.Lint.Exact

namespace Workbench
namespace Lint

/-!
# Disposal is final

A scheduler that is disposed or dropped listens to nothing and has nothing pending, and whatever
calls it does so in vain: an event that still names it, or a lookup that was under way.  Its delayed
passes never reach the engine.  What the engine is asked for afterwards are passes whose tasks were
waiting already, once each.
-/

namespace World

variable {w w' : World} {action : Action} {scheduler : Nat}

/-! ## Nothing is pending -/

/-- No disposed scheduler has pending passes. -/
def Released (w : World) : Prop :=
  ∀ s ∈ w.schedulers, s.disposed = true → s.pending = []

theorem Released.of_eq (released : w.Released) (schedulers : w'.schedulers = w.schedulers) :
    w'.Released := by
  unfold Released
  rwa [schedulers]

theorem Released.modify {f : Scheduler → Scheduler} (released : w.Released)
    (schedulers : w'.schedulers = w.schedulers.modify scheduler f)
    (each : ∀ s, w.schedulers[scheduler]? = some s → (s.disposed = true → s.pending = []) →
      (f s).disposed = true → (f s).pending = []) : w'.Released := by
  intro s member disposed
  rw [schedulers] at member
  rcases List.mem_iff_getElem?.mp member with ⟨other, found⟩
  rw [List.getElem?_modify] at found
  rcases Option.map_eq_some_iff.mp found with ⟨before, found', rfl⟩
  have kept := released before (List.mem_of_getElem? found')
  by_cases here : scheduler = other
  · subst here
    rw [if_pos rfl] at disposed ⊢
    exact each before found' kept disposed
  · rw [if_neg here] at disposed ⊢
    exact kept disposed

theorem schedule_released (released : w.Released) (scheduler delay : Nat) (reason : Reason) :
    (w.schedule scheduler delay reason).Released := by
  cases live : w.live? scheduler with
  | none => rwa [schedule_of_disposed live]
  | some s =>
      rcases live?_eq_some_iff.mp live with ⟨found, standing⟩
      have schedulers : (w.schedule scheduler delay reason).schedulers =
          w.schedulers.modify scheduler ({ · with pending :=
            (s.pending.filter fun index => !w.hasEnded index) ++ [w.delayed.length] }) := by
        rw [schedule_eq, live]
        rfl
      refine released.modify schedulers fun before found' _ disposed => ?_
      rw [found] at found'
      cases found'
      exact absurd (standing.symm.trans disposed) Bool.false_ne_true

theorem addScheduler_released (released : w.Released) (config : Config) :
    (w.addScheduler config).Released := by
  have added : ∀ s ∈ w.schedulers ++ [({ config } : Scheduler)],
      s.disposed = true → s.pending = [] := by
    intro s member disposed
    rcases List.mem_append.mp member with earlier | last
    · exact released s earlier disposed
    · rw [List.mem_singleton.mp last]
  unfold addScheduler
  dsimp only
  split
  · refine (schedule_released ?_ _ _ _).of_eq rfl
    exact added
  · exact added

theorem disposeScheduler_released (released : w.Released) (scheduler : Nat) :
    (w.disposeScheduler scheduler).Released := by
  cases live : w.live? scheduler with
  | none => rwa [disposeScheduler_of_disposed live]
  | some s => exact released.modify (disposeScheduler_schedulers live).1 fun _ _ _ _ => rfl

theorem turnAt_released (released : w.Released) (place : Nat) : (w.turnAt place).Released := by
  cases found : w.queue[place]? with
  | none => rwa [turnAt_of_none found]
  | some task =>
      rw [turnAt_of_getElem? found]
      have taken : ({ w with queue := w.queue.eraseIdx place } : World).Released := released
      generalize { w with queue := w.queue.eraseIdx place } = v at taken
      cases task with
      | pass pass => exact taken.of_eq (v.lint_frame pass).1
      | lookUp scheduler uri baseName =>
          show (v.lookUp scheduler uri baseName).Released
          unfold lookUp
          dsimp only
          split
          · exact taken
          · split
            · split
              · exact taken
              · refine schedule_released ?_ _ _ _
                exact taken
            · exact taken
      | delayed index =>
          show (v.awaitDue index).Released
          cases v.awaitDue_awaits index with
          | ended _ same | waits _ _ _ same =>
              rw [same]
              exact taken
          | reaches _ _ _ schedulers => exact taken.of_eq schedulers

theorem act_released (released : w.Released) (action : Action) : (w.act action).Released := by
  cases action with
  | start config =>
      show ((w.startScheduler config).toOption.getD w).Released
      unfold startScheduler
      split
      · exact addScheduler_released released config
      · exact released
  | dispose scheduler => exact disposeScheduler_released released scheduler
  | drop scheduler =>
      exact (disposeScheduler_released released scheduler).modify rfl fun _ _ kept => kept
  | openDocument document =>
      exact released.of_eq (tell_asks (w := { w with editors := w.editors.add document })
        (fun _ _ => onOpened_asks document) .opened).frame.2.1
  | closeDocument document =>
      exact released.of_eq (tell_asks (w := { w with editors := w.editors.close document.uri })
        (fun _ _ => onClosed_asks document) .closed).frame.2.1
  | saveDocument document =>
      exact released.of_eq (tell_asks (fun _ _ => onSaved_asks document) .saved).frame.2.1
  | changeConfiguration change =>
      exact released.of_eq
        (tell_asks (fun _ _ => onConfigurationChanged_asks change) .configuration).frame.2.1
  | changeInterpreter =>
      exact released.of_eq
        (tell_asks (fun _ _ => onInterpreterChanged_asks) .interpreter).frame.2.1
  | setSwitches | setLinters | failLookups | failEngine | pass => exact released
  | turn place => exact turnAt_released released place
  | fire due =>
      show (if due ≤ w.now then w.fire due else w).Released
      split <;> exact released

theorem pendingTimers_of_disposed (released : w.Released) (disposed : w.live? scheduler = none) :
    w.pendingTimers scheduler = 0 := by
  unfold pendingTimers
  cases found : w.schedulers[scheduler]? with
  | none => rfl
  | some s =>
      have gone : s.disposed = true := by
        rw [← Bool.not_eq_false]
        intro standing
        rw [live?_eq_some_iff.mpr ⟨found, standing⟩] at disposed
        cases disposed
      simp [released s (List.mem_of_getElem? found) gone]

/-! ## Whatever calls it does so in vain -/

/-- Nothing that could make a scheduler do something does so, but for a lookup that is recorded. -/
structure Deaf (w : World) (scheduler : Nat) : Prop where
  opened : ∀ document, w.onOpened scheduler document = w
  saved : ∀ document, w.onSaved scheduler document = w
  closed : ∀ document, w.onClosed scheduler document = w
  configuration : ∀ change, w.onConfigurationChanged scheduler change = w
  interpreter : w.onInterpreterChanged scheduler = w
  schedule : ∀ delay reason, w.schedule scheduler delay reason = w
  lookUp : ∀ uri baseName, ∃ log,
    w.lookUp scheduler uri baseName = { w with lookups := w.lookups ++ [⟨true, some uri⟩], log }

theorem onClosed_of_disposed (disposed : w.live? scheduler = none) (document : Document) :
    w.onClosed scheduler document = w := by
  unfold live? at disposed
  unfold onClosed
  cases found : w.schedulers[scheduler]? with
  | none => rfl
  | some s =>
      cases standing : s.disposed with
      | true => simp [standing]
      | false => simp [found, standing] at disposed

theorem lookUp_of_disposed (disposed : w.live? scheduler = none) (uri : Url) (baseName : String) :
    ∃ log, w.lookUp scheduler uri baseName =
      { w with lookups := w.lookups ++ [⟨true, some uri⟩], log } := by
  unfold lookUp
  dsimp only
  split
  · exact ⟨_, rfl⟩
  · split
    · split
      · exact ⟨w.log, rfl⟩
      · refine ⟨w.log ++ [_], (schedule_of_disposed ?_ _ _).trans rfl⟩
        exact disposed
    · exact ⟨w.log, rfl⟩

theorem deaf_of_disposed (disposed : w.live? scheduler = none) : w.Deaf scheduler := by
  have unmoved {w' : World} {f : Scheduler → World} (eq : w' = (w.live? scheduler).elim w f) :
      w' = w := by
    rw [eq, disposed, Option.elim_none]
  exact
    { opened := fun _ => unmoved (match_live w scheduler _)
      saved := fun _ => unmoved (match_live w scheduler _)
      closed := onClosed_of_disposed disposed
      configuration := fun _ => unmoved (match_live w scheduler _)
      interpreter := unmoved (match_live w scheduler _)
      schedule := schedule_of_disposed disposed
      lookUp := lookUp_of_disposed disposed }

/-- Disposal takes a scheduler off all channels, and leaves tasks and records as they are. -/
theorem disposeScheduler_frame (attuned : w.Attuned) (scheduler : Nat) :
    (∀ channel, (w.disposeScheduler scheduler).listenersOn channel =
        (w.listenersOn channel).filter (· != scheduler)) ∧
      (w.disposeScheduler scheduler).queue = w.queue ∧
      (w.disposeScheduler scheduler).passes = w.passes ∧
      (w.disposeScheduler scheduler).lookups = w.lookups := by
  cases live : w.live? scheduler with
  | none =>
      rw [disposeScheduler_of_disposed live]
      refine ⟨fun channel => (List.filter_eq_self.mpr fun other member => ?_).symm, rfl, rfl, rfl⟩
      rw [attuned.listening, List.mem_filter] at member
      rw [bne_iff_ne]
      rintro rfl
      rw [live] at member
      exact Bool.false_ne_true member.2
  | some s =>
      rcases disposeScheduler_schedulers live with ⟨_, listeners, _, queue, _, passes, lookups⟩
      refine ⟨fun channel => ?_, queue, passes, lookups⟩
      rw [listenersOn, listenersOn, listeners, List.filter_map, List.filter_filter,
        List.filter_filter]
      simp only [Function.comp_def, Bool.and_comm]

/-- It is a matter of the one scheduler. -/
theorem live?_of_retired (retires : action = .dispose scheduler ∨ action = .drop scheduler)
    (other : Nat) :
    (w.act action).live? other = if other = scheduler then none else w.live? other := by
  have disposed : (w.disposeScheduler scheduler).live? other =
      if other = scheduler then none else w.live? other := by
    cases live : w.live? scheduler with
    | none =>
        rw [disposeScheduler_of_disposed live]
        split
        · rename_i here
          rw [here, live]
        · rfl
    | some s => exact (disposeScheduler_retires live).live other
  rcases retires with rfl | rfl
  · exact disposed
  · exact ((w.dropScheduler_calm scheduler).live other).trans disposed

theorem act_frame_of_retired (attuned : w.Attuned)
    (retires : action = .dispose scheduler ∨ action = .drop scheduler) :
    (∀ channel, (w.act action).listenersOn channel =
        (w.listenersOn channel).filter (· != scheduler)) ∧
      (w.act action).queue = w.queue ∧ (w.act action).passes = w.passes ∧
      (w.act action).lookups = w.lookups ∧ (w.act action).cleared = w.cleared := by
  rcases disposeScheduler_frame attuned scheduler with ⟨listeners, queue, passes, lookups⟩
  have cleared := (disposeScheduler_sameView w scheduler).cleared
  rcases retires with rfl | rfl <;> exact ⟨listeners, queue, passes, lookups, cleared⟩

/-! ## Nobody is left -/

/-- All schedulers are disposed. -/
def Vacant (w : World) : Prop :=
  ∀ scheduler, w.live? scheduler = none

namespace Vacant

theorem act (vacant : w.Vacant) (attuned : w.Attuned)
    (unstarted : ∀ config, action ≠ .start config) : (w.act action).Vacant := by
  intro scheduler
  have happens := act_happens attuned action
  by_cases known : scheduler < w.configs.length
  · exact happens.disposed known (vacant scheduler)
  · cases live : (w.act action).live? scheduler with
    | none => rfl
    | some s =>
        have inside := lt_of_live live
        rw [happens.configs unstarted] at inside
        exact absurd inside known

theorem tasksAt (vacant : w.Vacant) (action : Action) : w.tasksAt action = [] := by
  refine List.flatMap_eq_nil_iff.mpr fun scheduler _ => ?_
  rw [tasksOf, vacant scheduler]

theorem clearedAt (vacant : w.Vacant) (action : Action) : w.clearedAt action = [] := by
  refine clearedAt_eq_nil fun scheduler => ?_
  unfold clearsOf
  split
  · rw [vacant scheduler]
    rfl
  · rfl

end Vacant

end World

namespace Run

variable {run : Run}

theorem released (run : Run) : run.world.Released := by
  induction run using Run.induction with
  | start hasRuntime => exact fun _ member => by cases member
  | step run action inductionHypothesis =>
      rw [world_step]
      exact World.act_released inductionHypothesis action

/-- When nobody is left, tasks that wait have their turns, and nothing else happens. -/
theorem vacant_extend (vacant : run.world.Vacant) {more : List Action}
    (unstarted : ∀ config, .start config ∉ more) :
    (run.extend more).world.passes = run.world.passes ++ run.world.collect World.madeAt more ∧
      (run.extend more).world.lookups =
        run.world.lookups ++ (run.world.collect World.lookedUpAt more).map Lookup.inquiry ∧
      (run.extend more).world.cleared = run.world.cleared ∧
      ∀ {α : Type} (of : Task → Option α),
        run.world.collect (fun v action => (v.tasksAt action).filterMap of) more = [] := by
  induction more generalizing run with
  | nil =>
      rw [extend_nil]
      exact ⟨(List.append_nil _).symm, (List.append_nil _).symm, rfl, fun _ => rfl⟩
  | cons action rest inductionHypothesis =>
      have first : ∀ config, action ≠ .start config := fun config same =>
        unstarted config (by rw [same]; exact List.mem_cons_self)
      have others : ∀ config, .start config ∉ rest := fun config member =>
        unstarted config (List.mem_cons_of_mem action member)
      have unreached : run.world.reachedAt action = [] := by
        rw [List.eq_nil_iff_forall_not_mem]
        intro index member
        rcases run.book.reachedAt member with ⟨order, _, _, live, _⟩
        exact live (vacant order.scheduler)
      have passes := World.act_passes run.attuned action
      have lookups := (run.happens action).lookups
      have cleared := (World.act_sameView run.attuned action).cleared
      rw [unreached, List.filterMap_nil, List.append_nil] at passes
      rw [vacant.clearedAt, List.append_nil] at cleared
      have left : (run.step action).world.Vacant := by
        rw [world_step]
        exact vacant.act run.attuned first
      rcases inductionHypothesis left others with ⟨passes', lookups', cleared', tasks'⟩
      rw [world_step] at passes' lookups' cleared' tasks'
      rw [extend_cons]
      refine ⟨?_, ?_, cleared'.trans cleared, fun of => ?_⟩
      · rw [passes', passes, World.collect, List.append_assoc]
      · rw [lookups', lookups, World.collect, List.map_append, List.append_assoc]
      · rw [World.collect, vacant.tasksAt, tasks', List.filterMap_nil, List.append_nil]

/-- What waited has a turn once, and nothing else has. -/
theorem vacant_collect {α : Type} (of : Task → Option α)
    (undelayed : ∀ index, of (.delayed index) = none) (vacant : run.world.Vacant)
    {more : List Action} (unstarted : ∀ config, .start config ∉ more) :
    (run.world.collect (fun v action => (v.servedAt action).filterMap of) more ++
      (run.extend more).world.queue.filterMap of).Perm (run.world.queue.filterMap of) := by
  have perm := World.collect_filterMap of undelayed run.attuned more
  rwa [(vacant_extend vacant unstarted).2.2.2 of, List.append_nil, ← world_extend] at perm

/-! ## What stays true of a disposed scheduler -/

section

variable {scheduler : Nat}

/-- There is such a scheduler, and it is disposed. -/
def Gone (run : Run) (scheduler : Nat) : Prop :=
  scheduler < run.world.configs.length ∧ run.world.live? scheduler = none

theorem Gone.step (gone : run.Gone scheduler) (action : Action) :
    (run.step action).Gone scheduler := by
  refine ⟨?_, ?_⟩
  · rw [world_step, World.act_configs run.attuned, List.length_append]
    exact Nat.lt_of_lt_of_le gone.1 (Nat.le_add_right _ _)
  · rw [world_step]
    exact (run.happens action).disposed gone.1 gone.2

theorem Gone.extend (gone : run.Gone scheduler) (more : List Action) :
    (run.extend more).Gone scheduler := by
  have step (later : Run) (action : Action) (before : later.Gone scheduler) :
      (later.step action).Gone scheduler :=
    before.step action
  exact kept_extend step gone more

theorem gone_of_retired {action : Action} (known : scheduler < run.world.schedulers.length)
    (retires : action = .dispose scheduler ∨ action = .drop scheduler) :
    (run.step action).Gone scheduler := by
  refine ⟨?_, ?_⟩
  · rw [world_step, World.act_configs run.attuned, List.length_append, World.configs,
      List.length_map]
    exact Nat.lt_of_lt_of_le known (Nat.le_add_right _ _)
  · rw [world_step, World.live?_of_retired retires, if_pos rfl]

theorem Gone.not_mem_listenersOn (gone : run.Gone scheduler) (channel : Channel) :
    scheduler ∉ run.world.listenersOn channel := by
  rw [run.attuned.listening]
  intro member
  rw [List.mem_filter, gone.2] at member
  exact Bool.false_ne_true member.2

/-- No delayed pass of a disposed scheduler reaches the engine, whenever it was ordered. -/
theorem Gone.unreached (gone : run.Gone scheduler) (more : List Action) {index : Nat}
    {order : Order} (ordered : (run.extend more).ordered[index]? = some order)
    (own : order.scheduler = scheduler) (reached : index ∈ (run.extend more).reached) :
    index ∈ run.reached := by
  let kept (later : Run) : Prop :=
    later.Gone scheduler ∧ ∀ {index : Nat} {order : Order}, later.ordered[index]? = some order →
      order.scheduler = scheduler → index ∈ later.reached → index ∈ run.reached
  have step (later : Run) (action : Action) (holds : kept later) : kept (later.step action) := by
    rcases holds with ⟨gone, before⟩
    refine ⟨gone.step action, fun {index order} ordered own reached => ?_⟩
    rw [reached_step, List.mem_append] at reached
    rw [ordered_step] at ordered
    rcases reached with earlier | now
    · rw [List.getElem?_append_left (later.book.ended index earlier).1] at ordered
      exact before ordered own earlier
    · rcases later.book.reachedAt now with ⟨order', ordered', _, live, _⟩
      rw [List.getElem?_append_left (List.getElem?_eq_some_iff.mp ordered').1, ordered'] at ordered
      cases ordered
      rw [own] at live
      exact absurd gone.2 live
  have start : kept run := ⟨gone, fun _ _ reached => reached⟩
  exact (kept_extend step start more).2 ordered own reached

end

/-- After a scheduler was disposed or dropped it listens to no channel, nothing of it is pending,
and whatever calls it does so in vain; a delayed pass that it ordered, be it through a lookup that
was under way, never reaches the engine any more.  If no other scheduler is left, the engine and the
linters are asked only for what waited when it was disposed, each at most once: passes that are not
delayed and that events had asked for.  Diagnostics are not cleared any more.  Disposing it again
changes nothing. -/
theorem disposed_schedulers_fall_silent (run : Run) (scheduler : Nat)
    (known : scheduler < run.world.schedulers.length) (action : Action)
    (retires : action = .dispose scheduler ∨ action = .drop scheduler) (more : List Action) :
    let retired := run.step action
    let later := retired.extend more
    -- It listened to all channels, and listens to none.
    ((run.world.live? scheduler ≠ none →
        ∀ channel, (run.world.listenersOn channel).count scheduler = 1) ∧
      (∀ channel, retired.world.listenersOn channel =
        (run.world.listenersOn channel).filter (· != scheduler)) ∧
      ∀ channel, scheduler ∉ later.world.listenersOn channel) ∧
    -- Nothing is pending, and whatever calls it does so in vain.
    (later.world.pendingTimers scheduler = 0 ∧ later.world.Deaf scheduler) ∧
    -- None of its delayed passes reaches the engine.
    (∀ index order, later.ordered[index]? = some order → order.scheduler = scheduler →
      index ∈ later.reached → index ∈ run.reached) ∧
    -- What waits when it is disposed was asked for by events,
    (run.made ++ run.world.queue.filterMap Task.pass?).Perm run.caused ∧
    -- and has its turn once, and no more is done, if there is no other scheduler.
    ((∀ other, other ≠ scheduler → run.world.live? other = none) →
      (∀ config, .start config ∉ more) →
      later.world.cleared = run.world.cleared ∧
      (∃ made : List Pass, later.world.passes = run.world.passes ++ made ∧
        (∀ pass ∈ made, pass.isDelayed = false) ∧
        (made ++ later.world.queue.filterMap Task.pass?).Perm
          (run.world.queue.filterMap Task.pass?)) ∧
      ∃ looked : List Lookup, later.world.lookups = run.world.lookups ++ looked.map Lookup.inquiry ∧
        (looked ++ later.world.queue.filterMap Task.lookup?).Perm
          (run.world.queue.filterMap Task.lookup?)) ∧
    -- Further disposals change nothing, but that it counts as dropped.
    ((later.step (.dispose scheduler)).world = later.world ∧
      (later.step (.drop scheduler)).world =
        later.world.modifyScheduler scheduler ({ · with dropped := true })) := by
  intro retired later
  have gone : retired.Gone scheduler := gone_of_retired known retires
  have gone' : later.Gone scheduler := gone.extend more
  have frame := World.act_frame_of_retired run.attuned retires
  rw [← world_step] at frame
  rcases frame with ⟨unlisted, queue, passes, lookups, cleared⟩
  refine ⟨⟨fun live channel => ?_, unlisted, gone'.not_mem_listenersOn⟩,
    ⟨World.pendingTimers_of_disposed later.released gone'.2, World.deaf_of_disposed gone'.2⟩,
    fun index order ordered own reached => ?_, run.caused_perm, fun alone unstarted => ?_, ?_, ?_⟩
  · rw [run.attuned.listening]
    refine List.count_eq_one_of_mem (List.nodup_range.filter _) ?_
    rw [List.mem_filter, List.mem_range]
    exact ⟨known, Option.isSome_iff_ne_none.mpr live⟩
  · have unreached : retired.reached = run.reached := by
      rw [reached_step]
      rcases retires with rfl | rfl <;> exact List.append_nil _
    rw [← unreached]
    exact gone.unreached more ordered own reached
  · have vacant : retired.world.Vacant := by
      intro other
      rw [world_step, World.live?_of_retired retires]
      by_cases here : other = scheduler
      · rw [if_pos here]
      · rw [if_neg here, alone other here]
    rcases vacant_extend vacant unstarted with ⟨passes', lookups', cleared', _⟩
    have made := vacant_collect Task.pass? (fun _ => rfl) vacant unstarted
    have looked := vacant_collect Task.lookup? (fun _ => rfl) vacant unstarted
    simp only [World.filterMap_servedAt] at looked
    rw [queue] at made looked
    refine ⟨cleared'.trans cleared, ⟨_, ?_, fun pass member => ?_, made⟩, _, ?_, looked⟩
    · rw [passes', passes]
      rfl
    · have waited := made.subset (List.mem_append_left _ member)
      rcases List.mem_filterMap.mp waited with ⟨task, queued, same⟩
      cases task with
      | pass pass' =>
          cases same
          exact run.book.queued _ queued
      | lookUp | delayed => cases same
    · rw [lookups', lookups]
  · rw [world_step]
    exact World.disposeScheduler_of_disposed gone'.2
  · rw [world_step]
    show (later.world.disposeScheduler scheduler).modifyScheduler _ _ = _
    rw [World.disposeScheduler_of_disposed gone'.2]

/-- A run in which a document is to be linted, a configuration file is to be looked up, and the
first pass is waiting for its deadline. -/
def underWay : Run where
  actions :=
    [.start ⟨"python", "python", 5, 10, true⟩, .turn 0, .setLinters [⟨"flake8", ["setup.cfg"]⟩],
      .openDocument
        { uri := { scheme := "untitled", path := "work/a.py" }, languageId := "python" },
      .saveDocument { uri := { scheme := "untitled", path := "setup.cfg" }, languageId := "ini" }]

/-- What happens next: the lookup succeeds, the document is saved and closed, and time passes. -/
def afterwards : List Action :=
  [.turn 1,
    .saveDocument { uri := { scheme := "untitled", path := "work/a.py" }, languageId := "python" },
    .closeDocument { uri := { scheme := "untitled", path := "work/a.py" }, languageId := "python" },
    .changeInterpreter, .pass 20, .fire 5, .turn 1, .turn 0]

theorem underWay_falls_silent :
    let later := (underWay.step (.drop 0)).extend afterwards
    underWay.world.live? 0 ≠ none ∧ (∀ other, other ≠ 0 → underWay.world.live? other = none) ∧
      later.world.pendingTimers 0 = 0 ∧ later.world.cleared = underWay.world.cleared ∧
        ∃ made : List Pass, later.world.passes = underWay.world.passes ++ made ∧
          (∀ pass ∈ made, pass.isDelayed = false) ∧
          (made ++ later.world.queue.filterMap Task.pass?).Perm
            (underWay.world.queue.filterMap Task.pass?) := by
  intro later
  have silent := disposed_schedulers_fall_silent underWay 0 (by decide +kernel) (.drop 0)
    (Or.inr rfl) afterwards
  have alone : ∀ other, other ≠ 0 → underWay.world.live? other = none := by
    intro other different
    have beyond : underWay.world.schedulers.length ≤ other :=
      Nat.le_trans (by decide +kernel) (Nat.pos_of_ne_zero different)
    rw [World.live?, List.getElem?_eq_none beyond]
    rfl
  have rest := silent.2.2.2.2.1 alone (by rintro config member; simp [afterwards] at member)
  exact ⟨by decide +kernel, alone, silent.2.1.1, rest.1, rest.2.1⟩

end Run

end Lint
end Workbench
