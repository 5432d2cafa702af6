import Workbench.Proofs.Lint.Thinning

namespace Workbench
namespace Lint

/-!
# Two worlds from outside

A world that lacks some delayed passes of another goes on lacking them and nothing else, whatever is
asked of both worlds from outside: schedulers come and go, and events are told.
-/

namespace World

variable {w w' : World}

/-! ## Ending passes -/

theorem getElem?_endAll (delayed : List Delayed) (indices : List Nat) (index : Nat) :
    (endAll delayed indices)[index]? =
      (delayed[index]?).map fun pass => { pass with ended := pass.ended || index ∈ indices } := by
  induction indices generalizing delayed with
  | nil => simp [endAll]
  | cons first rest inductionHypothesis =>
      have step : endAll delayed (first :: rest) =
          endAll (delayed.modify first ({ · with ended := true })) rest := rfl
      rw [step, inductionHypothesis, List.getElem?_modify]
      cases delayed[index]? with
      | none => rfl
      | some pass =>
          by_cases here : first = index
          · simp [here]
          · simp [here, Ne.symm here]

/-- What is over need not be ended. -/
theorem endAll_filter (w : World) (indices : List Nat) :
    endAll w.delayed (indices.filter fun index => !w.hasEnded index) =
      endAll w.delayed indices := by
  apply List.ext_getElem?
  intro index
  rw [getElem?_endAll, getElem?_endAll]
  cases found : w.delayed[index]? with
  | none => rfl
  | some pass => cases past : pass.ended <;> simp [hasEnded, found, past]

theorem keep_endAll (lost : Nat → Bool) (delayed : List Delayed) (indices : List Nat) :
    keep lost (endAll delayed indices) =
      endAll (keep lost delayed) (indices.filterMap (moved? lost)) := by
  induction indices generalizing delayed with
  | nil => rfl
  | cons index rest inductionHypothesis =>
      have step : endAll delayed (index :: rest) =
          endAll (delayed.modify index ({ · with ended := true })) rest := rfl
      rw [step, inductionHypothesis]
      cases status : lost index with
      | true => rw [keep_modify_of_lost status, List.filterMap_cons_none (moved?_of_lost status)]
      | false =>
          rw [keep_modify status, List.filterMap_cons_some (moved?_of_kept status)]
          rfl

/-! ## Schedulers come and go -/

/-- One more scheduler listens to all channels. -/
def joined (w : World) (config : Config) : World :=
  { w with
    schedulers := w.schedulers ++ [({ config } : Scheduler)]
    listeners := w.listeners ++ Channel.all.map fun channel => (channel, w.schedulers.length) }

/-- Nothing is pending with a scheduler that joins. -/
theorem pendingOf_joined (w : World) (config : Config) (scheduler : Nat) :
    (w.joined config).pendingOf scheduler = w.pendingOf scheduler := by
  rw [pendingOf, pendingOf, joined]
  dsimp only
  rcases Nat.lt_trichotomy scheduler w.schedulers.length with before | rfl | beyond
  · rw [List.getElem?_append_left before]
  · rw [List.getElem?_concat_length, List.getElem?_eq_none (Nat.le_refl _)]
    rfl
  · rw [List.getElem?_eq_none (by simp; omega), List.getElem?_eq_none (Nat.le_of_lt beyond)]

/-- A scheduler that is added joins, and may schedule a pass. -/
theorem addScheduler_eq (w : World) (config : Config) :
    ∃ v, Even (w.joined config) v ∧
      Even (if config.runStartupPass then
          v.schedule w.schedulers.length config.startupDelay .startup else v)
        (w.addScheduler config) := by
  unfold addScheduler
  split
  · exact ⟨_, .write _ _, .write _ _⟩
  · exact ⟨_, .refl _, .write _ _⟩

theorem disposeScheduler_eq {scheduler : Nat} {s : Scheduler}
    (live : w.live? scheduler = some s) :
    ∃ log, w.disposeScheduler scheduler =
      { w with
        schedulers := w.schedulers.modify scheduler ({ · with disposed := true, pending := [] })
        listeners := w.listeners.filter fun entry => entry.2 != scheduler
        delayed := endAll w.delayed s.pending
        log } := by
  rcases live?_eq_some_iff.mp live with ⟨found, standing⟩
  unfold World.disposeScheduler
  rw [found]
  simp only [standing, Bool.false_eq_true, if_false]
  exact ⟨_, rfl⟩

theorem Bounded.joined (bounded : w.Bounded) {config : Config} (even : Even (w.joined config) w') :
    w'.Bounded := by
  rcases even with ⟨passes, failEngine, failLookups, log, rfl⟩
  intro scheduler index member
  change index ∈ (w.joined config).pendingOf scheduler at member
  rw [pendingOf_joined] at member
  exact bounded scheduler index member

theorem left?_of_eventTasks {s : Scheduler} {scheduler : Nat} {action : Action} {task : Task}
    (member : task ∈ w.eventTasks scheduler s action) (lost : Nat → Bool) :
    task.left? lost = some task := by
  unfold eventTasks at member
  split at member
  · rw [List.mem_singleton.mp member]
    rfl
  · split at member
    · rw [List.mem_singleton.mp member]
      rfl
    · rw [Option.toList_map] at member
      rcases List.mem_map.mp member with ⟨baseName, _, rfl⟩
      rfl
  · rcases List.mem_map.mp member with ⟨document, _, rfl⟩
    rfl
  · rw [List.mem_singleton.mp member]
    rfl
  · cases member

/-- The tasks that an event starts are all left. -/
theorem filterMap_left?_tasksOf (w : World) (action : Action) (lost : Nat → Bool)
    (schedulers : List Nat) :
    (schedulers.flatMap (w.tasksOf action)).filterMap (Task.left? lost) =
      schedulers.flatMap (w.tasksOf action) := by
  have all : ∀ task ∈ schedulers.flatMap (w.tasksOf action), task.left? lost = some task := by
    intro task member
    rcases List.mem_flatMap.mp member with ⟨scheduler, _, member⟩
    unfold tasksOf at member
    split at member
    · exact left?_of_eventTasks member lost
    · cases member
  rw [List.filterMap_congr all, List.filterMap_some]

namespace Thin

variable {lost : Nat → Bool} {a a' b b' : World}

/-! ### Schedulers come and go -/

theorem modifyScheduler (thin : Thin lost a b) {f g : Scheduler → Scheduler}
    (bare : ∀ s, (f s).bare = g s.bare) (pending : ∀ s, (f s).pending = s.pending)
    (scheduler : Nat) :
    Thin lost (a.modifyScheduler scheduler f) (b.modifyScheduler scheduler f) := by
  have same (w : World) (other : Nat) :
      (w.modifyScheduler scheduler f).pendingOf other = w.pendingOf other := by
    rw [pendingOf_modify rfl]
    simp only [pending, pendingOf, ite_self]
  refine { thin with schedulers := ?_, running := fun other => ?_ }
  · show (b.schedulers.modify _ _).map _ = (a.schedulers.modify _ _).map _
    rw [map_bare_modify bare, map_bare_modify bare, thin.schedulers]
  · have delayed : (b.modifyScheduler scheduler f).delayed =
        keep lost (a.modifyScheduler scheduler f).delayed := thin.delayed
    exact thin.running_of_ends delayed (fun _ past => past) (fun _ past => past)
      (same a other) (same b other)

theorem disposeScheduler (thin : Thin lost a b) (scheduler : Nat) :
    Thin lost (a.disposeScheduler scheduler) (b.disposeScheduler scheduler) := by
  rcases thin.live scheduler with ⟨one, other⟩ | ⟨s, t, one, other, _⟩
  · rw [disposeScheduler_of_disposed one, disposeScheduler_of_disposed other]
    exact thin
  · rcases disposeScheduler_eq one with ⟨log, disposed⟩
    rcases disposeScheduler_eq other with ⟨log', disposed'⟩
    have running (w : World) {s : Scheduler} (live : w.live? scheduler = some s) :
        w.running scheduler = s.pending.filter fun index => !w.hasEnded index := by
      rw [World.running, pendingOf, (live?_eq_some_iff.mp live).1]
      rfl
    have delayed : endAll b.delayed t.pending = keep lost (endAll a.delayed s.pending) := by
      rw [keep_endAll, ← thin.delayed, ← endAll_filter b (s.pending.filterMap _),
        filter_filterMap_comm fun index place moved => congrArg not (thin.hasEnded moved),
        ← running a one, ← thin.running, running b other, endAll_filter]
    rw [disposed, disposed']
    refine
      { scene := congrArg (fun scene : World => { scene with
          listeners := scene.listeners.filter fun entry => entry.2 != scheduler }) thin.scene
        schedulers := ?_
        running := fun k => ?_
        delayed
        timers := thin.timers
        queue := thin.queue }
    · show (b.schedulers.modify _ _).map _ = (a.schedulers.modify _ _).map _
      rw [map_bare_modify (g := ({ · with disposed := true })) fun _ => rfl,
        map_bare_modify (g := ({ · with disposed := true })) fun _ => rfl, thin.schedulers]
    · by_cases here : k = scheduler
      · subst here
        have nothing (w : World) :
            ((w.schedulers[k]?).map fun _ => ([] : List Nat)).getD [] = [] := by
          cases w.schedulers[k]? <;> rfl
        rw [World.running, pendingOf_modify (w := b) rfl, if_pos rfl, nothing, World.running,
          pendingOf_modify (w := a) rfl, if_pos rfl, nothing]
        rfl
      · refine thin.running_of_ends delayed (fun index past => ?_) (fun index past => ?_) ?_ ?_
        · rw [hasEnded_endAll rfl, past, Bool.or_true]
        · rw [hasEnded_endAll rfl, past, Bool.or_true]
        · rw [pendingOf_modify (w := a) rfl, if_neg here]
        · rw [pendingOf_modify (w := b) rfl, if_neg here]

theorem joined (thin : Thin lost a b) (config : Config) :
    Thin lost (a.joined config) (b.joined config) := by
  have delayed : (b.joined config).delayed = keep lost (a.joined config).delayed := thin.delayed
  refine { thin with scene := ?_, schedulers := ?_, running := fun scheduler => ?_, delayed }
  · unfold World.joined
    rw [thin.length_schedulers]
    exact congrArg (fun scene : World => { scene with
      listeners := scene.listeners ++ Channel.all.map fun channel =>
        (channel, a.schedulers.length) }) thin.scene
  · show (b.schedulers ++ _).map _ = (a.schedulers ++ _).map _
    rw [List.map_append, List.map_append, thin.schedulers]
  · exact thin.running_of_ends delayed (fun _ past => past) (fun _ past => past)
      (pendingOf_joined a config scheduler) (pendingOf_joined b config scheduler)

theorem addScheduler (thin : Thin lost a b) (bounded : a.Bounded) (bounded' : b.Bounded)
    (config : Config) (fate : config.runStartupPass = true → lost a.delayed.length = false) :
    Thin lost (a.addScheduler config) (b.addScheduler config) := by
  rcases addScheduler_eq a config with ⟨v, joins, added⟩
  rcases addScheduler_eq b config with ⟨v', joins', added'⟩
  have both := (thin.joined config).even joins joins'
  have length : v.delayed.length = a.delayed.length := by
    rcases joins with ⟨passes, failEngine, failLookups, log, rfl⟩
    rfl
  rw [thin.length_schedulers] at added'
  refine Thin.even ?_ added added'
  cases startup : config.runStartupPass with
  | false => exact both
  | true =>
      refine both.schedule (bounded.joined joins) (bounded'.joined joins') ?_ _ _ _
      rw [length, fate startup]

/-! ### Events -/

theorem tasksOf (thin : Thin lost a b) (action : Action) (scheduler : Nat) :
    b.tasksOf action scheduler = a.tasksOf action scheduler := by
  have table := thin.sees World.table fun _ => rfl
  have editors := thin.sees World.editors fun _ => rfl
  unfold World.tasksOf
  rcases thin.live scheduler with ⟨one, other⟩ | ⟨s, t, one, other, config⟩
  · rw [one, other]
  · rw [one, other]
    cases action <;> simp [eventTasks, lintsOnSave, table, editors, config]

/-- An event is told in both worlds. -/
theorem told (thin : Thin lost a b) {action : Action} {channel : Channel}
    (one : Asks ((a.listenersOn channel).flatMap (a.tasksOf action)) a a')
    (other : Asks ((b.listenersOn channel).flatMap (b.tasksOf action)) b b')
    (cleared : b'.cleared = a'.cleared) : Thin lost a' b' := by
  have listeners := thin.sees World.listeners fun _ => rfl
  have tasks : (b.listenersOn channel).flatMap (b.tasksOf action) =
      (a.listenersOn channel).flatMap (a.tasksOf action) := by
    rw [listenersOn, listeners, ← listenersOn, funext (thin.tasksOf action)]
  rw [tasks] at other
  rcases one with ⟨cleared', log, rfl⟩
  rcases other with ⟨_, log', rfl⟩
  cases cleared
  have scene := congrArg (fun scene : World => { scene with cleared := cleared' }) thin.scene
  refine { thin with scene, queue := ?_ }
  rw [List.filterMap_append, thin.queue, filterMap_left?_tasksOf]

theorem clearedAt (thin : Thin lost a b) (action : Action) :
    b.clearedAt action = a.clearedAt action := by
  have editors := thin.sees World.editors fun _ => rfl
  rw [World.clearedAt, World.clearedAt, thin.length_schedulers]
  congr 1
  funext scheduler
  cases action with
  | closeDocument document =>
      have live : (b.live? scheduler).isSome = (a.live? scheduler).isSome := by
        rcases thin.live scheduler with ⟨one, other⟩ | ⟨s, t, one, other, _⟩
        · rw [one, other]
        · rw [one, other, Option.isSome_some, Option.isSome_some]
      unfold clearsOf editorsAfter
      rw [live, editors]
  | _ => rfl

/-- Whatever is asked of both worlds from outside. -/
theorem act (thin : Thin lost a b) (attuned : a.Attuned) (attuned' : b.Attuned)
    (bounded : a.Bounded) (bounded' : b.Bounded) {action : Action}
    (outside : action.isExecution = false)
    (fate : a.orderedAt action ≠ [] → lost a.delayed.length = false) :
    Thin lost (a.act action) (b.act action) := by
  have hasRuntime := thin.sees World.hasRuntime fun _ => rfl
  have editors := thin.sees World.editors fun _ => rfl
  have cleared : (b.act action).cleared = (a.act action).cleared := by
    have same := thin.sees World.cleared fun _ => rfl
    rw [(act_sameView attuned action).cleared, (act_sameView attuned' action).cleared]
    show b.cleared ++ b.clearedAt action = a.cleared ++ a.clearedAt action
    rw [same, thin.clearedAt]
  have shows (editors : Editors) : Thin lost { a with editors } { b with editors } :=
    { thin with scene := congrArg (fun scene : World => { scene with editors }) thin.scene }
  cases action with
  | start config =>
      show Thin lost ((a.startScheduler config).toOption.getD a)
        ((b.startScheduler config).toOption.getD b)
      unfold startScheduler
      rw [hasRuntime]
      split
      · rename_i runs
        refine thin.addScheduler bounded bounded' config fun startup => fate ?_
        simp [orderedAt, runs, startup]
      · exact thin
  | dispose scheduler => exact thin.disposeScheduler scheduler
  | drop scheduler =>
      exact (thin.disposeScheduler scheduler).modifyScheduler (f := ({ · with dropped := true }))
        (g := ({ · with dropped := true })) (fun _ => rfl) (fun _ => rfl) scheduler
  | openDocument document =>
      have opened := shows (a.editors.add document)
      nth_rewrite 2 [← editors] at opened
      exact opened.told (tell_asks (fun _ _ => onOpened_asks document) .opened)
        (tell_asks (fun _ _ => onOpened_asks document) .opened) cleared
  | closeDocument document =>
      have closed := shows (a.editors.close document.uri)
      nth_rewrite 2 [← editors] at closed
      exact closed.told (tell_asks (fun _ _ => onClosed_asks document) .closed)
        (tell_asks (fun _ _ => onClosed_asks document) .closed) cleared
  | saveDocument document =>
      exact thin.told (tell_asks (fun _ _ => onSaved_asks document) .saved)
        (tell_asks (fun _ _ => onSaved_asks document) .saved) cleared
  | changeConfiguration change =>
      exact thin.told (tell_asks (fun _ _ => onConfigurationChanged_asks change) .configuration)
        (tell_asks (fun _ _ => onConfigurationChanged_asks change) .configuration) cleared
  | changeInterpreter =>
      exact thin.told (tell_asks (fun _ _ => onInterpreterChanged_asks) .interpreter)
        (tell_asks (fun _ _ => onInterpreterChanged_asks) .interpreter) cleared
  | setSwitches table =>
      exact { thin with
        scene := congrArg (fun scene : World => { scene with table }) thin.scene }
  | setLinters linters =>
      exact { thin with
        scene := congrArg (fun scene : World => { scene with linters }) thin.scene }
  | failLookups | failEngine => exact thin.even ⟨_, _, _, _, rfl⟩ ⟨_, _, _, _, rfl⟩
  | turn | pass | fire => cases outside

end Thin

end World

end Lint
end Workbench
