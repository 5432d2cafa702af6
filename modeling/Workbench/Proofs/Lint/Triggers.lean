import Workbench.Proofs.Lint.Clearing
import Workbench.Proofs.Lint.Exact

namespace Workbench
namespace Lint

/-!
# Immediate triggers

A document that is opened, a document that is saved where the settings of that moment say so, and an
interpreter that changes ask for a pass at once.  Every scheduler that is not disposed asks once for
each such event, and the engine is asked as often as that, and for nothing else of these kinds, when
no task is left.
-/

namespace Reason

/-- Whether a pass of this kind is due to a single event that needs no looking into. -/
def isTrigger : Reason → Bool
  | opened | saved | interpreterChanged => true
  | _ => false

end Reason

namespace Pass

def isTrigger (pass : Pass) : Bool :=
  pass.reason.isTrigger

end Pass

namespace Action

/-- Whether schedulers come or go. -/
def isStaffing : Action → Bool
  | start _ | dispose _ | drop _ => true
  | _ => false

/-- Whether something happens that may demand a pass at once. -/
def isTrigger : Action → Bool
  | openDocument _ | saveDocument _ | changeInterpreter => true
  | _ => false

def changesInterpreter : Action → Bool
  | changeInterpreter => true
  | _ => false

end Action

namespace World

variable {w w' : World} {action : Action}

/-- The passes that an event demands of a scheduler, given its configuration. -/
def demandOf (config : Config) (w : World) : Action → List Pass
  | .openDocument document => [.document document.uri .opened]
  | .saveDocument document =>
    if document.languageId = config.languageId ∧
        (w.table.switches document.uri).enabled = true ∧
        (w.table.switches document.uri).lintOnSave = true then
      [.document document.uri .saved]
    else []
  | .changeInterpreter => [.openFiles .interpreterChanged]
  | _ => []

/-- The configurations of the schedulers that are not disposed. -/
def liveConfigs (w : World) : List Config :=
  (List.range w.schedulers.length).filterMap fun scheduler =>
    (w.live? scheduler).map Scheduler.config

/-- The passes that an event demands of all schedulers. -/
def demandedAt (w : World) (action : Action) : List Pass :=
  w.liveConfigs.flatMap fun config => w.demandOf config action

theorem lintsOnSave_eq_true_iff {s : Scheduler} {document : Document} :
    w.lintsOnSave s document = true ↔ document.languageId = s.config.languageId ∧
      (w.table.switches document.uri).enabled = true ∧
      (w.table.switches document.uri).lintOnSave = true := by
  simp [lintsOnSave, Switches.lintsOnSave]

theorem filter_eventTasks (w : World) (scheduler : Nat) (s : Scheduler) (action : Action) :
    ((w.eventTasks scheduler s action).filterMap Task.pass?).filter Pass.isTrigger =
      w.demandOf s.config action := by
  cases action with
  | saveDocument document =>
      unfold eventTasks demandOf
      dsimp only
      by_cases lints : w.lintsOnSave s document = true
      · rw [if_pos lints, if_pos (lintsOnSave_eq_true_iff.mp lints)]
        rfl
      · rw [if_neg lints, if_neg fun wanted => lints (lintsOnSave_eq_true_iff.mpr wanted)]
        cases document.baseName? <;> rfl
  | changeConfiguration change =>
      refine List.filter_eq_nil_iff.mpr fun pass member => ?_
      rcases List.mem_filterMap.mp member with ⟨task, started, same⟩
      rcases List.mem_map.mp started with ⟨document, _, rfl⟩
      cases same
      exact Bool.false_ne_true
  | _ => rfl

/-- What each scheduler contributes that is not disposed, it contributes by its configuration. -/
theorem flatMap_live {α : Type} (of : Nat → List α) (part : Config → List α)
    (each : ∀ scheduler, of scheduler = ((w.live? scheduler).map fun s => part s.config).getD []) :
    (List.range w.schedulers.length).flatMap of = w.liveConfigs.flatMap part := by
  unfold liveConfigs
  induction List.range w.schedulers.length with
  | nil => rfl
  | cons scheduler rest inductionHypothesis =>
      rw [List.flatMap_cons, inductionHypothesis, List.filterMap_cons, each]
      cases w.live? scheduler with
      | none => rfl
      | some s => rfl

theorem filter_causedAt_eq {which : Pass → Bool} (part : Config → List Pass)
    (each : ∀ scheduler s,
      ((w.eventTasks scheduler s action).filterMap Task.pass?).filter which = part s.config) :
    (w.causedAt action).filter which = w.liveConfigs.flatMap part := by
  rw [causedAt, tasksAt, List.filterMap_flatMap, List.filter_flatMap]
  refine flatMap_live _ part fun scheduler => ?_
  rw [tasksOf]
  cases w.live? scheduler with
  | none => rfl
  | some s => exact each scheduler s

/-- What events ask for at once is what they demand of each scheduler. -/
theorem filter_causedAt (w : World) (action : Action) :
    (w.causedAt action).filter Pass.isTrigger = w.demandedAt action :=
  filter_causedAt_eq _ fun scheduler s => w.filter_eventTasks scheduler s action

/-- Whatever a saved document is linted for is demanded. -/
theorem causedAt_saveDocument (w : World) (document : Document) :
    w.causedAt (.saveDocument document) = w.demandedAt (.saveDocument document) := by
  rw [← filter_causedAt, eq_comm, List.filter_eq_self]
  intro pass member
  rcases List.mem_filterMap.mp member with ⟨task, started, same⟩
  rcases List.mem_flatMap.mp started with ⟨scheduler, _, started⟩
  unfold tasksOf at started
  split at started
  · unfold eventTasks at started
    dsimp only at started
    split at started
    · rw [List.mem_singleton.mp started] at same
      cases same
      rfl
    · rw [Option.mem_toList] at started
      rcases Option.map_eq_some_iff.mp started with ⟨_, _, rfl⟩
      cases same
  · cases started

theorem mem_liveConfigs {scheduler : Nat} {s : Scheduler} (live : w.live? scheduler = some s) :
    s.config ∈ w.liveConfigs := by
  refine List.mem_filterMap.mpr ⟨scheduler, ?_, by rw [live]; rfl⟩
  rw [List.mem_range]
  exact (List.getElem?_eq_some_iff.mp (live?_eq_some_iff.mp live).1).1

/-- A document that is linted because it was saved is not looked up. -/
theorem requestedAt_of_demanded {config : Config} {document : Document}
    (alone : w.liveConfigs = [config])
    (demanded : w.demandOf config (.saveDocument document) ≠ []) :
    w.requestedAt (.saveDocument document) = [] := by
  refine List.filterMap_eq_nil_iff.mpr fun scheduler _ => ?_
  unfold request?
  cases live : w.live? scheduler with
  | none => rfl
  | some s =>
      have same : s.config = config := by
        have member := mem_liveConfigs live
        rw [alone] at member
        exact List.mem_singleton.mp member
      have lints : w.lintsOnSave s document = true := by
        rw [lintsOnSave_eq_true_iff, same]
        by_contra unwanted
        exact demanded (if_neg unwanted)
      simp [lints]

/-! ## Who is asked -/

theorem Obeys.config? {orders : List Order} (obeys : Obeys orders w w') (scheduler : Nat) :
    (w'.live? scheduler).map Scheduler.config = (w.live? scheduler).map Scheduler.config := by
  cases obeys with
  | nothing calm => rw [calm.live]
  | @schedules _ _ order schedules =>
      by_cases here : scheduler = order.scheduler
      · rcases schedules.live with ⟨s, before, after⟩
        rw [here, before, after]
        rfl
      · rw [schedules.others scheduler here]

/-- Only when schedulers come or go does it change who is asked. -/
theorem Happens.config? (happens : Happens w action w') (constant : action.isStaffing = false)
    (scheduler : Nat) :
    (w'.live? scheduler).map Scheduler.config = (w.live? scheduler).map Scheduler.config := by
  cases happens with
  | calm calm => rw [calm.live]
  | started => cases constant
  | retired which => rcases which with rfl | rfl <;> cases constant
  | linted _ schedulers => rw [live?_of_schedulers schedulers]
  | lookedUp _ asked obeys =>
      rcases asked with ⟨log, rfl⟩
      exact obeys.config? scheduler
  | awaited _ awaits =>
      cases awaits with
      | ended _ same | waits _ _ _ same =>
          rw [same]
          rfl
      | reaches _ _ _ schedulers => exact congrArg _ (live?_of_schedulers schedulers scheduler)
  | fired => rfl

theorem liveConfigs_congr (configs : w'.configs.length = w.configs.length)
    (same : ∀ scheduler, (w'.live? scheduler).map Scheduler.config =
      (w.live? scheduler).map Scheduler.config) : w'.liveConfigs = w.liveConfigs := by
  rw [World.configs, World.configs, List.length_map, List.length_map] at configs
  rw [liveConfigs, liveConfigs, configs]
  simp only [same]

theorem liveConfigs_act (attuned : w.Attuned) (constant : action.isStaffing = false) :
    (w.act action).liveConfigs = w.liveConfigs := by
  have happens := act_happens attuned action
  refine liveConfigs_congr (congrArg List.length (happens.configs ?_)) (happens.config? constant)
  rintro config rfl
  cases constant

/-- The first scheduler is the only one. -/
theorem liveConfigs_start (first : w.schedulers = []) (runs : w.hasRuntime = true)
    (config : Config) : (w.act (.start config)).liveConfigs = [config] := by
  rcases w.addScheduler_adds config with ⟨added, adds, obeys⟩
  have started : w.act (.start config) = w.addScheduler config := by
    show ((w.startScheduler config).toOption.getD w) = _
    rw [startScheduler, if_pos runs]
    rfl
  have length : (w.addScheduler config).schedulers.length = 1 := by
    have configs := congrArg List.length (obeys.configs.trans adds.configs)
    rw [World.configs, World.configs, first, List.length_map] at configs
    exact configs
  have live : ((w.addScheduler config).live? 0).map Scheduler.config = some config := by
    rw [obeys.config?, adds.live, first]
    rfl
  rw [started, liveConfigs, length]
  simp [List.range_succ, live]

end World

namespace Run

/-- The passes that events demanded at once. -/
def demanded (run : Run) : List Pass :=
  run.collect World.demandedAt

theorem filter_caused (run : Run) : run.caused.filter Pass.isTrigger = run.demanded := by
  induction run using Run.induction with
  | start hasRuntime => rfl
  | step run action inductionHypothesis =>
      have caused : (run.step action).caused = run.caused ++ run.world.causedAt action :=
        run.collect_step _ action
      have demanded : (run.step action).demanded = run.demanded ++ run.world.demandedAt action :=
        run.collect_step _ action
      rw [caused, demanded, List.filter_append, inductionHypothesis, World.filter_causedAt]

/-- What is demanded at once has reached the engine once, or its turn is still to come. -/
theorem demanded_perm (run : Run) :
    (run.world.passes.filter Pass.isTrigger ++
      (run.world.queue.filterMap Task.pass?).filter Pass.isTrigger).Perm run.demanded := by
  have undelayed : ∀ reason : Reason, reason.isDelayed = true →
      (Pass.openFiles reason).isTrigger = false := by
    intro reason
    cases reason <;> decide
  rw [run.passes_filter undelayed, ← List.filter_append, ← filter_caused]
  exact run.caused_perm.filter _

/-- Before a scheduler starts nothing is demanded. -/
theorem demanded_of_unstarted (run : Run) (unstarted : ∀ config, .start config ∉ run.actions) :
    run.world.schedulers = [] ∧ run.demanded = [] := by
  induction run using Run.induction with
  | start hasRuntime => exact ⟨rfl, rfl⟩
  | step run action inductionHypothesis =>
      rcases inductionHypothesis fun config member =>
        unstarted config (List.mem_append_left _ member) with ⟨none, nothing⟩
      have first : run.world.startedAt action = [] := by
        cases action with
        | start config =>
            exact absurd (List.mem_append_right _ List.mem_cons_self) (unstarted config)
        | _ => rfl
      have configs := World.act_configs run.attuned action
      have demanded : (run.step action).demanded = run.demanded ++ run.world.demandedAt action :=
        run.collect_step _ action
      rw [first, World.configs, World.configs, none] at configs
      have same := congrArg World.configs (run.world_step action)
      refine ⟨List.map_eq_nil_iff.mp (same.trans configs), ?_⟩
      rw [demanded, nothing, World.demandedAt, World.liveConfigs, none]
      rfl

theorem hasRuntime_world (run : Run) : run.world.hasRuntime = run.hasRuntime := by
  induction run using Run.induction with
  | start hasRuntime => rfl
  | step run action inductionHypothesis =>
      rw [world_step, (World.act_sameView run.attuned action).hasRuntime]
      exact inductionHypothesis

/-- One scheduler that is there to stay demands what its configuration says. -/
theorem demanded_extend {run : Run} {config : Config} (alone : run.world.liveConfigs = [config])
    {events : List Action} (constant : ∀ action ∈ events, action.isStaffing = false) :
    (run.extend events).world.liveConfigs = [config] ∧
      (run.extend events).demanded =
        run.demanded ++ run.world.collect (World.demandOf config) events := by
  induction events generalizing run with
  | nil =>
      rw [extend_nil]
      exact ⟨alone, (List.append_nil _).symm⟩
  | cons action rest inductionHypothesis =>
      have first := constant action List.mem_cons_self
      have others := fun other member => constant other (List.mem_cons_of_mem action member)
      have same : (run.step action).world.liveConfigs = [config] := by
        rw [world_step, World.liveConfigs_act run.attuned first, alone]
      have now : (run.step action).demanded =
          run.demanded ++ run.world.demandOf config action := by
        rw [demanded, collect_step, World.demandedAt, alone, List.flatMap_singleton]
        rfl
      rcases inductionHypothesis same others with ⟨last, demanded⟩
      rw [extend_cons]
      refine ⟨last, ?_⟩
      rw [demanded, now, world_step, World.collect, List.append_assoc]

end Run

namespace World

variable {w : World} {config : Config}

/-- What happens otherwise demands nothing. -/
theorem collect_demandOf_eq_nil {later : List Action}
    (quiet : ∀ action ∈ later, action.isTrigger = false) :
    w.collect (demandOf config) later = [] := by
  induction later generalizing w with
  | nil => rfl
  | cons action rest inductionHypothesis =>
      have first : w.demandOf config action = [] := by
        have none := quiet action List.mem_cons_self
        cases action <;> first | rfl | cases none
      rw [collect, first, inductionHypothesis fun other member =>
        quiet other (List.mem_cons_of_mem action member)]
      rfl

theorem count_opened (uri : Url) (events : List Action) :
    (w.collect (demandOf config) events).count (.document uri .opened) =
      events.countP (Action.opens uri) := by
  induction events generalizing w with
  | nil => rfl
  | cons action rest inductionHypothesis =>
      rw [collect, List.count_append, inductionHypothesis, List.countP_cons, Nat.add_comm]
      congr 1
      cases action with
      | openDocument document => simp [demandOf, Action.opens, List.count_cons]
      | saveDocument document =>
          unfold demandOf
          dsimp only
          split <;> simp [Action.opens]
      | changeInterpreter => simp [demandOf, Action.opens]
      | _ => rfl

theorem count_interpreterChanged (events : List Action) :
    (w.collect (demandOf config) events).count (.openFiles .interpreterChanged) =
      events.countP Action.changesInterpreter := by
  induction events generalizing w with
  | nil => rfl
  | cons action rest inductionHypothesis =>
      rw [collect, List.count_append, inductionHypothesis, List.countP_cons, Nat.add_comm]
      congr 1
      cases action with
      | saveDocument document =>
          unfold demandOf
          dsimp only
          split <;> simp [Action.changesInterpreter]
      | openDocument document => simp [demandOf, Action.changesInterpreter]
      | changeInterpreter => simp [demandOf, Action.changesInterpreter]
      | _ => rfl

end World

namespace Run

/-- As long as a scheduler is there alone, the engine is asked once for every document that is
opened, for every document that is saved in the scheduler's language while the settings of that
moment say so, and for every change of the interpreter, and for nothing else of these kinds, when no
task is left.  What happens later does not change that, and a document that is linted because it was
saved is not looked up. -/
theorem immediate_triggers_are_exact (before events : List Action) (config : Config)
    (unstarted : ∀ other, .start other ∉ before)
    (constant : ∀ action ∈ events, action.isStaffing = false) :
    let started : Run := { actions := before ++ [.start config] }
    let run := started.extend events
    let demands := started.world.collect (World.demandOf config) events
    -- What is demanded reaches the engine once, or its turn is still to come.
    (run.world.passes.filter Pass.isTrigger ++
        (run.world.queue.filterMap Task.pass?).filter Pass.isTrigger).Perm demands ∧
    (run.world.queue = [] →
      (run.world.passes.filter Pass.isTrigger).Perm demands ∧
        (∀ uri, run.world.passes.count (.document uri .opened) =
          events.countP (Action.opens uri)) ∧
        run.world.passes.count (.openFiles .interpreterChanged) =
          events.countP Action.changesInterpreter) ∧
    -- Nothing that happens later changes what was demanded, such as other settings.
    (∀ later : List Action,
      (∀ action ∈ later, action.isStaffing = false ∧ action.isTrigger = false) →
        ((run.extend later).world.passes.filter Pass.isTrigger ++
          ((run.extend later).world.queue.filterMap Task.pass?).filter Pass.isTrigger).Perm
            demands) ∧
    -- The executor leaves no task.
    (run.world.Punctual → ∀ milliseconds,
      (run.world.advance milliseconds).queue = [] ∧
        ((run.world.advance milliseconds).passes.filter Pass.isTrigger).Perm demands) ∧
    -- A document that is saved is linted or looked up, not both.
    ∀ document,
      run.world.causedAt (.saveDocument document) =
          run.world.demandOf config (.saveDocument document) ∧
        (run.world.demandOf config (.saveDocument document) ≠ [] →
          run.world.requestedAt (.saveDocument document) = []) := by
  intro started run demands
  have alone : started.world.liveConfigs = [config] := by
    have first := demanded_of_unstarted { actions := before } unstarted
    have runs := hasRuntime_world { actions := before }
    have step : started.world = (Run.world { actions := before }).act (.start config) :=
      world_step { actions := before } (.start config)
    rw [step]
    exact World.liveConfigs_start first.1 runs config
  have nothing : started.demanded = [] := by
    have first := demanded_of_unstarted { actions := before } unstarted
    have step : started.demanded = Run.demanded { actions := before } ++
        (Run.world { actions := before }).demandedAt (.start config) :=
      collect_step { actions := before } World.demandedAt (.start config)
    rw [step, first.2, World.demandedAt]
    exact List.flatMap_eq_nil_iff.mpr fun _ _ => rfl
  rcases demanded_extend alone constant with ⟨alone', demanded⟩
  rw [nothing, List.nil_append] at demanded
  have now := run.demanded_perm
  rw [demanded] at now
  have unchanged (later : List Action)
      (quiet : ∀ action ∈ later, action.isStaffing = false ∧ action.isTrigger = false) :
      ((run.extend later).world.passes.filter Pass.isTrigger ++
        ((run.extend later).world.queue.filterMap Task.pass?).filter Pass.isTrigger).Perm
          demands := by
    have more := (demanded_extend alone' fun action member => (quiet action member).1).2
    rw [demanded, World.collect_demandOf_eq_nil fun action member => (quiet action member).2,
      List.append_nil] at more
    have perm := (run.extend later).demanded_perm
    rwa [more] at perm
  refine ⟨now, fun idle => ?_, unchanged, fun punctual milliseconds => ?_,
    fun document => ?_⟩
  · rw [idle, List.filterMap_nil, List.filter_nil, List.append_nil] at now
    refine ⟨now, fun uri => ?_, ?_⟩
    · rw [← World.count_opened uri events, ← now.count_eq, List.count_filter rfl]
    · rw [← World.count_interpreterChanged events, ← now.count_eq, List.count_filter rfl]
  · rcases run.serves_self.advance punctual milliseconds with
      ⟨⟨later, executions, same⟩, settled, _⟩
    rw [← same] at settled ⊢
    have perm := unchanged later fun action member => by
      have execution := executions action member
      cases action <;> first | exact ⟨rfl, rfl⟩ | cases execution
    rw [settled.idle, List.filterMap_nil, List.filter_nil, List.append_nil] at perm
    exact ⟨settled.idle, perm⟩
  · refine ⟨?_, World.requestedAt_of_demanded alone'⟩
    rw [World.causedAt_saveDocument, World.demandedAt, alone', List.flatMap_singleton]

/-- A document is opened again, saved with and without linting on save, and the settings change
while its passes wait; the interpreter changes, too. -/
def busy : List Action :=
  let document : Document :=
    { uri := { scheme := "untitled", path := "work/a.py" }, languageId := "python" }
  [.openDocument document, .openDocument document, .saveDocument document,
    .setSwitches { overrides := [(document.uri, { lintOnSave := false })] },
    .saveDocument document, .changeInterpreter, .turn 1, .turn 0, .turn 2, .turn 0, .turn 0]

theorem busy_is_exact :
    let run : Run :=
      Run.extend { actions := [.pass 3] ++ [.start ⟨"python", "python", 5, 10, false⟩] } busy
    let uri : Url := { scheme := "untitled", path := "work/a.py" }
    run.world.queue = [] ∧
      (run.world.passes.filter Pass.isTrigger).Perm
        [.document uri .opened, .document uri .opened, .document uri .saved,
          .openFiles .interpreterChanged] ∧
      run.world.passes.count (.document uri .opened) = busy.countP (Action.opens uri) := by
  intro run uri
  have idle : run.world.queue = [] := by decide +kernel
  have exact' := immediate_triggers_are_exact [.pass 3] busy ⟨"python", "python", 5, 10, false⟩
    (by simp) (by decide +kernel)
  rcases exact'.2.1 idle with ⟨reached, opened, _⟩
  exact ⟨idle, reached, opened uri⟩

end Run

end Lint
end Workbench
