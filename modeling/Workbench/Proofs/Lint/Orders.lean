import Mathlib.Data.List.Basic
import Workbench.Proofs.Lint.Events

namespace Workbench
namespace Lint

/-!
# Lookups and delayed passes

Saving a document may request lookups of linters, a lookup may order a delayed pass, and so does a
scheduler that starts; a delayed pass may reach the engine in a turn of its task.  What is
requested, looked up, ordered and reached at a moment is said here in terms of the world before it,
and `Happens` says of every action what it does to delayed passes, timers, tasks and schedulers.
-/

/-- A lookup of linters on behalf of a scheduler, because a document was saved. -/
structure Lookup where
  scheduler : Nat
  uri : Url
  baseName : String
  deriving DecidableEq

/-- What is asked in a lookup. -/
def Lookup.inquiry (lookup : Lookup) : Inquiry where
  afresh := true
  resource := some lookup.uri

/-- A delayed pass that a scheduler orders at a time. -/
structure Order where
  scheduler : Nat
  reason : Reason
  time : Nat
  delay : Nat
  deriving DecidableEq

namespace Order

def due (order : Order) : Nat :=
  order.time + order.delay

def pass (order : Order) : Pass :=
  .openFiles order.reason

end Order

namespace Reason

/-- Whether passes of this kind are delayed. -/
def isDelayed : Reason → Bool
  | configFileSaved | startup => true
  | _ => false

end Reason

namespace Pass

def reason : Pass → Reason
  | document _ reason => reason
  | openFiles reason => reason

def isDelayed (pass : Pass) : Bool :=
  pass.reason.isDelayed

end Pass

namespace Task

def lookup? : Task → Option Lookup
  | lookUp scheduler uri baseName => some ⟨scheduler, uri, baseName⟩
  | _ => none

end Task

namespace World

variable {w w' w'' : World}

/-! ## What happens at a moment -/

/-- The lookup that a scheduler which is not disposed wants for a saved document, if it does not
lint the document and the path has a base name. -/
def request? (w : World) (document : Document) (scheduler : Nat) : Option Lookup :=
  (w.live? scheduler).bind fun s =>
    if w.lintsOnSave s document then none
    else document.baseName?.map fun baseName => ⟨scheduler, document.uri, baseName⟩

/-- The lookups that an action requests. -/
def requestedAt (w : World) : Action → List Lookup
  | .saveDocument document => (List.range w.schedulers.length).filterMap (w.request? document)
  | _ => []

/-- The lookup that is made in a turn. -/
def lookedUpAt (w : World) : Action → List Lookup
  | .turn place => ((w.queue[place]?).bind Task.lookup?).toList
  | _ => []

/-- The pass that a lookup orders: if it succeeds, its scheduler is not disposed, and some linter
watches the file. -/
def orderedBy (w : World) (lookup : Lookup) : List Order :=
  match w.live? lookup.scheduler with
  | some s =>
    if w.failLookups = false ∧ ∃ linter ∈ w.linters, linter.watches lookup.baseName = true then
      [⟨lookup.scheduler, .configFileSaved, w.now, s.config.rescanDelay⟩]
    else []
  | none => []

/-- The delayed passes that are ordered: by a lookup, or by a scheduler that starts. -/
def orderedAt (w : World) : Action → List Order
  | .start config =>
    if w.hasRuntime = true ∧ config.runStartupPass = true then
      [⟨w.schedulers.length, .startup, w.now, config.startupDelay⟩]
    else []
  | .turn place => (w.lookedUpAt (.turn place)).flatMap w.orderedBy
  | _ => []

/-- The delayed pass in whose turn the engine is asked for something. -/
def reachedAt (w : World) : Action → List Nat
  | .turn place =>
    match w.queue[place]? with
    | some (.delayed index) => if (w.turnAt place).passes = w.passes then [] else [index]
    | _ => []
  | _ => []

theorem filterMap_tasksOf_saveDocument (w : World) (document : Document) (scheduler : Nat) :
    (w.tasksOf (.saveDocument document) scheduler).filterMap Task.lookup? =
      (w.request? document scheduler).toList := by
  unfold tasksOf request?
  cases w.live? scheduler with
  | none => rfl
  | some s =>
      cases lints : w.lintsOnSave s document with
      | true => simp [eventTasks, lints, Task.lookup?]
      | false =>
          cases baseName : document.baseName? <;>
            simp [eventTasks, lints, baseName, Task.lookup?]

/-- Whatever is looked up because of an event is requested. -/
theorem filterMap_tasksAt (w : World) (action : Action) :
    (w.tasksAt action).filterMap Task.lookup? = w.requestedAt action := by
  rw [tasksAt, List.filterMap_flatMap]
  cases action with
  | saveDocument document =>
      simp only [filterMap_tasksOf_saveDocument]
      exact (List.filterMap_eq_flatMap_toList _ _).symm
  | _ =>
      refine List.flatMap_eq_nil_iff.mpr fun scheduler _ => ?_
      unfold tasksOf
      cases w.live? scheduler <;> simp [eventTasks, Task.lookup?]

/-! ## What changes -/

/-- The configurations of all schedulers, which do not change. -/
def configs (w : World) : List Config :=
  w.schedulers.map Scheduler.config

/-- Nothing happens to schedulers and their delayed passes, and nothing is asked of the engine or of
the linters. -/
structure Calm (w w' : World) : Prop where
  configs : w'.configs = w.configs
  live : ∀ scheduler, w'.live? scheduler = w.live? scheduler
  delayed : w'.delayed = w.delayed
  timers : w'.timers = w.timers
  passes : w'.passes = w.passes
  lookups : w'.lookups = w.lookups

theorem Calm.of_eq (schedulers : w'.schedulers = w.schedulers) (delayed : w'.delayed = w.delayed)
    (timers : w'.timers = w.timers) (passes : w'.passes = w.passes)
    (lookups : w'.lookups = w.lookups) : Calm w w' :=
  ⟨congrArg (List.map Scheduler.config) schedulers, live?_of_schedulers schedulers, delayed, timers,
    passes, lookups⟩

theorem Calm.refl (w : World) : Calm w w :=
  .of_eq rfl rfl rfl rfl rfl

/-- A delayed pass is scheduled as it was ordered. -/
structure Schedules (order : Order) (w w' : World) : Prop where
  configs : w'.configs = w.configs
  live : ∃ s, w.live? order.scheduler = some s ∧
    w'.live? order.scheduler = some { s with
      pending := (s.pending.filter fun index => !w.hasEnded index) ++ [w.delayed.length] }
  others : ∀ other, other ≠ order.scheduler → w'.live? other = w.live? other
  delayed : w'.delayed = w.delayed ++ [{ reason := order.reason, due := order.due }]
  queue : w'.queue = w.queue ++ [.delayed w.delayed.length]
  timers : w'.timers = w.timers
  passes : w'.passes = w.passes
  lookups : w'.lookups = w.lookups

/-- What is ordered is scheduled, and nothing else happens. -/
inductive Obeys : List Order → World → World → Prop
  | nothing {w w' : World} (calm : Calm w w') (queue : w'.queue = w.queue) : Obeys [] w w'
  | schedules {w w' : World} {order : Order} (schedules : Schedules order w w') :
      Obeys [order] w w'

/-- There is one more scheduler. -/
structure Adds (config : Config) (w w' : World) : Prop where
  configs : w'.configs = w.configs ++ [config]
  live : ∀ scheduler, w'.live? scheduler =
    if scheduler = w.schedulers.length then some { config } else w.live? scheduler
  delayed : w'.delayed = w.delayed
  queue : w'.queue = w.queue
  timers : w'.timers = w.timers
  passes : w'.passes = w.passes
  lookups : w'.lookups = w.lookups

/-- A scheduler is disposed, and its delayed passes are ended. -/
structure Retires (scheduler : Nat) (s : Scheduler) (w w' : World) : Prop where
  configs : w'.configs = w.configs
  before : w.live? scheduler = some s
  live : ∀ other, w'.live? other = if other = scheduler then none else w.live? other
  delayed : w'.delayed = endAll w.delayed s.pending
  queue : w'.queue = w.queue
  timers : w'.timers = w.timers
  passes : w'.passes = w.passes
  lookups : w'.lookups = w.lookups

/-- What a task does that waits for the deadline of a delayed pass. -/
inductive Awaits (index : Nat) (w w' : World) : Prop
  /-- The pass is over, or there is none. -/
  | ended (ended : w.hasEnded index = true) (same : w' = w)
  /-- The engine is asked for it. -/
  | reaches {pass : Delayed} (found : w.delayed[index]? = some pass) (running : pass.ended = false)
      (due : pass.due ≤ w.now) (schedulers : w'.schedulers = w.schedulers)
      (delayed : w'.delayed = w.delayed.modify index ({ · with ended := true }))
      (queue : w'.queue = w.queue) (timers : w'.timers = w.timers)
      (passes : w'.passes = w.passes ++ [.openFiles pass.reason]) (lookups : w'.lookups = w.lookups)
  /-- A timer is started. -/
  | waits {pass : Delayed} (found : w.delayed[index]? = some pass) (running : pass.ended = false)
      (early : w.now < pass.due) (same : w' = { w with timers := w.timers ++ [⟨pass.due, index⟩] })

/-- What an action can do. -/
inductive Happens (w : World) : Action → World → Prop
  /-- Tasks are started because of an event, or nothing happens that matters here. -/
  | calm {action : Action} {w' : World} (calm : Calm w w')
      (queue : w'.queue = w.queue ++ w.tasksAt action) (unordered : w.orderedAt action = [])
      (unreached : w.reachedAt action = []) (unlooked : w.lookedUpAt action = []) :
      Happens w action w'
  | started {config : Config} {w₁ w' : World} (adds : Adds config w w₁)
      (obeys : Obeys (w.orderedAt (.start config)) w₁ w') : Happens w (.start config) w'
  | retired {action : Action} {scheduler : Nat} {s : Scheduler} {w' : World}
      (which : action = .dispose scheduler ∨ action = .drop scheduler)
      (retires : Retires scheduler s w w') : Happens w action w'
  /-- A pass that is not delayed reaches the engine. -/
  | linted {place : Nat} {pass : Pass} {w' : World} (found : w.queue[place]? = some (.pass pass))
      (schedulers : w'.schedulers = w.schedulers) (delayed : w'.delayed = w.delayed)
      (queue : w'.queue = w.queue.eraseIdx place) (timers : w'.timers = w.timers)
      (passes : w'.passes = w.passes ++ [pass]) (lookups : w'.lookups = w.lookups) :
      Happens w (.turn place) w'
  | lookedUp {place : Nat} {lookup : Lookup} {w₁ w' : World}
      (found : (w.queue[place]?).bind Task.lookup? = some lookup)
      (asked : ∃ log, w₁ = { w with
        queue := w.queue.eraseIdx place
        lookups := w.lookups ++ [lookup.inquiry]
        log })
      (obeys : Obeys (w.orderedBy lookup) w₁ w') : Happens w (.turn place) w'
  | awaited {place index : Nat} {w' : World} (found : w.queue[place]? = some (.delayed index))
      (awaits : Awaits index { w with queue := w.queue.eraseIdx place } w') :
      Happens w (.turn place) w'
  | fired {due : Nat} (past : due ≤ w.now) : Happens w (.fire due) (w.fire due)

/-! ## What each action does -/

section

variable {scheduler : Nat} {f : Scheduler → Scheduler}

theorem live?_modify (schedulers : w'.schedulers = w.schedulers.modify scheduler f) (other : Nat) :
    w'.live? other =
      if other = scheduler then
        ((w.schedulers[other]?).map f).bind fun s => if s.disposed then none else some s
      else w.live? other := by
  rw [live?, schedulers, List.getElem?_modify]
  by_cases here : other = scheduler
  · subst here
    simp only [if_true]
    rfl
  · simp [here, Ne.symm here, live?]

theorem configs_modify (schedulers : w'.schedulers = w.schedulers.modify scheduler f)
    (same : ∀ s, (f s).config = s.config) : w'.configs = w.configs := by
  apply List.ext_getElem?
  intro other
  rw [configs, configs, schedulers, List.getElem?_map, List.getElem?_map, List.getElem?_modify]
  cases w.schedulers[other]? with
  | none => rfl
  | some s => by_cases here : scheduler = other <;> simp [here, same]

end

theorem schedule_eq (w : World) (scheduler delay : Nat) (reason : Reason) :
    w.schedule scheduler delay reason = (w.live? scheduler).elim w fun s =>
      ({ w.modifyScheduler scheduler ({ · with pending :=
          (s.pending.filter fun index => !w.hasEnded index) ++ [w.delayed.length] }) with
        delayed := w.delayed ++ [({ reason, due := w.now + delay } : Delayed)] } : World).spawn
          (.delayed w.delayed.length) :=
  match_live w scheduler _

theorem schedule_of_disposed {scheduler : Nat} (disposed : w.live? scheduler = none) (delay : Nat)
    (reason : Reason) : w.schedule scheduler delay reason = w := by
  rw [schedule_eq, disposed, Option.elim_none]

theorem schedule_schedules {scheduler : Nat} {s : Scheduler} (live : w.live? scheduler = some s)
    (delay : Nat) (reason : Reason) :
    Schedules ⟨scheduler, reason, w.now, delay⟩ w (w.schedule scheduler delay reason) := by
  rcases live?_eq_some_iff.mp live with ⟨found, standing⟩
  have schedulers : (w.schedule scheduler delay reason).schedulers =
      w.schedulers.modify scheduler ({ · with pending :=
        (s.pending.filter fun index => !w.hasEnded index) ++ [w.delayed.length] }) := by
    rw [schedule_eq, live]
    rfl
  exact
    { configs := configs_modify schedulers fun _ => rfl
      live := by
        refine ⟨s, live, ?_⟩
        rw [live?_modify schedulers, if_pos rfl, found]
        simp [standing]
      others := fun other different => by rw [live?_modify schedulers, if_neg different]
      delayed := by rw [schedule_eq, live]; rfl
      queue := by rw [schedule_eq, live]; rfl
      timers := by rw [schedule_eq, live]; rfl
      passes := by rw [schedule_eq, live]; rfl
      lookups := by rw [schedule_eq, live]; rfl }

theorem Schedules.write {order : Order} (schedules : Schedules order w w') (line : Log.Line) :
    Schedules order w (w'.write line) :=
  ⟨schedules.configs, schedules.live, schedules.others, schedules.delayed, schedules.queue,
    schedules.timers, schedules.passes, schedules.lookups⟩

theorem addScheduler_adds (w : World) (config : Config) :
    ∃ w₁, Adds config w w₁ ∧
      Obeys (if config.runStartupPass = true then
          [⟨w.schedulers.length, .startup, w.now, config.startupDelay⟩] else [])
        w₁ (w.addScheduler config) := by
  let listening := w.listeners ++ Channel.all.map fun channel => (channel, w.schedulers.length)
  have adds (log : List Log.Line) : Adds config w
      { w with schedulers := w.schedulers ++ [{ config }], listeners := listening, log } := by
    refine
      { configs := List.map_append
        live := fun scheduler => ?_
        delayed := rfl
        queue := rfl
        timers := rfl
        passes := rfl
        lookups := rfl }
    unfold live?
    by_cases here : scheduler = w.schedulers.length
    · simp [here]
    · rw [if_neg here]
      by_cases inside : scheduler < w.schedulers.length
      · simp only [List.getElem?_append_left inside]
      · rw [List.getElem?_eq_none (by simp; omega), List.getElem?_eq_none (by omega)]
  cases startup : config.runStartupPass with
  | true =>
      have added := adds (w.log ++ [.debug ("Scheduling startup lint pass: delay=" ++
        Nat.repr config.startupDelay ++ "ms")])
      have live := (added.live w.schedulers.length).trans (if_pos rfl)
      have schedules := schedule_schedules live config.startupDelay .startup
      refine ⟨_, added, ?_⟩
      unfold addScheduler
      simp only [startup, if_true]
      exact .schedules (schedules.write _)
  | false =>
      refine ⟨_, adds w.log, ?_⟩
      unfold addScheduler
      simp only [startup, Bool.false_eq_true, if_false]
      exact .nothing (.of_eq rfl rfl rfl rfl rfl) rfl

/-- Disposal is a matter of the one scheduler, and there is nothing to do if it is disposed. -/
theorem disposeScheduler_of_disposed {scheduler : Nat} (disposed : w.live? scheduler = none) :
    w.disposeScheduler scheduler = w := by
  have eq := match_live w scheduler fun s =>
    ({ w.modifyScheduler scheduler fun s => { s with disposed := true, pending := [] } with
      listeners := w.listeners.filter fun entry => entry.2 != scheduler
      delayed := endAll w.delayed s.pending } : World).write <| .info <|
        "Lint scheduler disposed: subscriptions=" ++ Nat.repr Channel.all.length ++
          ", aborted_timers=" ++ Nat.repr s.pending.length
  rw [disposed] at eq
  exact eq

theorem disposeScheduler_schedulers {scheduler : Nat} {s : Scheduler}
    (live : w.live? scheduler = some s) :
    (w.disposeScheduler scheduler).schedulers =
        w.schedulers.modify scheduler ({ · with disposed := true, pending := [] }) ∧
      (w.disposeScheduler scheduler).listeners =
        w.listeners.filter (fun entry => entry.2 != scheduler) ∧
      (w.disposeScheduler scheduler).delayed = endAll w.delayed s.pending ∧
      (w.disposeScheduler scheduler).queue = w.queue ∧
      (w.disposeScheduler scheduler).timers = w.timers ∧
      (w.disposeScheduler scheduler).passes = w.passes ∧
      (w.disposeScheduler scheduler).lookups = w.lookups := by
  rcases live?_eq_some_iff.mp live with ⟨found, standing⟩
  unfold disposeScheduler
  simp [found, standing, modifyScheduler, World.write]

theorem disposeScheduler_retires {scheduler : Nat} {s : Scheduler}
    (live : w.live? scheduler = some s) : Retires scheduler s w (w.disposeScheduler scheduler) := by
  rcases disposeScheduler_schedulers live with
    ⟨schedulers, _, delayed, queue, timers, passes, lookups⟩
  refine
    { configs := configs_modify schedulers fun _ => rfl
      before := live
      live := fun other => ?_
      delayed, queue, timers, passes, lookups }
  rw [live?_modify schedulers]
  cases w.schedulers[other]? <;> simp

theorem live?_disposeScheduler (w : World) (scheduler : Nat) :
    (w.disposeScheduler scheduler).live? scheduler = none := by
  cases live : w.live? scheduler with
  | none => rw [disposeScheduler_of_disposed live, live]
  | some s => rw [(disposeScheduler_retires live).live, if_pos rfl]

/-- Dropping a scheduler means no more to others than disposing it. -/
theorem dropScheduler_calm (w : World) (scheduler : Nat) :
    Calm (w.disposeScheduler scheduler) (w.dropScheduler scheduler) := by
  have schedulers : (w.dropScheduler scheduler).schedulers =
      (w.disposeScheduler scheduler).schedulers.modify scheduler ({ · with dropped := true }) := rfl
  refine ⟨configs_modify schedulers fun _ => rfl, fun other => ?_, rfl, rfl, rfl, rfl⟩
  rw [live?_modify schedulers]
  by_cases here : other = scheduler
  · subst here
    have disposed := w.live?_disposeScheduler other
    rw [if_pos rfl, disposed]
    unfold live? at disposed
    cases found : (w.disposeScheduler other).schedulers[other]? with
    | none => rfl
    | some s => simpa [found] using disposed
  · rw [if_neg here]

theorem Retires.calm {scheduler : Nat} {s : Scheduler} (retires : Retires scheduler s w w')
    (calm : Calm w' w'') (queue : w''.queue = w'.queue) : Retires scheduler s w w'' where
  configs := calm.configs.trans retires.configs
  before := retires.before
  live := fun other => (calm.live other).trans (retires.live other)
  delayed := calm.delayed.trans retires.delayed
  queue := queue.trans retires.queue
  timers := calm.timers.trans retires.timers
  passes := calm.passes.trans retires.passes
  lookups := calm.lookups.trans retires.lookups

theorem tasksAt_eq_nil {action : Action}
    (none : ∀ scheduler s, w.eventTasks scheduler s action = []) : w.tasksAt action = [] := by
  refine List.flatMap_eq_nil_iff.mpr fun scheduler _ => ?_
  unfold tasksOf
  cases w.live? scheduler with
  | none => rfl
  | some s => exact none scheduler s

/-! ## Turns -/

theorem lint_frame (w : World) (pass : Pass) :
    (w.lint pass).schedulers = w.schedulers ∧ (w.lint pass).delayed = w.delayed ∧
      (w.lint pass).queue = w.queue ∧ (w.lint pass).timers = w.timers ∧
      (w.lint pass).passes = w.passes ++ [pass] ∧ (w.lint pass).lookups = w.lookups := by
  cases pass <;> (unfold lint; dsimp only; split <;> exact ⟨rfl, rfl, rfl, rfl, rfl, rfl⟩)

theorem awaitDue_awaits (w : World) (index : Nat) : Awaits index w (w.awaitDue index) := by
  unfold awaitDue
  cases found : w.delayed[index]? with
  | none => exact .ended (by rw [hasEnded, found]) rfl
  | some pass =>
      cases ended : pass.ended with
      | true => exact .ended (by rw [hasEnded, found]; exact ended) (by simp [ended])
      | false =>
          simp only [ended, Bool.false_eq_true, if_false]
          split
          · rename_i due
            rcases lint_frame
              { w with delayed := w.delayed.modify index ({ · with ended := true }) }
              (.openFiles pass.reason) with
              ⟨schedulers, delayed, queue, timers, passes, lookups⟩
            exact .reaches found ended due schedulers delayed queue timers passes lookups
          · rename_i early
            exact .waits found ended (Nat.lt_of_not_le early) rfl

theorem orderedBy_of_disposed {lookup : Lookup} (disposed : w.live? lookup.scheduler = none) :
    w.orderedBy lookup = [] := by
  rw [orderedBy, disposed]

theorem orderedBy_of_not {lookup : Lookup}
    (unsuccessful : ¬ (w.failLookups = false ∧
      ∃ linter ∈ w.linters, linter.watches lookup.baseName = true)) : w.orderedBy lookup = [] := by
  unfold orderedBy
  cases w.live? lookup.scheduler with
  | none => rfl
  | some s => simp only [unsuccessful, if_false]

/-- What is ordered is scheduled. -/
def carryOut (w : World) (orders : List Order) : World :=
  orders.foldl (fun w order => w.schedule order.scheduler order.delay order.reason) w

/-- A lookup is recorded, and what it orders is scheduled. -/
theorem lookUp_eq (attuned : w.Attuned) (lookup : Lookup) :
    ∃ log, w.lookUp lookup.scheduler lookup.uri lookup.baseName =
      carryOut { w with lookups := w.lookups ++ [lookup.inquiry], log } (w.orderedBy lookup) := by
  have nothing {v : World} (ordered : w.orderedBy lookup = [])
      (same : ∃ log, v = { w with lookups := w.lookups ++ [lookup.inquiry], log }) :
      ∃ log, v = carryOut { w with lookups := w.lookups ++ [lookup.inquiry], log }
        (w.orderedBy lookup) := by
    rw [ordered]
    exact same
  unfold lookUp
  dsimp only
  split
  · rename_i failing
    exact nothing (orderedBy_of_not (by simp [failing])) ⟨_, rfl⟩
  · rename_i succeeding
    cases watching : w.linters.find? (·.watches lookup.baseName) with
    | none =>
        refine nothing (orderedBy_of_not ?_) ⟨w.log, rfl⟩
        rintro ⟨_, linter, member, watches⟩
        exact List.find?_eq_none.mp watching linter member watches
    | some linter =>
        have watched : ∃ linter ∈ w.linters, linter.watches lookup.baseName = true :=
          ⟨linter, List.mem_of_find?_eq_some watching, by simpa using List.find?_some watching⟩
        cases live : w.live? lookup.scheduler with
        | none =>
            refine nothing (orderedBy_of_disposed live) ?_
            cases found : w.schedulers[lookup.scheduler]? with
            | none => exact ⟨w.log, rfl⟩
            | some s =>
                simp only
                split
                · exact ⟨w.log, rfl⟩
                · refine ⟨w.log ++ [_], (schedule_of_disposed ?_ _ _).trans rfl⟩
                  exact live
        | some s =>
            rcases live?_eq_some_iff.mp live with ⟨found, standing⟩
            have kept : s.dropped = false := by
              cases dropped : s.dropped with
              | false => rfl
              | true => rw [attuned.dropped found dropped] at standing; cases standing
            have ordered : w.orderedBy lookup =
                [⟨lookup.scheduler, .configFileSaved, w.now, s.config.rescanDelay⟩] := by
              simp only [orderedBy, live, succeeding, watched, and_self, if_true]
            rw [ordered]
            simp only [found, kept, Bool.false_eq_true, if_false]
            exact ⟨_, rfl⟩

theorem lookUp_obeys (attuned : w.Attuned) (lookup : Lookup) :
    ∃ log, Obeys (w.orderedBy lookup) { w with lookups := w.lookups ++ [lookup.inquiry], log }
      (w.lookUp lookup.scheduler lookup.uri lookup.baseName) := by
  rcases lookUp_eq attuned lookup with ⟨log, eq⟩
  refine ⟨log, ?_⟩
  rw [eq, orderedBy]
  cases live : w.live? lookup.scheduler with
  | none => exact .nothing (.refl _) rfl
  | some s =>
      dsimp only
      split
      · exact .schedules (schedule_schedules
          (w := { w with lookups := w.lookups ++ [lookup.inquiry], log }) live _ _)
      · exact .nothing (.refl _) rfl

theorem turnAt_of_getElem? {place : Nat} {task : Task} (found : w.queue[place]? = some task) :
    w.turnAt place = { w with queue := w.queue.eraseIdx place }.perform task := by
  unfold turnAt
  rw [found]

theorem turnAt_of_none {place : Nat} (found : w.queue[place]? = none) : w.turnAt place = w := by
  unfold turnAt
  rw [found]

theorem turnAt_happens (attuned : w.Attuned) (place : Nat) :
    Happens w (.turn place) (w.turnAt place) := by
  cases found : w.queue[place]? with
  | none =>
      rw [turnAt_of_none found]
      have unlooked : w.lookedUpAt (.turn place) = [] := by simp [lookedUpAt, found]
      refine .calm (.refl w) ?_ ?_ ?_ unlooked
      · rw [tasksAt_eq_nil fun _ _ => rfl, List.append_nil]
      · rw [orderedAt, unlooked, List.flatMap_nil]
      · simp [reachedAt, found]
  | some task =>
      rw [turnAt_of_getElem? found]
      have attuned' : ({ w with queue := w.queue.eraseIdx place } : World).Attuned :=
        attuned.of_eq rfl rfl
      cases task with
      | pass pass =>
          rcases lint_frame { w with queue := w.queue.eraseIdx place } pass with
            ⟨schedulers, delayed, queue, timers, passes, lookups⟩
          exact .linted found schedulers delayed queue timers passes lookups
      | lookUp scheduler uri baseName =>
          rcases lookUp_obeys attuned' ⟨scheduler, uri, baseName⟩ with ⟨log, obeys⟩
          have asked : (w.queue[place]?).bind Task.lookup? = some ⟨scheduler, uri, baseName⟩ := by
            rw [found]
            rfl
          exact .lookedUp asked ⟨log, rfl⟩ obeys
      | delayed index => exact .awaited found (awaitDue_awaits _ index)

/-! ## Actions -/

/-- Tasks are started because of an event. -/
theorem happens_of_asks {action : Action} (asks : Asks (w.tasksAt action) w w')
    (unordered : w.orderedAt action = []) (unreached : w.reachedAt action = [])
    (unlooked : w.lookedUpAt action = []) : Happens w action w' := by
  rcases asks with ⟨cleared, log, rfl⟩
  exact .calm (.of_eq rfl rfl rfl rfl rfl) rfl unordered unreached unlooked

/-- Nothing happens that concerns a scheduler. -/
theorem happens_of_calm {action : Action} (calm : Calm w w') (queue : w'.queue = w.queue)
    (eventless : ∀ scheduler s, w.eventTasks scheduler s action = [])
    (unordered : w.orderedAt action = []) (unreached : w.reachedAt action = [])
    (unlooked : w.lookedUpAt action = []) : Happens w action w' := by
  refine .calm calm ?_ unordered unreached unlooked
  rw [queue, tasksAt_eq_nil eventless, List.append_nil]

theorem start_happens (w : World) (config : Config) :
    Happens w (.start config) ((w.startScheduler config).toOption.getD w) := by
  unfold startScheduler
  rcases Bool.eq_false_or_eq_true w.hasRuntime with runs | none
  · rcases w.addScheduler_adds config with ⟨w₁, adds, obeys⟩
    rw [if_pos runs]
    have ordered : Obeys (w.orderedAt (.start config)) w₁ (w.addScheduler config) := by
      simpa [orderedAt, runs] using obeys
    exact .started adds ordered
  · rw [if_neg (by simp [none])]
    exact happens_of_calm (.refl w) rfl (fun _ _ => rfl) (by simp [orderedAt, none]) rfl rfl

theorem disposeScheduler_happens (w : World) (scheduler : Nat) :
    Happens w (.dispose scheduler) (w.disposeScheduler scheduler) := by
  cases live : w.live? scheduler with
  | none =>
      rw [disposeScheduler_of_disposed live]
      exact happens_of_calm (.refl w) rfl (fun _ _ => rfl) rfl rfl rfl
  | some s => exact .retired (Or.inl rfl) (disposeScheduler_retires live)

theorem dropScheduler_happens (w : World) (scheduler : Nat) :
    Happens w (.drop scheduler) (w.dropScheduler scheduler) := by
  have calm := w.dropScheduler_calm scheduler
  cases live : w.live? scheduler with
  | none =>
      rw [disposeScheduler_of_disposed live] at calm
      refine happens_of_calm calm ?_ (fun _ _ => rfl) rfl rfl rfl
      show (w.disposeScheduler scheduler).queue = w.queue
      rw [disposeScheduler_of_disposed live]
  | some s => exact .retired (Or.inr rfl) ((disposeScheduler_retires live).calm calm rfl)

theorem openDocument_happens (attuned : w.Attuned) (document : Document) :
    Happens w (.openDocument document) (w.openDocument document) := by
  let opened : World := { w with editors := w.editors.add document }
  have tells : Asks ((w.listenersOn .opened).flatMap (opened.tasksOf (.openDocument document)))
      opened (w.openDocument document) :=
    tell_asks (w := opened) (fun _ _ => onOpened_asks document) .opened
  have same : opened.tasksOf (.openDocument document) = w.tasksOf (.openDocument document) := by
    funext scheduler
    unfold tasksOf
    have live : opened.live? scheduler = w.live? scheduler := live?_of_schedulers rfl scheduler
    rw [live]
    rfl
  rw [same, attuned.flatMap_tasksOf] at tells
  rcases tells with ⟨cleared, log, eq⟩
  rw [eq]
  exact .calm (.of_eq rfl rfl rfl rfl rfl) rfl rfl rfl rfl

theorem closeDocument_happens (w : World) (document : Document) :
    Happens w (.closeDocument document) (w.closeDocument document) := by
  let closed : World := { w with editors := w.editors.close document.uri }
  have tells : Asks ((w.listenersOn .closed).flatMap (closed.tasksOf (.closeDocument document)))
      closed (w.closeDocument document) :=
    tell_asks (w := closed) (fun _ _ => onClosed_asks document) .closed
  have none : closed.tasksOf (.closeDocument document) = fun _ => [] :=
    funext (closed.tasksOf_closeDocument document)
  rw [none, List.flatMap_eq_nil_iff.mpr fun _ _ => rfl] at tells
  rcases tells with ⟨cleared, log, eq⟩
  rw [eq]
  exact happens_of_calm (.of_eq rfl rfl rfl rfl rfl) (List.append_nil _) (fun _ _ => rfl)
    rfl rfl rfl

theorem fire_happens (w : World) (due : Nat) :
    Happens w (.fire due) (if due ≤ w.now then w.fire due else w) := by
  split
  · exact .fired ‹_›
  · exact happens_of_calm (.refl w) rfl (fun _ _ => rfl) rfl rfl rfl

theorem act_happens (attuned : w.Attuned) (action : Action) : Happens w action (w.act action) := by
  have asked {w' : World} {action : Action} {channel : Channel}
      (asks : Asks ((w.listenersOn channel).flatMap (w.tasksOf action)) w w') :
      Asks (w.tasksAt action) w w' := by
    rwa [attuned.flatMap_tasksOf] at asks
  cases action with
  | start config => exact w.start_happens config
  | dispose scheduler => exact w.disposeScheduler_happens scheduler
  | drop scheduler => exact w.dropScheduler_happens scheduler
  | openDocument document => exact openDocument_happens attuned document
  | closeDocument document => exact w.closeDocument_happens document
  | saveDocument document =>
      exact happens_of_asks (asked (tell_asks (fun _ _ => onSaved_asks document) .saved))
        rfl rfl rfl
  | changeConfiguration change =>
      exact happens_of_asks
        (asked (tell_asks (fun _ _ => onConfigurationChanged_asks change) .configuration))
        rfl rfl rfl
  | changeInterpreter =>
      exact happens_of_asks
        (asked (tell_asks (fun _ _ => onInterpreterChanged_asks) .interpreter)) rfl rfl rfl
  -- Neither settings nor time concern any scheduler.
  | setSwitches | setLinters | failLookups | failEngine | pass =>
      exact happens_of_calm (.of_eq rfl rfl rfl rfl rfl) rfl (fun _ _ => rfl) rfl rfl rfl
  | turn place => exact turnAt_happens attuned place
  | fire due => exact w.fire_happens due

end World

end Lint
end Workbench
