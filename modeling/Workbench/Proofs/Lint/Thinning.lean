import Workbench.Proofs.Lint.Keeping
import Workbench.Proofs.Lint.Retirement

namespace Workbench
namespace Lint

/-!
# A world without some of its delayed passes

One world is another without some of its delayed passes, with their tasks and timers.  Those that
are left have moved up to other places, and nothing else is different that could show later.  It
stays so while the same happens to both worlds, and also while nothing happens in the smaller one
and only what it lacks has a turn in the other.
-/

/-! ## What is left of tasks, timers and schedulers -/

def Task.left? (lost : Nat → Bool) : Task → Option Task
  | .delayed index => (moved? lost index).map .delayed
  | task => some task

def Timer.left? (lost : Nat → Bool) (timer : Timer) : Option Timer :=
  (moved? lost timer.index).map fun index => ⟨timer.due, index⟩

/-- The delayed pass that a task is about. -/
def Task.index? : Task → Option Nat
  | .delayed index => some index
  | _ => none

theorem Task.left?_eq_none_iff {task : Task} {lost : Nat → Bool} :
    task.left? lost = none ↔ task.index?.any lost = true := by
  cases task with
  | pass | lookUp => simp [left?, index?]
  | delayed index => simp [left?, index?, moved?]

theorem Task.exists_left {task : Task} {lost : Nat → Bool}
    (kept : task.index?.any lost = false) : ∃ task', task.left? lost = some task' := by
  rw [← Option.ne_none_iff_exists']
  intro gone
  rw [left?_eq_none_iff, kept] at gone
  cases gone

/-- How a task is left. -/
inductive Task.Leaves (lost : Nat → Bool) : Task → Task → Prop
  | pass (pass : Pass) : Leaves lost (.pass pass) (.pass pass)
  | lookUp (scheduler : Nat) (uri : Url) (baseName : String) :
      Leaves lost (.lookUp scheduler uri baseName) (.lookUp scheduler uri baseName)
  | delayed {index : Nat} (kept : lost index = false) :
      Leaves lost (.delayed index) (.delayed (rank lost index))

theorem Task.leaves {task task' : Task} {lost : Nat → Bool} (left : task.left? lost = some task') :
    Leaves lost task task' := by
  cases task with
  | pass | lookUp =>
      cases left
      constructor
  | delayed index =>
      rcases Option.map_eq_some_iff.mp left with ⟨place, moved, rfl⟩
      rcases moved?_eq_some_iff.mp moved with ⟨kept, rfl⟩
      exact .delayed kept

/-- A scheduler but for its pending passes. -/
def Scheduler.bare (s : Scheduler) : Scheduler :=
  { s with pending := [] }

namespace World

variable {w w' : World}

def pendingOf (w : World) (scheduler : Nat) : List Nat :=
  ((w.schedulers[scheduler]?).map Scheduler.pending).getD []

/-- The pending passes of a scheduler that are not over. -/
def running (w : World) (scheduler : Nat) : List Nat :=
  (w.pendingOf scheduler).filter fun index => !w.hasEnded index

/-- What the world is like apart from schedulers and tasks, from what reached the engine, and from
what fails. -/
def scene (w : World) : World :=
  { w with
    passes := [], failEngine := false, failLookups := false, schedulers := [], delayed := []
    timers := [], queue := [], log := [] }

/-- Pending passes are passes that there are. -/
def Bounded (w : World) : Prop :=
  ∀ scheduler, ∀ index ∈ w.pendingOf scheduler, index < w.delayed.length

theorem pendingTimers_eq (w : World) (scheduler : Nat) :
    w.pendingTimers scheduler = (w.running scheduler).length := by
  unfold pendingTimers running pendingOf
  cases w.schedulers[scheduler]? with
  | none => rfl
  | some s => exact List.countP_eq_length_filter

/-- Where passes are only ended, those that are not over are among those that were not. -/
theorem running_of_ends {scheduler : Nat}
    (pending : w'.pendingOf scheduler = w.pendingOf scheduler)
    (ends : ∀ index, w.hasEnded index = true → w'.hasEnded index = true) :
    w'.running scheduler = (w.running scheduler).filter fun index => !w'.hasEnded index := by
  rw [running, running, pending, List.filter_filter]
  refine List.filter_congr fun index _ => ?_
  cases past : w.hasEnded index with
  | false => simp
  | true => simp [ends index past]

/-- Worlds that differ in what was asked of the engine, in what fails and in what was logged. -/
def Even (w w' : World) : Prop :=
  ∃ passes failEngine failLookups log, w' = { w with passes, failEngine, failLookups, log }

theorem Even.refl (w : World) : Even w w :=
  ⟨w.passes, w.failEngine, w.failLookups, w.log, rfl⟩

theorem Even.write (w : World) (line : Log.Line) : Even w (w.write line) :=
  ⟨w.passes, w.failEngine, w.failLookups, w.log ++ [line], rfl⟩

theorem lint_even (w : World) (pass : Pass) : Even w (w.lint pass) := by
  cases pass <;> (unfold lint; dsimp only; split <;> exact ⟨_, _, _, _, rfl⟩)

/-! ## Scheduling -/

theorem schedule_scene (w : World) (scheduler delay : Nat) (reason : Reason) :
    (w.schedule scheduler delay reason).scene = w.scene := by
  rw [schedule_eq]
  cases w.live? scheduler <;> rfl

theorem map_bare_modify {f g : Scheduler → Scheduler} (same : ∀ s, (f s).bare = g s.bare)
    (schedulers : List Scheduler) (scheduler : Nat) :
    (schedulers.modify scheduler f).map Scheduler.bare =
      (schedulers.map Scheduler.bare).modify scheduler g := by
  apply List.ext_getElem?
  intro other
  rw [List.getElem?_map, List.getElem?_modify, List.getElem?_modify, List.getElem?_map]
  cases schedulers[other]? with
  | none => rfl
  | some s => by_cases here : scheduler = other <;> simp [here, same]

theorem schedule_bare (w : World) (scheduler delay : Nat) (reason : Reason) :
    (w.schedule scheduler delay reason).schedulers.map Scheduler.bare =
      w.schedulers.map Scheduler.bare := by
  rw [schedule_eq]
  cases w.live? scheduler with
  | none => rfl
  | some s =>
      have same := map_bare_modify (f := ({ · with pending :=
        (s.pending.filter fun index => !w.hasEnded index) ++ [w.delayed.length] }))
        (g := id) (fun _ => rfl) w.schedulers scheduler
      rwa [List.modify_id] at same

theorem pendingOf_modify {scheduler : Nat} {f : Scheduler → Scheduler}
    (schedulers : w'.schedulers = w.schedulers.modify scheduler f) (other : Nat) :
    w'.pendingOf other =
      if other = scheduler then
        ((w.schedulers[other]?).map fun s => (f s).pending).getD []
      else w.pendingOf other := by
  rw [pendingOf, schedulers, List.getElem?_modify]
  by_cases here : other = scheduler
  · subst here
    rw [if_pos rfl]
    cases w.schedulers[other]? with
    | none => rfl
    | some s => simp
  · simp [here, Ne.symm here, pendingOf]

/-- A pass that is scheduled runs, and what else runs is not changed by it. -/
theorem schedule_running (bounded : w.Bounded) {scheduler : Nat} {s : Scheduler}
    (live : w.live? scheduler = some s) (delay : Nat) (reason : Reason) (other : Nat) :
    (w.schedule scheduler delay reason).running other =
      w.running other ++ if other = scheduler then [w.delayed.length] else [] := by
  have schedulers : (w.schedule scheduler delay reason).schedulers =
      w.schedulers.modify scheduler ({ · with pending :=
        (s.pending.filter fun index => !w.hasEnded index) ++ [w.delayed.length] }) := by
    rw [schedule_eq, live]
    rfl
  have delayed := (schedule_schedules live delay reason).delayed
  have hasEnded := hasEnded_concat delayed rfl
  have found := (live?_eq_some_iff.mp live).1
  have earlier : (w.pendingOf other).filter
      (fun index => !(w.schedule scheduler delay reason).hasEnded index) = w.running other := by
    refine List.filter_congr fun index member => ?_
    rw [hasEnded, if_neg (Nat.ne_of_lt (bounded other index member))]
  rw [running, pendingOf_modify schedulers]
  by_cases here : other = scheduler
  · subst here
    have own : w.pendingOf other = s.pending := by
      rw [pendingOf, found]
      rfl
    have last : (w.schedule other delay reason).hasEnded w.delayed.length = false := by
      rw [hasEnded, if_pos rfl]
    rw [if_pos rfl, if_pos rfl, found, Option.map_some, Option.getD_some, List.filter_append,
      ← own, ← running, ← earlier, List.filter_filter]
    simp [last]
  · rw [if_neg here, if_neg here, List.append_nil, earlier]

theorem orderedBy_cases (w : World) (lookup : Lookup) :
    w.orderedBy lookup = [] ∨ ∃ order, w.orderedBy lookup = [order] := by
  unfold orderedBy
  split
  · split
    · exact Or.inr ⟨_, rfl⟩
    · exact Or.inl rfl
  · exact Or.inl rfl

/-- What a task asks the engine for in its turn. -/
def askedBy (w : World) : Task → List Pass
  | .pass pass => [pass]
  | .lookUp .. => []
  | .delayed index =>
    match w.delayed[index]? with
    | some pass =>
      if pass.ended = false ∧ pass.due ≤ w.now then [.openFiles pass.reason] else []
    | none => []

theorem perform_passes (attuned : w.Attuned) (task : Task) :
    (w.perform task).passes = w.passes ++ w.askedBy task := by
  cases task with
  | pass pass => exact (w.lint_frame pass).2.2.2.2.1
  | lookUp scheduler uri baseName =>
      rcases lookUp_obeys attuned ⟨scheduler, uri, baseName⟩ with ⟨log, obeys⟩
      exact obeys.passes.trans (List.append_nil _).symm
  | delayed index =>
      show (w.awaitDue index).passes = _
      rw [askedBy]
      cases w.awaitDue_awaits index with
      | ended ended same =>
          rw [hasEnded] at ended
          rw [same]
          cases found : w.delayed[index]? with
          | none => simp
          | some pass =>
              rw [found] at ended
              simp [show pass.ended = true from ended]
      | reaches found running due _ _ _ _ passes => simp [passes, found, running, due]
      | waits found running early same => simp [same, found, Nat.not_le_of_lt early]

/-! ## The smaller world -/

/-- A world that lacks the delayed passes of another that are lost, and whatever comes of them. -/
structure Thin (lost : Nat → Bool) (a b : World) : Prop where
  scene : b.scene = a.scene
  schedulers : b.schedulers.map Scheduler.bare = a.schedulers.map Scheduler.bare
  running : ∀ scheduler, b.running scheduler = (a.running scheduler).filterMap (moved? lost)
  delayed : b.delayed = keep lost a.delayed
  timers : b.timers = a.timers.filterMap (Timer.left? lost)
  queue : b.queue = a.queue.filterMap (Task.left? lost)

namespace Thin

variable {lost : Nat → Bool} {a a' b b' : World} {index : Nat}

theorem even (thin : Thin lost a b) (one : Even a a') (other : Even b b') : Thin lost a' b' := by
  rcases one with ⟨passes, failEngine, failLookups, log, rfl⟩
  rcases other with ⟨passes', failEngine', failLookups', log', rfl⟩
  exact ⟨thin.scene, thin.schedulers, thin.running, thin.delayed, thin.timers, thin.queue⟩

/-- What belongs to the scene is the same in both worlds. -/
theorem sees (thin : Thin lost a b) {α : Type} (field : World → α)
    (inScene : ∀ w : World, field w.scene = field w) : field b = field a := by
  rw [← inScene b, thin.scene, inScene]

theorem now (thin : Thin lost a b) : b.now = a.now :=
  thin.sees World.now fun _ => rfl

theorem hasEnded (thin : Thin lost a b) {place : Nat} (moved : moved? lost index = some place) :
    b.hasEnded place = a.hasEnded index := by
  rcases moved?_eq_some_iff.mp moved with ⟨kept, rfl⟩
  rw [hasEnded_eq, hasEnded_eq, thin.delayed, getElem?_keep kept]

theorem length_delayed (thin : Thin lost a b) : b.delayed.length = rank lost a.delayed.length := by
  rw [thin.delayed, length_keep]

theorem length_schedulers (thin : Thin lost a b) : b.schedulers.length = a.schedulers.length := by
  have same := congrArg List.length thin.schedulers
  rwa [List.length_map, List.length_map] at same

/-- A scheduler is the same in both worlds, but for its pending passes. -/
theorem scheduler (thin : Thin lost a b) (scheduler : Nat) :
    (a.schedulers[scheduler]? = none ∧ b.schedulers[scheduler]? = none) ∨
      ∃ s t, a.schedulers[scheduler]? = some s ∧ b.schedulers[scheduler]? = some t ∧
        t.bare = s.bare := by
  have same := congrArg (·[scheduler]?) thin.schedulers
  simp only [List.getElem?_map] at same
  cases one : a.schedulers[scheduler]? with
  | none =>
      rw [one, Option.map_none, Option.map_eq_none_iff] at same
      exact Or.inl ⟨rfl, same⟩
  | some s =>
      rw [one, Option.map_some] at same
      rcases Option.map_eq_some_iff.mp same with ⟨t, other, bare⟩
      exact Or.inr ⟨s, t, rfl, other, bare⟩

theorem live (thin : Thin lost a b) (scheduler : Nat) :
    (a.live? scheduler = none ∧ b.live? scheduler = none) ∨
      ∃ s t, a.live? scheduler = some s ∧ b.live? scheduler = some t ∧ t.config = s.config := by
  rcases thin.scheduler scheduler with ⟨one, other⟩ | ⟨s, t, one, other, bare⟩
  · rw [live?, live?, one, other]
    exact Or.inl ⟨rfl, rfl⟩
  · have config : t.bare.config = s.bare.config := by rw [bare]
    have disposed : t.bare.disposed = s.bare.disposed := by rw [bare]
    change t.config = s.config at config
    change t.disposed = s.disposed at disposed
    rw [live?, live?, one, other, Option.bind_some, Option.bind_some, disposed]
    cases s.disposed with
    | true => exact Or.inl ⟨rfl, rfl⟩
    | false => exact Or.inr ⟨s, t, rfl, rfl, config⟩

/-- It does not matter that passes are ended in both worlds. -/
theorem running_of_ends (thin : Thin lost a b) (delayed : b'.delayed = keep lost a'.delayed)
    (one : ∀ index, a.hasEnded index = true → a'.hasEnded index = true)
    (other : ∀ index, b.hasEnded index = true → b'.hasEnded index = true) {scheduler : Nat}
    (pending : a'.pendingOf scheduler = a.pendingOf scheduler)
    (pending' : b'.pendingOf scheduler = b.pendingOf scheduler) :
    b'.running scheduler = (a'.running scheduler).filterMap (moved? lost) := by
  rw [World.running_of_ends pending' other, World.running_of_ends pending one,
    thin.running scheduler]
  refine filter_filterMap_comm (fun index place moved => ?_) _
  rcases moved?_eq_some_iff.mp moved with ⟨kept, rfl⟩
  rw [hasEnded_eq, hasEnded_eq, delayed, getElem?_keep kept]

/-- Timers of the smaller world end when timers of the larger world do. -/
theorem exists_timer (thin : Thin lost a b) {timer : Timer} (member : timer ∈ b.timers) :
    ∃ timer' ∈ a.timers, timer'.due = timer.due := by
  rw [thin.timers] at member
  rcases List.mem_filterMap.mp member with ⟨timer', member', left⟩
  rcases Option.map_eq_some_iff.mp left with ⟨index, _, rfl⟩
  exact ⟨timer', member', rfl⟩

/-- What is due next is due next in the smaller world too, unless it is lost. -/
theorem nextDue? (thin : Thin lost a b) {due : Nat} (next : a.nextDue? = some due) :
    b.nextDue? = some due ∨ ∀ timer ∈ b.timers, due < timer.due := by
  have least : ∀ timer ∈ b.timers, due ≤ timer.due := by
    intro timer member
    rcases thin.exists_timer member with ⟨timer', member', same⟩
    rw [← same]
    exact (nextDue?_eq_some_iff.mp next).2 timer' member'
  by_cases ends : ∃ timer ∈ b.timers, timer.due = due
  · exact Or.inl (nextDue?_eq_some_iff.mpr ⟨ends, least⟩)
  · refine Or.inr fun timer member => ?_
    exact Nat.lt_of_le_of_ne (least timer member) fun same => ends ⟨timer, member, same.symm⟩

/-- How many passes the smaller world lacks. -/
theorem pendingTimers (thin : Thin lost a b) (scheduler : Nat) :
    a.pendingTimers scheduler = b.pendingTimers scheduler + (a.running scheduler).countP lost := by
  rw [pendingTimers_eq, pendingTimers_eq, thin.running, Nat.add_comm]
  induction a.running scheduler with
  | nil => rfl
  | cons index rest inductionHypothesis =>
      rw [List.length_cons, inductionHypothesis]
      cases status : lost index with
      | true =>
          rw [List.filterMap_cons_none (moved?_of_lost status), List.countP_cons_of_pos status]
          omega
      | false =>
          rw [List.filterMap_cons_some (moved?_of_kept status),
            List.countP_cons_of_neg (by simp [status]), List.length_cons]
          omega

/-- Where nothing is lost, there are the same tasks, timers and delayed passes. -/
theorem same (thin : Thin (fun _ => false) a b) :
    b.delayed = a.delayed ∧ b.timers = a.timers ∧ b.queue = a.queue := by
  refine ⟨?_, ?_, ?_⟩
  · rw [thin.delayed, keep_of_none]
  · have all : Timer.left? (fun _ => false) = some :=
      funext fun timer => by rw [Timer.left?, moved?_of_none]; rfl
    rw [thin.timers, all, List.filterMap_some]
  · have all : Task.left? (fun _ => false) = some := by
      funext task
      cases task with
      | pass | lookUp => rfl
      | delayed index =>
          rw [Task.left?, moved?_of_none]
          rfl
    rw [thin.queue, all, List.filterMap_some]

/-! ### Scheduling -/

theorem schedule (thin : Thin lost a b) (bounded : a.Bounded) (bounded' : b.Bounded)
    (kept : lost a.delayed.length = false) (scheduler delay : Nat) (reason : Reason) :
    Thin lost (a.schedule scheduler delay reason) (b.schedule scheduler delay reason) := by
  rcases thin.live scheduler with ⟨one, other⟩ | ⟨s, t, one, other, _⟩
  · rw [schedule_of_disposed one, schedule_of_disposed other]
    exact thin
  · have first := schedule_schedules one delay reason
    have second := schedule_schedules other delay reason
    refine
      { scene := by rw [schedule_scene, schedule_scene, thin.scene]
        schedulers := by rw [schedule_bare, schedule_bare, thin.schedulers]
        running := fun k => ?_
        delayed := ?_
        timers := by rw [first.timers, second.timers, thin.timers]
        queue := ?_ }
    · rw [schedule_running bounded one, schedule_running bounded' other, List.filterMap_append,
        thin.running, thin.length_delayed]
      split
      · rw [List.filterMap_cons_some (moved?_of_kept kept), List.filterMap_nil]
      · rfl
    · rw [first.delayed, second.delayed, keep_concat, thin.delayed, kept, Order.due, Order.due,
        thin.now]
      rfl
    · rw [first.queue, second.queue, List.filterMap_append, thin.queue, thin.length_delayed]
      rw [List.filterMap_cons_some (b := .delayed (rank lost a.delayed.length))]
      · rfl
      · rw [Task.left?, moved?_of_kept kept, Option.map_some]

/-- What is lost is scheduled in the larger world only. -/
theorem schedule_lost (thin : Thin lost a b) (bounded : a.Bounded)
    (gone : lost a.delayed.length = true) (scheduler delay : Nat) (reason : Reason) :
    Thin lost (a.schedule scheduler delay reason) b := by
  cases live : a.live? scheduler with
  | none =>
      rw [schedule_of_disposed live]
      exact thin
  | some s =>
      have schedules := schedule_schedules live delay reason
      refine
        { scene := by rw [schedule_scene, thin.scene]
          schedulers := by rw [schedule_bare, thin.schedulers]
          running := fun k => ?_
          delayed := by
            rw [schedules.delayed, keep_concat, if_pos gone, List.append_nil, thin.delayed]
          timers := by rw [schedules.timers, thin.timers]
          queue := ?_ }
      · rw [schedule_running bounded live, List.filterMap_append, thin.running]
        split
        · rw [List.filterMap_cons_none (moved?_of_lost gone), List.filterMap_nil, List.append_nil]
        · rw [List.filterMap_nil, List.append_nil]
      · rw [schedules.queue, List.filterMap_append, thin.queue, List.filterMap_cons_none,
          List.filterMap_nil, List.append_nil]
        rw [Task.left?, moved?_of_lost gone, Option.map_none]

/-! ### Turns -/

theorem orderedBy (thin : Thin lost a b) (same : b.failLookups = a.failLookups)
    (lookup : Lookup) : b.orderedBy lookup = a.orderedBy lookup := by
  have linters := thin.sees World.linters fun _ => rfl
  unfold World.orderedBy
  rw [same, linters, thin.now]
  rcases thin.live lookup.scheduler with ⟨one, other⟩ | ⟨s, t, one, other, config⟩
  · rw [one, other]
  · rw [one, other]
    dsimp only
    rw [config]

theorem asks (thin : Thin lost a b) (inquiry : Inquiry) (log log' : List Log.Line) :
    Thin lost { a with lookups := a.lookups ++ [inquiry], log }
      { b with lookups := b.lookups ++ [inquiry], log := log' } :=
  { thin with
    scene :=
      congrArg (fun scene => { scene with lookups := scene.lookups ++ [inquiry] }) thin.scene }

/-- A lookup is made in both worlds, and what it orders is lost only where it fails. -/
theorem lookUp (thin : Thin lost a b) (attuned : a.Attuned) (attuned' : b.Attuned)
    (bounded : a.Bounded) (bounded' : b.Bounded) {fails : Bool}
    (failing : b.failLookups = (a.failLookups || fails)) (lookup : Lookup)
    (fate : a.orderedBy lookup ≠ [] → lost a.delayed.length = fails) :
    Thin lost (a.lookUp lookup.scheduler lookup.uri lookup.baseName)
      (b.lookUp lookup.scheduler lookup.uri lookup.baseName) := by
  rcases lookUp_eq attuned lookup with ⟨log, one⟩
  rcases lookUp_eq attuned' lookup with ⟨log', other⟩
  rw [one, other]
  have asked := thin.asks lookup.inquiry log log'
  rcases a.orderedBy_cases lookup with none | ⟨order, ordered⟩
  · have none' : b.orderedBy lookup = [] := by
      cases fails with
      | false => rw [thin.orderedBy (by rw [failing, Bool.or_false]), none]
      | true => exact orderedBy_of_not (by simp [failing])
    rw [none, none']
    exact asked
  · have fate := fate (by simp [ordered])
    cases fails with
    | false =>
        rw [thin.orderedBy (by rw [failing, Bool.or_false]), ordered]
        exact asked.schedule bounded bounded' fate _ _ _
    | true =>
        rw [ordered, orderedBy_of_not (by simp [failing])]
        exact asked.schedule_lost bounded fate _ _ _

theorem ends (thin : Thin lost a b) (kept : lost index = false) :
    Thin lost { a with delayed := a.delayed.modify index ({ · with ended := true }) }
      { b with delayed := b.delayed.modify (rank lost index) ({ · with ended := true }) } := by
  have delayed : b.delayed.modify (rank lost index) ({ · with ended := true }) =
      keep lost (a.delayed.modify index ({ · with ended := true })) := by
    rw [keep_modify kept, thin.delayed]
  refine { thin with running := fun scheduler => ?_, delayed }
  refine thin.running_of_ends delayed (fun other past => ?_) (fun other past => ?_) rfl rfl
  · rw [hasEnded_modify rfl, past, Bool.or_true]
  · rw [hasEnded_modify rfl, past, Bool.or_true]

/-- What is lost is over only in the larger world. -/
theorem ends_lost (thin : Thin lost a b) (gone : lost index = true) :
    Thin lost { a with delayed := a.delayed.modify index ({ · with ended := true }) } b := by
  have delayed : b.delayed = keep lost (a.delayed.modify index ({ · with ended := true })) := by
    rw [keep_modify_of_lost gone, thin.delayed]
  refine { thin with running := fun scheduler => ?_, delayed }
  refine thin.running_of_ends delayed (fun other past => ?_) (fun other past => past) rfl rfl
  rw [hasEnded_modify rfl, past, Bool.or_true]

theorem awaitDue (thin : Thin lost a b) (kept : lost index = false) :
    Thin lost (a.awaitDue index) (b.awaitDue (rank lost index)) := by
  unfold World.awaitDue
  rw [thin.delayed, getElem?_keep kept, ← thin.delayed]
  cases a.delayed[index]? with
  | none => exact thin
  | some pass =>
      dsimp only
      split
      · exact thin
      · by_cases due : pass.due ≤ a.now
        · have due' : pass.due ≤ b.now := by rwa [thin.now]
          rw [if_pos due, if_pos due']
          exact (thin.ends kept).even (lint_even _ _) (lint_even _ _)
        · have early : ¬ pass.due ≤ b.now := by rwa [thin.now]
          rw [if_neg due, if_neg early]
          refine { thin with timers := ?_ }
          rw [List.filterMap_append, ← thin.timers]
          simp [Timer.left?, moved?_of_kept kept]

theorem awaitDue_lost (thin : Thin lost a b) (gone : lost index = true) :
    Thin lost (a.awaitDue index) b := by
  unfold World.awaitDue
  split
  · exact thin
  · split
    · exact thin
    · split
      · exact (thin.ends_lost gone).even (lint_even _ _) (.refl b)
      · refine { thin with timers := ?_ }
        rw [List.filterMap_append, ← thin.timers]
        simp [Timer.left?, moved?_of_lost gone]

/-- A task that is left has its turn in both worlds. -/
theorem perform (thin : Thin lost a b) (attuned : a.Attuned) (attuned' : b.Attuned)
    (bounded : a.Bounded) (bounded' : b.Bounded) {fails : Bool}
    (failing : b.failLookups = (a.failLookups || fails)) {task task' : Task}
    (leaves : task.Leaves lost task')
    (fate : ∀ lookup, task.lookup? = some lookup → a.orderedBy lookup ≠ [] →
      lost a.delayed.length = fails) :
    Thin lost (a.perform task) (b.perform task') := by
  cases leaves with
  | pass pass => exact thin.even (lint_even a pass) (lint_even b pass)
  | lookUp scheduler uri baseName =>
      exact thin.lookUp attuned attuned' bounded bounded' failing ⟨scheduler, uri, baseName⟩
        (fate ⟨scheduler, uri, baseName⟩ rfl)
  | delayed kept => exact thin.awaitDue kept

theorem perform_lost (thin : Thin lost a b) {task : Task} (gone : task.left? lost = none) :
    Thin lost (a.perform task) b := by
  cases task with
  | pass | lookUp => cases gone
  | delayed index => exact thin.awaitDue_lost (Task.left?_eq_none_iff.mp gone)

/-- A task that is left asks the engine for the same in both worlds. -/
theorem askedBy (thin : Thin lost a b) {task task' : Task} (leaves : task.Leaves lost task') :
    b.askedBy task' = a.askedBy task := by
  cases leaves with
  | pass | lookUp => rfl
  | delayed kept => rw [World.askedBy, World.askedBy, thin.delayed, getElem?_keep kept, thin.now]

/-- The next task has its turn in both worlds, and asks for the same. -/
theorem turn (thin : Thin lost a b) (attuned : a.Attuned) (attuned' : b.Attuned)
    (bounded : a.Bounded) (bounded' : b.Bounded) {fails : Bool}
    (failing : b.failLookups = (a.failLookups || fails)) {task task' : Task} {rest : List Task}
    (queue : a.queue = task :: rest) (left : task.left? lost = some task')
    (fate : ∀ lookup, task.lookup? = some lookup → a.orderedBy lookup ≠ [] →
      lost a.delayed.length = fails) :
    Thin lost a.turn b.turn ∧ b.turn.passes = b.passes ++ a.askedBy task := by
  have queue' : b.queue = task' :: rest.filterMap (Task.left? lost) := by
    rw [thin.queue, queue, List.filterMap_cons_some left]
  rw [turn_of_cons queue, turn_of_cons queue', ← thin.askedBy (Task.leaves left)]
  have taken : Thin lost { a with queue := rest }
      { b with queue := rest.filterMap (Task.left? lost) } := { thin with queue := rfl }
  have attuned' : ({ b with queue := rest.filterMap (Task.left? lost) } : World).Attuned :=
    attuned'.of_eq rfl rfl
  exact ⟨taken.perform (attuned.of_eq rfl rfl) attuned' bounded bounded' failing
    (Task.leaves left) fate, perform_passes attuned' task'⟩

/-- What is lost has its turn in the larger world only. -/
theorem turn_lost (thin : Thin lost a b) {task : Task} {rest : List Task}
    (queue : a.queue = task :: rest) (gone : task.left? lost = none) : Thin lost a.turn b := by
  rw [turn_of_cons queue]
  have taken : Thin lost { a with queue := rest } b :=
    { thin with queue := by rw [thin.queue, queue, List.filterMap_cons_none gone] }
  exact taken.perform_lost gone

/-! ### Time -/

theorem pass (thin : Thin lost a b) (time : Nat) :
    Thin lost { a with now := time } { b with now := time } :=
  { thin with scene := congrArg (fun scene => { scene with now := time }) thin.scene }

theorem fire (thin : Thin lost a b) (due : Nat) : Thin lost (a.fire due) (b.fire due) := by
  have selected (p : Nat → Bool) : b.timers.filter (fun timer => p timer.due) =
      (a.timers.filter fun timer => p timer.due).filterMap (Timer.left? lost) := by
    rw [thin.timers]
    refine filter_filterMap_comm (fun timer timer' left => ?_) _
    rcases Option.map_eq_some_iff.mp left with ⟨index, _, rfl⟩
    rfl
  refine { thin with timers := selected (· != due), queue := ?_ }
  show b.queue ++ (b.timers.filter _).map _ = (a.queue ++ (a.timers.filter _).map _).filterMap _
  rw [selected (· == due), List.filterMap_append, ← thin.queue, List.map_filterMap,
    List.filterMap_map]
  congr 2
  funext timer
  rw [Timer.left?, Option.map_map]
  show _ = (moved? lost timer.index).map Task.delayed
  rfl

end Thin

end World

end Lint
end Workbench
