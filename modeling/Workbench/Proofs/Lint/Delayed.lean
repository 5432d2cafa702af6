import Mathlib.Data.List.Nodup
import Workbench.Proofs.Lint.Listening

namespace Workbench
namespace Lint

/-!
# The book of delayed passes

A delayed pass that is not over has a task or a timer, and it is pending with the scheduler that
ordered it, which is not disposed.  One that is over reached the engine, or its scheduler was
disposed.  `Book` says this of a world, given what was ordered and what reached the engine, and
every change keeps it.
-/

/-- What the engine is going to be asked for, and when. -/
def Delayed.terms (pass : Delayed) : Reason × Nat :=
  (pass.reason, pass.due)

def Order.terms (order : Order) : Reason × Nat :=
  (order.reason, order.due)

theorem Task.eq_of_lookup? {task : Task} {lookup : Lookup} (looks : task.lookup? = some lookup) :
    task = .lookUp lookup.scheduler lookup.uri lookup.baseName := by
  cases task with
  | lookUp =>
      cases looks
      rfl
  | pass | delayed => cases looks

namespace World

variable {w w' : World}

/-! ## Passes that are over -/

theorem hasEnded_eq (w : World) (index : Nat) :
    w.hasEnded index = ((w.delayed[index]?).map Delayed.ended).getD true := by
  unfold hasEnded
  cases w.delayed[index]? <;> rfl

theorem hasEnded_of_eq (delayed : w'.delayed = w.delayed) (index : Nat) :
    w'.hasEnded index = w.hasEnded index := by
  rw [hasEnded_eq, hasEnded_eq, delayed]

theorem hasEnded_concat {pass : Delayed} (delayed : w'.delayed = w.delayed ++ [pass])
    (running : pass.ended = false) (index : Nat) :
    w'.hasEnded index = if index = w.delayed.length then false else w.hasEnded index := by
  rw [hasEnded_eq, hasEnded_eq, delayed]
  rcases Nat.lt_trichotomy index w.delayed.length with before | rfl | beyond
  · rw [if_neg (Nat.ne_of_lt before), List.getElem?_append_left before]
  · rw [if_pos rfl, List.getElem?_concat_length, Option.map_some, running, Option.getD_some]
  · rw [if_neg (Nat.ne_of_gt beyond), List.getElem?_eq_none (by simp; omega),
      List.getElem?_eq_none (Nat.le_of_lt beyond)]

theorem hasEnded_modify {index : Nat}
    (delayed : w'.delayed = w.delayed.modify index ({ · with ended := true })) (other : Nat) :
    w'.hasEnded other = (decide (other = index) || w.hasEnded other) := by
  rw [hasEnded_eq, hasEnded_eq, delayed, List.getElem?_modify]
  cases w.delayed[other]? with
  | none => simp
  | some pass => by_cases here : index = other <;> simp [here, eq_comm]

theorem hasEnded_endAll {indices : List Nat} (delayed : w'.delayed = endAll w.delayed indices)
    (other : Nat) : w'.hasEnded other = (decide (other ∈ indices) || w.hasEnded other) := by
  induction indices generalizing w with
  | nil => simp [hasEnded_of_eq delayed]
  | cons index rest inductionHypothesis =>
      let first : World :=
        { w with delayed := w.delayed.modify index ({ · with ended := true }) }
      have ended : first.hasEnded other = (decide (other = index) || w.hasEnded other) :=
        hasEnded_modify rfl other
      rw [inductionHypothesis (w := first) delayed, ended]
      by_cases here : other = index <;> by_cases there : other ∈ rest <;> simp [here, there]

theorem terms_modify (delayed : List Delayed) (index : Nat) :
    (delayed.modify index ({ · with ended := true })).map Delayed.terms =
      delayed.map Delayed.terms := by
  apply List.ext_getElem?
  intro other
  rw [List.getElem?_map, List.getElem?_map, List.getElem?_modify]
  cases delayed[other]? with
  | none => rfl
  | some pass => by_cases here : index = other <;> simp [here, Delayed.terms]

theorem terms_endAll (delayed : List Delayed) (indices : List Nat) :
    (endAll delayed indices).map Delayed.terms = delayed.map Delayed.terms := by
  induction indices generalizing delayed with
  | nil => rfl
  | cons index rest inductionHypothesis =>
      exact (inductionHypothesis _).trans (terms_modify delayed index)

theorem lt_of_live {scheduler : Nat} {s : Scheduler} (live : w.live? scheduler = some s) :
    scheduler < w.configs.length := by
  rw [configs, List.length_map]
  exact (List.getElem?_eq_some_iff.mp (live?_eq_some_iff.mp live).1).1

/-! ## Tasks and orders -/

/-- A task that is not the one that has its turn stays in the queue. -/
theorem mem_eraseIdx_of_ne {queue : List Task} {place : Nat} {task other : Task}
    (found : queue[place]? = some task) (different : other ≠ task) (member : other ∈ queue) :
    other ∈ queue.eraseIdx place := by
  rcases List.mem_iff_getElem?.mp member with ⟨at', found'⟩
  refine List.mem_eraseIdx_iff_getElem?.mpr ⟨at', ?_, found'⟩
  rintro rfl
  rw [found] at found'
  cases found'
  exact different rfl

/-- No event leads to a delayed pass at once. -/
theorem pass_of_tasksAt {action : Action} {pass : Pass} (member : .pass pass ∈ w.tasksAt action) :
    pass.isDelayed = false := by
  rcases List.mem_flatMap.mp member with ⟨scheduler, _, member⟩
  unfold tasksOf at member
  split at member
  · unfold eventTasks at member
    split at member
    · cases List.mem_singleton.mp member
      rfl
    · split at member
      · cases List.mem_singleton.mp member
        rfl
      · simp at member
    · rcases List.mem_map.mp member with ⟨document, _, same⟩
      cases same
      rfl
    · cases List.mem_singleton.mp member
      rfl
    · cases member
  · cases member

theorem reason_of_orderedBy {lookup : Lookup} {order : Order}
    (member : order ∈ w.orderedBy lookup) : order.reason = .configFileSaved := by
  unfold orderedBy at member
  split at member
  · split at member
    · rw [List.mem_singleton.mp member]
    · cases member
  · cases member

theorem isDelayed_of_orderedBy {lookup : Lookup} :
    ∀ order ∈ w.orderedBy lookup, order.reason.isDelayed = true := by
  intro order member
  rw [reason_of_orderedBy member]
  rfl

theorem isDelayed_of_orderedAt (action : Action) :
    ∀ order ∈ w.orderedAt action, order.reason.isDelayed = true := by
  intro order member
  unfold orderedAt at member
  split at member
  · split at member
    · rw [List.mem_singleton.mp member]
      rfl
    · cases member
  · rcases List.mem_flatMap.mp member with ⟨lookup, _, member⟩
    exact isDelayed_of_orderedBy order member
  · cases member

/-! ## Pending passes -/

section

variable {order : Order} {scheduler index : Nat} {s : Scheduler}

/-- What is pending and not over is still pending when another pass is scheduled. -/
theorem Schedules.pending (schedules : Schedules order w w') (running : w.hasEnded index = false)
    (live : w.live? scheduler = some s) (member : index ∈ s.pending) :
    ∃ s', w'.live? scheduler = some s' ∧ index ∈ s'.pending := by
  rcases schedules.live with ⟨t, before, after⟩
  by_cases here : scheduler = order.scheduler
  · subst here
    rw [before] at live
    cases live
    exact ⟨_, after, List.mem_append_left _ (List.mem_filter.mpr ⟨member, by simp [running]⟩)⟩
  · exact ⟨s, (schedules.others scheduler here).trans live, member⟩

/-- What is pending when a pass is scheduled was pending before, or is this pass. -/
theorem Schedules.pending_cases (schedules : Schedules order w w')
    (live : w'.live? scheduler = some s) (member : index ∈ s.pending) :
    (∃ s', w.live? scheduler = some s' ∧ index ∈ s'.pending) ∨
      scheduler = order.scheduler ∧ index = w.delayed.length := by
  rcases schedules.live with ⟨t, before, after⟩
  by_cases here : scheduler = order.scheduler
  · subst here
    rw [after] at live
    cases live
    rcases List.mem_append.mp member with earlier | last
    · exact Or.inl ⟨t, before, List.mem_of_mem_filter earlier⟩
    · exact Or.inr ⟨rfl, List.mem_singleton.mp last⟩
  · rw [schedules.others scheduler here] at live
    exact Or.inl ⟨s, live, member⟩

end

/-! ## The book -/

/-- A delayed pass has a task that will have its turn, or a timer. -/
def Awaited (w : World) (index : Nat) : Prop :=
  .delayed index ∈ w.queue ∨ ∃ timer ∈ w.timers, timer.index = index

/-- What is true of delayed passes, given what was ordered and what reached the engine. -/
structure Book (orders : List Order) (reached : List Nat) (w : World) : Prop where
  /-- What is ordered is scheduled. -/
  scheduled : w.delayed.map Delayed.terms = orders.map Order.terms
  /-- Only passes of the two kinds that are delayed are ordered. -/
  delayed : ∀ order ∈ orders, order.reason.isDelayed = true
  /-- They are ordered by schedulers that there are. -/
  known : ∀ order ∈ orders, order.scheduler < w.configs.length
  /-- Other passes are not delayed. -/
  queued : ∀ pass, .pass pass ∈ w.queue → pass.isDelayed = false
  /-- Who is not over has a task or a timer. -/
  waiting : ∀ index, w.hasEnded index = false → w.Awaited index
  /-- Timers end when the pass is due. -/
  timed : ∀ timer ∈ w.timers, ∃ order, orders[timer.index]? = some order ∧ timer.due = order.due
  /-- Who is not over is pending. -/
  pending : ∀ {index order}, orders[index]? = some order → w.hasEnded index = false →
    ∃ s, w.live? order.scheduler = some s ∧ index ∈ s.pending
  /-- Only one's own passes are pending. -/
  owned : ∀ {scheduler s}, w.live? scheduler = some s → ∀ index ∈ s.pending,
    ∃ order, orders[index]? = some order ∧ order.scheduler = scheduler
  /-- Who is over reached the engine or belongs to a disposed scheduler. -/
  finished : ∀ {index order}, orders[index]? = some order → w.hasEnded index = true →
    index ∈ reached ∨ w.live? order.scheduler = none
  once : reached.Nodup
  /-- Who reached the engine is over. -/
  ended : ∀ index ∈ reached, index < orders.length ∧ w.hasEnded index = true
  /-- The engine was asked for what reached it, and for no other delayed passes. -/
  passes : w.passes.filter Pass.isDelayed =
    reached.filterMap fun index => (orders[index]?).map Order.pass

namespace Book

variable {orders : List Order} {reached : List Nat}

theorem empty (hasRuntime : Bool) : Book [] [] { hasRuntime } where
  scheduled := rfl
  delayed := fun _ member => by cases member
  known := fun _ member => by cases member
  queued := fun _ member => by cases member
  waiting := fun _ running => by cases running
  timed := fun _ member => by cases member
  pending := fun found => by cases found
  owned := fun live => by cases live
  finished := fun found => by cases found
  once := .nil
  ended := fun _ member => by cases member
  passes := rfl

theorem length (book : Book orders reached w) : w.delayed.length = orders.length := by
  have same := congrArg List.length book.scheduled
  rwa [List.length_map, List.length_map] at same

/-- The order of a pass. -/
theorem exists_order (book : Book orders reached w) {index : Nat} {pass : Delayed}
    (found : w.delayed[index]? = some pass) :
    ∃ order, orders[index]? = some order ∧ order.reason = pass.reason ∧ order.due = pass.due := by
  have same := congrArg (·[index]?) book.scheduled
  simp only [List.getElem?_map, found, Option.map_some] at same
  rcases Option.map_eq_some_iff.mp same.symm with ⟨order, member, terms⟩
  exact ⟨order, member, congrArg Prod.fst terms, congrArg Prod.snd terms⟩

/-- It does not matter which tasks and timers there are as long as every delayed pass that is not
over has one of them. -/
theorem same (book : Book orders reached w) (configs : w'.configs = w.configs)
    (live : ∀ k, w'.live? k = w.live? k) (delayed : w'.delayed = w.delayed)
    (passes : w'.passes.filter Pass.isDelayed = w.passes.filter Pass.isDelayed)
    (queued : ∀ pass, .pass pass ∈ w'.queue → pass.isDelayed = false)
    (waiting : ∀ index, w.hasEnded index = false → w.Awaited index → w'.Awaited index)
    (timed : ∀ timer ∈ w'.timers, timer ∈ w.timers ∨
      ∃ pass, w.delayed[timer.index]? = some pass ∧ timer.due = pass.due) :
    Book orders reached w' := by
  have hasEnded := hasEnded_of_eq delayed
  exact
    { scheduled := by rw [delayed, book.scheduled]
      delayed := book.delayed
      known := by rw [configs]; exact book.known
      queued
      waiting := fun index running => by
        rw [hasEnded] at running
        exact waiting index running (book.waiting index running)
      timed := fun timer member => by
        rcases timed timer member with earlier | ⟨pass, found, due⟩
        · exact book.timed timer earlier
        · rcases book.exists_order found with ⟨order, member, _, same⟩
          exact ⟨order, member, due.trans same.symm⟩
      pending := fun found running => by
        rw [hasEnded] at running
        rw [live]
        exact book.pending found running
      owned := fun found => by
        rw [live] at found
        exact book.owned found
      finished := fun found finished => by
        rw [hasEnded] at finished
        rw [live]
        exact book.finished found finished
      once := book.once
      ended := fun index member => by
        rw [hasEnded]
        exact book.ended index member
      passes := passes.trans book.passes }

/-- A pass that is ordered later does not change what was ordered earlier. -/
theorem concat_cases (book : Book orders reached w) {order other : Order} {index : Nat} :
    (orders ++ [order])[index]? = some other ↔
      orders[index]? = some other ∧ index ≠ w.delayed.length ∨
        other = order ∧ index = w.delayed.length := by
  rw [book.length]
  rcases Nat.lt_trichotomy index orders.length with before | rfl | beyond
  · rw [List.getElem?_append_left before]
    simp [Nat.ne_of_lt before]
  · rw [List.getElem?_concat_length]
    simp [eq_comm]
  · rw [List.getElem?_eq_none (by simp; omega), List.getElem?_eq_none (Nat.le_of_lt beyond)]
    simp [Nat.ne_of_gt beyond]

theorem schedules (book : Book orders reached w) {order : Order} (schedules : Schedules order w w')
    (delays : order.reason.isDelayed = true) : Book (orders ++ [order]) reached w' := by
  have hasEnded := hasEnded_concat schedules.delayed rfl
  rcases schedules.live with ⟨s, before, after⟩
  have old {index : Nat} {other : Order} (found : orders[index]? = some other) :
      (orders ++ [order])[index]? = some other := by
    rw [List.getElem?_append_left (List.getElem?_eq_some_iff.mp found).1, found]
  refine
    { scheduled := ?_
      delayed := ?_
      known := ?_
      queued := fun pass member => ?_
      waiting := fun index running => ?_
      timed := fun timer member => ?_
      pending := fun {index other} found running => ?_
      owned := fun {k t} live index member => ?_
      finished := fun {index other} found finished => ?_
      once := book.once
      ended := fun index member => ?_
      passes := ?_ }
  · rw [schedules.delayed, List.map_append, List.map_append, book.scheduled]
    rfl
  · exact List.forall_mem_append.mpr ⟨book.delayed, List.forall_mem_singleton.mpr delays⟩
  · rw [schedules.configs]
    exact List.forall_mem_append.mpr
      ⟨book.known, List.forall_mem_singleton.mpr (lt_of_live before)⟩
  · rw [schedules.queue] at member
    exact book.queued pass (by simpa using member)
  · rw [hasEnded] at running
    rw [Awaited, schedules.queue, schedules.timers]
    by_cases last : index = w.delayed.length
    · exact Or.inl (by simp [last])
    · rw [if_neg last] at running
      exact (book.waiting index running).imp_left (List.mem_append_left _)
  · rw [schedules.timers] at member
    rcases book.timed timer member with ⟨other, found, due⟩
    exact ⟨other, old found, due⟩
  · rw [hasEnded] at running
    rcases book.concat_cases.mp found with ⟨earlier, different⟩ | ⟨rfl, rfl⟩
    · rw [if_neg different] at running
      rcases book.pending earlier running with ⟨t, live, member⟩
      exact schedules.pending running live member
    · exact ⟨_, after, List.mem_append_right _ (List.mem_singleton_self _)⟩
  · rcases schedules.pending_cases live member with ⟨u, live', earlier⟩ | ⟨rfl, rfl⟩
    · rcases book.owned live' index earlier with ⟨other, found, owner⟩
      exact ⟨other, old found, owner⟩
    · exact ⟨order, book.concat_cases.mpr (Or.inr ⟨rfl, rfl⟩), rfl⟩
  · rw [hasEnded] at finished
    rcases book.concat_cases.mp found with ⟨earlier, different⟩ | ⟨_, last⟩
    · rw [if_neg different] at finished
      refine (book.finished earlier finished).imp_right fun disposed => ?_
      rw [schedules.others _ ?_, disposed]
      intro here
      rw [here, before] at disposed
      cases disposed
    · rw [if_pos last] at finished
      cases finished
  · rcases book.ended index member with ⟨inside, finished⟩
    have earlier : index ≠ w.delayed.length := by
      rw [book.length]
      exact Nat.ne_of_lt inside
    rw [hasEnded, if_neg earlier, List.length_append]
    exact ⟨Nat.lt_add_right 1 inside, finished⟩
  · rw [schedules.passes, book.passes]
    refine List.filterMap_congr fun index member => ?_
    rw [List.getElem?_append_left (book.ended index member).1]

theorem adds (book : Book orders reached w) {config : Config} (adds : Adds config w w') :
    Book orders reached w' := by
  have hasEnded := hasEnded_of_eq adds.delayed
  have length : w.configs.length = w.schedulers.length := List.length_map _
  have earlier {scheduler : Nat} (inside : scheduler < w.configs.length) :
      w'.live? scheduler = w.live? scheduler := by
    rw [adds.live, if_neg (by omega)]
  refine
    { scheduled := by rw [adds.delayed, book.scheduled]
      delayed := book.delayed
      known := fun order member => ?_
      queued := by rw [adds.queue]; exact book.queued
      waiting := fun index running => ?_
      timed := by rw [adds.timers]; exact book.timed
      pending := fun {index order} found running => ?_
      owned := fun {k s} live index member => ?_
      finished := fun {index order} found finished => ?_
      once := book.once
      ended := fun index member => ?_
      passes := by rw [adds.passes, book.passes] }
  · rw [adds.configs, List.length_append]
    exact Nat.lt_add_right 1 (book.known order member)
  · rw [hasEnded] at running
    rw [Awaited, adds.queue, adds.timers]
    exact book.waiting index running
  · rw [hasEnded] at running
    rw [earlier (book.known order (List.mem_of_getElem? found))]
    exact book.pending found running
  · rw [adds.live] at live
    split at live
    · cases live
      cases member
    · exact book.owned live index member
  · rw [hasEnded] at finished
    rw [earlier (book.known order (List.mem_of_getElem? found))]
    exact book.finished found finished
  · rw [hasEnded]
    exact book.ended index member

theorem retires (book : Book orders reached w) {scheduler : Nat} {s : Scheduler}
    (retires : Retires scheduler s w w') : Book orders reached w' := by
  have hasEnded := hasEnded_endAll retires.delayed
  refine
    { scheduled := by rw [retires.delayed, terms_endAll, book.scheduled]
      delayed := book.delayed
      known := by rw [retires.configs]; exact book.known
      queued := by rw [retires.queue]; exact book.queued
      waiting := fun index running => ?_
      timed := by rw [retires.timers]; exact book.timed
      pending := fun {index order} found running => ?_
      owned := fun {k t} live index member => ?_
      finished := fun {index order} found finished => ?_
      once := book.once
      ended := fun index member => ?_
      passes := by rw [retires.passes, book.passes] }
  · rw [hasEnded, Bool.or_eq_false_iff] at running
    rw [Awaited, retires.queue, retires.timers]
    exact book.waiting index running.2
  · rw [hasEnded, Bool.or_eq_false_iff, decide_eq_false_iff_not] at running
    rcases book.pending found running.2 with ⟨t, live, member⟩
    refine ⟨t, ?_, member⟩
    rw [retires.live, if_neg ?_, live]
    intro here
    rw [here, retires.before] at live
    cases live
    exact running.1 member
  · rw [retires.live] at live
    split at live
    · cases live
    · exact book.owned live index member
  · rw [hasEnded, Bool.or_eq_true, decide_eq_true_iff] at finished
    rw [retires.live]
    rcases finished with aborted | finished
    · -- A pending pass that is ended with the scheduler is one of its own.
      rcases book.owned retires.before index aborted with ⟨other, found', owner⟩
      rw [found] at found'
      cases found'
      exact Or.inr (if_pos owner)
    · refine (book.finished found finished).imp_right fun disposed => ?_
      rw [disposed, ite_self]
  · rcases book.ended index member with ⟨inside, finished⟩
    rw [hasEnded, finished, Bool.or_true]
    exact ⟨inside, rfl⟩

/-- A delayed pass that is due reaches the engine in its turn. -/
theorem reaches (book : Book orders reached w) {index : Nat} {pass : Delayed}
    (found : w.delayed[index]? = some pass) (running : pass.ended = false)
    (configs : w'.configs = w.configs) (live : ∀ k, w'.live? k = w.live? k)
    (delayed : w'.delayed = w.delayed.modify index ({ · with ended := true }))
    (kept : ∀ other, other ≠ index → .delayed other ∈ w.queue → .delayed other ∈ w'.queue)
    (queued : ∀ pass, .pass pass ∈ w'.queue → pass.isDelayed = false)
    (timers : w'.timers = w.timers) (passes : w'.passes = w.passes ++ [.openFiles pass.reason]) :
    Book orders (reached ++ [index]) w' := by
  have hasEnded := hasEnded_modify delayed
  have before : w.hasEnded index = false := by rw [hasEnded_eq, found]; exact running
  rcases book.exists_order found with ⟨order, ordered, reason, _⟩
  have fresh : index ∉ reached := by
    intro earlier
    rw [(book.ended index earlier).2] at before
    cases before
  refine
    { scheduled := by rw [delayed, terms_modify, book.scheduled]
      delayed := book.delayed
      known := by rw [configs]; exact book.known
      queued
      waiting := fun other running => ?_
      timed := by rw [timers]; exact book.timed
      pending := fun {other order} found running => ?_
      owned := fun {k s} found => ?_
      finished := fun {other order} found finished => ?_
      once := ?_
      ended := fun other member => ?_
      passes := ?_ }
  · rw [hasEnded, Bool.or_eq_false_iff, decide_eq_false_iff_not] at running
    rw [Awaited, timers]
    exact (book.waiting other running.2).imp_left (kept other running.1)
  · rw [hasEnded, Bool.or_eq_false_iff] at running
    rw [live]
    exact book.pending found running.2
  · rw [live] at found
    exact book.owned found
  · rw [hasEnded, Bool.or_eq_true, decide_eq_true_iff] at finished
    rw [live]
    rcases finished with rfl | finished
    · exact Or.inl (List.mem_append_right _ (List.mem_singleton_self _))
    · exact (book.finished found finished).imp_left (List.mem_append_left _)
  · rw [← List.concat_eq_append]
    exact book.once.concat fresh
  · rw [hasEnded, Bool.or_eq_true, decide_eq_true_iff]
    rcases List.mem_append.mp member with earlier | last
    · exact ⟨(book.ended other earlier).1, Or.inr (book.ended other earlier).2⟩
    · rw [List.mem_singleton.mp last]
      exact ⟨(List.getElem?_eq_some_iff.mp ordered).1, Or.inl rfl⟩
  · have delays : (Pass.openFiles pass.reason).isDelayed = true := by
      rw [Pass.isDelayed, Pass.reason, ← reason]
      exact book.delayed order (List.mem_of_getElem? ordered)
    rw [passes, List.filter_append, book.passes, List.filterMap_append]
    simp [delays, ordered, Order.pass, reason]

/-- The timers of a deadline become tasks. -/
theorem fires (book : Book orders reached w) (due : Nat) : Book orders reached (w.fire due) := by
  refine book.same rfl (fun _ => rfl) rfl rfl (fun pass member => ?_) (fun index _ awaited => ?_)
    fun timer member => Or.inl (List.mem_of_mem_filter member)
  · rcases List.mem_append.mp member with earlier | fired
    · exact book.queued pass earlier
    · rcases List.mem_map.mp fired with ⟨_, _, same⟩
      cases same
  · rcases awaited with queued | ⟨timer, member, rfl⟩
    · exact Or.inl (List.mem_append_left _ queued)
    · by_cases ends : timer.due = due
      · refine Or.inl (List.mem_append_right _ (List.mem_map.mpr ⟨timer, ?_, rfl⟩))
        exact List.mem_filter.mpr ⟨member, by simp [ends]⟩
      · exact Or.inr ⟨timer, List.mem_filter.mpr ⟨member, by simp [ends]⟩, rfl⟩

theorem obeys (book : Book orders reached w) {more : List Order} (obeys : Obeys more w w')
    (delays : ∀ order ∈ more, order.reason.isDelayed = true) :
    Book (orders ++ more) reached w' := by
  cases obeys with
  | nothing calm queue =>
      rw [List.append_nil]
      refine book.same calm.configs calm.live calm.delayed (congrArg _ calm.passes) ?_ ?_ ?_
      · rw [queue]
        exact book.queued
      · intro index _ awaited
        rwa [Awaited, queue, calm.timers]
      · rw [calm.timers]
        exact fun timer member => Or.inl member
  | schedules schedules => exact book.schedules schedules (delays _ (List.mem_singleton_self _))

/-- A task that has its turn is none that a running pass waits for, unless it is the pass's own. -/
theorem erased (book : Book orders reached w) {place : Nat} {task : Task} {log : List Log.Line}
    {lookups : List Inquiry} (found : w.queue[place]? = some task)
    (other : ∀ index, task = .delayed index → w.hasEnded index = true) :
    Book orders reached { w with queue := w.queue.eraseIdx place, lookups, log } := by
  refine book.same rfl (fun _ => rfl) rfl rfl (fun pass member => ?_) (fun index running => ?_)
    fun timer member => Or.inl member
  · exact book.queued pass (List.mem_of_mem_eraseIdx member)
  · refine Or.imp_left fun member => mem_eraseIdx_of_ne found ?_ member
    intro same
    rw [other index same.symm] at running
    cases running

/-- The task of a delayed pass has its turn. -/
theorem awaits (book : Book orders reached w) {place index : Nat}
    (found : w.queue[place]? = some (.delayed index))
    (awaits : Awaits index { w with queue := w.queue.eraseIdx place } w') :
    Book orders (reached ++ if w'.passes = w.passes then [] else [index]) w' := by
  cases awaits with
  | ended ended same =>
      subst same
      rw [if_pos rfl, List.append_nil]
      have finished : ∀ other, Task.delayed index = .delayed other → w.hasEnded other = true := by
        rintro other ⟨⟩
        exact ended
      exact book.erased found finished
  | reaches member running due schedulers delayed queue timers passes lookups =>
      have asked : w'.passes ≠ w.passes := by
        rw [passes]
        simp
      rw [if_neg asked]
      refine book.reaches member running (congrArg (List.map Scheduler.config) schedulers)
        (live?_of_schedulers schedulers) delayed (fun other different => ?_) ?_ timers passes
      · rw [queue]
        refine mem_eraseIdx_of_ne found ?_
        rintro ⟨⟩
        exact different rfl
      · rw [queue]
        exact fun pass member => book.queued pass (List.mem_of_mem_eraseIdx member)
  | @waits pass member running early same =>
      subst same
      rw [if_pos rfl, List.append_nil]
      refine book.same rfl (fun _ => rfl) rfl rfl
        (fun pass member => book.queued pass (List.mem_of_mem_eraseIdx member))
        (fun other _ awaited => ?_) fun timer member => ?_
      · by_cases here : other = index
        · exact Or.inr ⟨_, List.mem_append_right _ (List.mem_singleton_self _), here.symm⟩
        · refine awaited.imp (fun queued => mem_eraseIdx_of_ne found ?_ queued) ?_
          · rintro ⟨⟩
            exact here rfl
          · rintro ⟨timer, member, same⟩
            exact ⟨timer, List.mem_append_left _ member, same⟩
      · rcases List.mem_append.mp member with earlier | last
        · exact Or.inl earlier
        · rw [List.mem_singleton.mp last]
          exact Or.inr ⟨pass, ‹_›, rfl⟩

/-- Whatever happens, the book goes on with what is ordered and what reaches the engine. -/
theorem act (book : Book orders reached w) (attuned : w.Attuned) (action : Action) :
    Book (orders ++ w.orderedAt action) (reached ++ w.reachedAt action) (w.act action) := by
  have happens := act_happens attuned action
  generalize after : w.act action = w' at happens
  cases happens with
  | calm calm queue unordered unreached _ =>
      rw [unordered, unreached, List.append_nil, List.append_nil]
      refine book.same calm.configs calm.live calm.delayed (congrArg _ calm.passes) ?_ ?_ ?_
      · intro pass member
        rw [queue] at member
        exact (List.mem_append.mp member).elim (book.queued pass) pass_of_tasksAt
      · intro index _ awaited
        rw [Awaited, queue, calm.timers]
        exact awaited.imp_left (List.mem_append_left _)
      · rw [calm.timers]
        exact fun timer member => Or.inl member
  | started adds obeys =>
      simpa [reachedAt] using (book.adds adds).obeys obeys (isDelayed_of_orderedAt _)
  | retired which retires =>
      rcases which with rfl | rfl <;> simpa [orderedAt, reachedAt] using book.retires retires
  | @linted place pass _ found schedulers delayed queue timers passes lookups =>
      have undelayed := book.queued pass (List.mem_of_getElem? found)
      have unordered : w.orderedAt (.turn place) = [] := by
        simp [orderedAt, lookedUpAt, found, Task.lookup?]
      have unreached : w.reachedAt (.turn place) = [] := by simp [reachedAt, found]
      rw [unordered, unreached, List.append_nil, List.append_nil]
      refine book.same (congrArg (List.map Scheduler.config) schedulers)
        (live?_of_schedulers schedulers) delayed ?_ ?_ ?_ ?_
      · rw [passes, List.filter_append]
        simp [undelayed]
      · rw [queue]
        exact fun pass member => book.queued pass (List.mem_of_mem_eraseIdx member)
      · intro index _ awaited
        rw [Awaited, queue, timers]
        exact awaited.imp_left (mem_eraseIdx_of_ne found (by rintro ⟨⟩))
      · rw [timers]
        exact fun timer member => Or.inl member
  | @lookedUp place lookup w₁ _ found asked obeys =>
      rcases Option.bind_eq_some_iff.mp found with ⟨task, member, looks⟩
      rcases Task.eq_of_lookup? looks with rfl
      have ordered : w.orderedAt (.turn place) = w.orderedBy lookup := by
        simp [orderedAt, lookedUpAt, found]
      have unreached : w.reachedAt (.turn place) = [] := by simp [reachedAt, member]
      rw [unreached, List.append_nil, ordered]
      rcases asked with ⟨log, rfl⟩
      exact (book.erased member (by rintro index ⟨⟩)).obeys obeys isDelayed_of_orderedBy
  | @awaited place index _ found awaits =>
      have unordered : w.orderedAt (.turn place) = [] := by
        simp [orderedAt, lookedUpAt, found, Task.lookup?]
      have after : w.turnAt place = w' := after
      rw [unordered, List.append_nil, reachedAt, found, after]
      exact book.awaits found awaits
  | fired past =>
      simpa [orderedAt, reachedAt] using book.fires _

end Book

end World

end Lint
end Workbench
