import Workbench.Proofs.Event.Run

namespace Workbench
namespace Event

/-!
# Whom an event reaches

An event is told to everyone who is registered when it is fired, whatever those who are called do
meanwhile: they may register others, take any registration back, fire again or give up the emitter.
The calls that an event has given rise to and those that are still due are always the same together
(`Run.spoken_extend`), and none is due when the fire is over.
-/

/-- A call of a listener, under a registration. -/
structure Called where
  registration : Nat
  id : String
  value : Int
  deriving DecidableEq, Repr

/-- The call that a registration leads to. -/
def Called.of (value : Int) (r : Nat × Listener) : Called :=
  ⟨r.1, r.2.id, value⟩

/-- The call that was made because of an event. -/
def Happening.called? (event : Nat) : Happening → Option Called
  | called event' registration id value =>
    if event' = event then some ⟨registration, id, value⟩ else none
  | released .. => none

/-- The call that is to be made because of an event. -/
def Task.called? (event : Nat) : Task → Option Called
  | call event' registration listener value =>
    if event' = event then some ⟨registration, listener.id, value⟩ else none
  | _ => none

theorem Task.called?_of_not_isCall {task : Task} (uncalled : task.isCall = false) (event : Nat) :
    task.called? event = none := by
  cases task with
  | call => cases uncalled
  | act | register | release => rfl

namespace Switchboard

variable {arrange : Arrangement} {s s' : Switchboard} {event : Nat}

/-- The calls that were made because of an event. -/
def calls (s : Switchboard) (event : Nat) : List Called :=
  s.history.filterMap (·.called? event)

/-- The calls that an event still leads to, the next one first. -/
def due (s : Switchboard) (event : Nat) : List Called :=
  s.agenda.filterMap (·.called? event)

/-- All calls that an event leads to. -/
def spoken (s : Switchboard) (event : Nat) : List Called :=
  s.calls event ++ s.due event

/-- The value that the first task of the agenda fires. -/
def nextValue? (s : Switchboard) : Option Int :=
  match s.agenda with
  | .act (.fire value) _ :: _ => some value
  | .act (.fireNext below) value :: _ => if value < below then some (value + 1) else none
  | _ => none

theorem filterMap_called?_of_uncalled {tasks : List Task}
    (uncalled : ∀ task ∈ tasks, task.isCall = false) (event : Nat) :
    tasks.filterMap (·.called? event) = [] := by
  apply List.filterMap_eq_nil_iff.mpr
  intro task member
  exact Task.called?_of_not_isCall (uncalled task member) event

theorem filterMap_called?_of_isAsked {tasks : List Task}
    (asked : ∀ task ∈ tasks, task.isAsked = true) (event : Nat) :
    tasks.filterMap (·.called? event) = [] := by
  apply filterMap_called?_of_uncalled
  intro task member
  exact Task.isCall_of_isAsked (asked task member)

theorem filterMap_called?_releases (subscriptions : List Nat) (event : Nat) :
    (subscriptions.map Task.release).filterMap (·.called? event) = [] := by
  apply filterMap_called?_of_uncalled
  intro task member
  rcases List.mem_map.mp member with ⟨subscription, _, rfl⟩
  rfl

theorem filterMap_called?_calls (reached : List (Nat × Listener)) (value : Int)
    (fired event : Nat) :
    (reached.map fun r => Task.call fired r.1 r.2 value).filterMap (·.called? event) =
      if fired = event then reached.map (Called.of value) else [] := by
  induction reached with
  | nil => simp
  | cons r rest inductionHypothesis =>
      by_cases same : fired = event
      · simp only [if_pos same] at inductionHypothesis ⊢
        simp [Task.called?, Called.of, same]
      · simp only [if_neg same] at inductionHypothesis ⊢
        simp [Task.called?, same]

/-! ## What a task does to calls -/

theorem due_cons {task : Task} {rest : List Task} (agenda : s.agenda = task :: rest) :
    s.due event = (task.called? event).toList ++ rest.filterMap (·.called? event) := by
  rw [due, agenda, List.filterMap_cons]
  cases task.called? event <;> rfl

/-- What was called because of an event, and what is to be called because of it, is kept by every
task, the call of a listener included. -/
theorem Performs.spoken {task : Task} (performs : Performs arrange s task s')
    (unfired : event < s'.events.length → event < s.events.length) :
    s'.spoken event = s.calls event ++ ((task.called? event).toList ++ s.due event) := by
  have quiet {tasks : List Task} (uncalled : tasks.filterMap (·.called? event) = []) :
      (tasks ++ s.agenda).filterMap (·.called? event) = s.due event := by
    rw [List.filterMap_append, uncalled, List.nil_append]
    rfl
  cases performs with
  | @defers _ table tasks asked _ more =>
      have uncalled : ((s.endedBy task).map Task.release ++ tasks).filterMap (·.called? event) =
          [] := by
        rw [List.filterMap_append, filterMap_called?_releases, filterMap_called?_of_isAsked more]
        rfl
      rw [Task.called?_of_not_isCall (Task.isCall_of_isAsked asked)]
      exact congrArg (s.calls event ++ ·) (quiet uncalled)
  | makes | registers =>
      exact congrArg (s.calls event ++ ·) (quiet (filterMap_called?_releases _ event))
  | @fires action value fired e there =>
      -- The event that is fired has another number.
      have elsewhere := filterMap_called?_calls (arrange s.events.length e.registrations) fired
        s.events.length event
      have different : s.events.length ≠ event := by
        rintro rfl
        exact Nat.lt_irrefl _ (unfired (by simp))
      rw [if_neg different] at elsewhere
      simp only [Switchboard.spoken, due, List.filterMap_append, elsewhere]
      rfl
  | @calls event' registration listener value =>
      have acts := quiet
        (filterMap_called?_of_isAsked (Task.isAsked_acts listener.reaction value) event)
      simp only [Switchboard.spoken, Switchboard.calls, due, acts, List.filterMap_append,
        List.append_assoc]
      by_cases same : event' = event <;> simp [Happening.called?, Task.called?, same]
  | unregisters | spares | forsakes => rfl
  | @releases subscription id reaction held =>
      have acts := quiet (filterMap_called?_of_isAsked (Task.isAsked_acts reaction (-1)) event)
      simp only [Switchboard.spoken, Switchboard.calls, due, acts, List.filterMap_append]
      simp [Happening.called?, Task.called?]

/-- What happened is never forgotten, and neither are events. -/
theorem Performs.grows {task : Task} (performs : Performs arrange s task s') :
    s.history <+: s'.history ∧ s.events <+: s'.events := by
  cases performs with
  | fires => exact ⟨List.prefix_rfl, List.prefix_append _ _⟩
  | calls | releases => exact ⟨List.prefix_append _ _, List.prefix_rfl⟩
  | _ => exact ⟨List.prefix_rfl, List.prefix_rfl⟩

theorem move_grows (arrange : Arrangement) (s : Switchboard) (move : Move) :
    s.history <+: (s.move arrange move).history ∧ s.events <+: (s.move arrange move).events := by
  cases move with
  | ask | giveUp => exact ⟨List.prefix_rfl, List.prefix_rfl⟩
  | work =>
      show s.history <+: (s.step arrange).history ∧ s.events <+: (s.step arrange).events
      cases agenda : s.agenda with
      | nil =>
          rw [step_of_nil agenda]
          exact ⟨List.prefix_rfl, List.prefix_rfl⟩
      | cons task rest => exact (step_performs arrange agenda).grows

theorem move_spoken (arrange : Arrangement) (move : Move)
    (unfired : event < (s.move arrange move).events.length → event < s.events.length) :
    (s.move arrange move).spoken event = s.spoken event := by
  cases move with
  | ask action =>
      have same : ({ s with agenda := s.agenda ++ [.act action 0] } : Switchboard).due event =
          s.due event := by
        rw [due, List.filterMap_append]
        exact List.append_nil _
      exact congrArg (s.calls event ++ ·) same
  | work =>
      show (s.step arrange).spoken event = s.spoken event
      cases agenda : s.agenda with
      | nil => rw [step_of_nil agenda]
      | cons task rest =>
          have performed := (step_performs arrange agenda).spoken unfired
          rw [performed, spoken, due_cons agenda]
          rfl
  | giveUp =>
      have releases := filterMap_called?_releases (s.table.map Prod.snd) event
      have same : s.dropAll.due event = s.due event := by
        rw [List.map_map] at releases
        show (_ ++ s.agenda).filterMap _ = _
        rw [List.filterMap_append]
        exact congrArg (· ++ s.due event) releases
      exact congrArg (s.calls event ++ ·) same

/-! ## The fire of an event -/

/-- Firing a value puts the calls of all who are registered before the rest of the agenda. -/
theorem step_of_nextValue (arrange : Arrangement) {value : Int} {e : Emitter Listener}
    (next : s.nextValue? = some value) (there : s.emitter = some e) :
    s.step arrange = { s with
      events := s.events ++
        [⟨value, (arrange s.events.length e.registrations).map Prod.fst⟩]
      agenda := (arrange s.events.length e.registrations).map
        (fun r => .call s.events.length r.1 r.2 value) ++ s.agenda.tail } := by
  unfold nextValue? at next
  split at next
  · rename_i fired value' rest agenda
    cases next
    rw [step_of_cons agenda, agenda]
    simp [perform, act, fire, there, push]
  · rename_i below value' rest agenda
    split at next
    · rename_i less
      cases next
      rw [step_of_cons agenda, agenda]
      simp [perform, act, fire, there, push, less]
    · cases next
  · cases next

/-- Without an emitter nobody is reached. -/
theorem step_of_nextValue_of_none {value : Int} (next : s.nextValue? = some value)
    (gone : s.emitter = none) : s.step arrange = { s with agenda := s.agenda.tail } := by
  unfold nextValue? at next
  split at next
  · rename_i fired value' rest agenda
    rw [step_of_cons agenda, agenda]
    simp [perform, act, fire, gone]
  · rename_i below value' rest agenda
    split at next
    · rename_i less
      rw [step_of_cons agenda, agenda]
      simp [perform, act, fire, gone, less]
    · cases next
  · cases next

end Switchboard

namespace Run

open Switchboard

variable {event : Nat}

/-- No listener is called because of an event that was not fired. -/
theorem spoken_of_unknown (run : Run) (unknown : run.board.events.length ≤ event) :
    run.board.spoken event = [] := by
  induction run using Run.induction with
  | start arrange fair => rfl
  | step run move inductionHypothesis =>
      rw [board_step] at unknown ⊢
      have before : run.board.events.length ≤ event :=
        Nat.le_trans (run.board.move_grows run.arrange move).2.length_le unknown
      rw [move_spoken _ _ fun known => absurd unknown (Nat.not_le_of_lt known)]
      exact inductionHypothesis before

/-- What was called because of an event and what is due because of it are the same together,
whatever is done meanwhile. -/
theorem spoken_extend (run : Run) (known : event < run.board.events.length) (more : List Move) :
    (run.extend more).board.spoken event = run.board.spoken event := by
  induction more generalizing run with
  | nil => rw [extend_nil]
  | cons move rest inductionHypothesis =>
      have later : event < (run.step move).board.events.length := by
        rw [board_step]
        exact Nat.lt_of_lt_of_le known (run.board.move_grows run.arrange move).2.length_le
      rw [extend_cons, inductionHypothesis _ later, board_step, move_spoken _ _ fun _ => known]

/-- When no call is due, all were made, and that stays so. -/
theorem due_extend (run : Run) (known : event < run.board.events.length)
    (done : run.board.due event = []) (more : List Move) :
    (run.extend more).board.due event = [] := by
  induction more generalizing run with
  | nil => rwa [extend_nil]
  | cons move rest inductionHypothesis =>
      rw [extend_cons]
      have grows := run.board.move_grows run.arrange move
      have same := move_spoken run.arrange move fun _ => known
      apply inductionHypothesis
      · rw [board_step]
        exact Nat.lt_of_lt_of_le known grows.2.length_le
      · rw [board_step]
        -- The calls that were made are still there, and there were no others.
        rcases grows.1 with ⟨happened, history⟩
        rw [spoken, spoken, done, List.append_nil, calls, calls, ← history,
          List.filterMap_append, List.append_assoc] at same
        have nothing := List.self_eq_append_right.mp same.symm
        exact (List.append_eq_nil_iff.mp nothing).2

/-- As long as calls are due because of an event, they stand before all that was not put off by
those who are called. -/
theorem agenda_extend (run : Run) {inner rest : List Task}
    (agenda : run.board.agenda = inner ++ rest) (known : event < run.board.events.length)
    (elsewhere : rest.filterMap (·.called? event) = []) (more : List Move) :
    (∃ inner', (run.extend more).board.agenda = inner' ++ (rest ++ more.filterMap Move.asked?)) ∨
      (run.extend more).board.due event = [] := by
  induction more generalizing run inner rest with
  | nil =>
      rw [extend_nil]
      exact Or.inl ⟨inner, by rw [agenda, List.filterMap_nil, List.append_nil]⟩
  | cons move moves inductionHypothesis =>
      have later : event < (run.step move).board.events.length := by
        rw [board_step]
        exact Nat.lt_of_lt_of_le known (run.board.move_grows run.arrange move).2.length_le
      rw [extend_cons]
      cases move with
      | ask action =>
          have next : (run.step (.ask action)).board.agenda =
              inner ++ (rest ++ [.act action 0]) := by
            rw [board_step, Switchboard.move, agenda, List.append_assoc]
          have outside : (rest ++ [Task.act action 0]).filterMap (·.called? event) = [] := by
            rw [List.filterMap_append, elsewhere]
            rfl
          rcases inductionHypothesis _ next later outside with ⟨inner', standing⟩ | done
          · refine Or.inl ⟨inner', ?_⟩
            rw [standing, List.append_assoc]
            rfl
          · exact Or.inr done
      | giveUp =>
          have next : (run.step .giveUp).board.agenda =
              (run.board.table.map (fun entry => .release entry.2) ++ inner) ++ rest := by
            rw [board_step, Switchboard.move, dropAll, push, agenda, List.append_assoc]
          exact inductionHypothesis _ next later elsewhere
      | work =>
          cases inner with
          | nil =>
              -- The tasks that are left are none of the event's.
              refine Or.inr (due_extend _ later ?_ moves)
              have before : run.board.due event = [] := by
                rw [due, agenda]
                exact elsewhere
              have after := due_extend run known before [.work]
              exact after
          | cons task inner =>
              rcases (step_performs run.arrange agenda).agenda with ⟨tasks, stepped⟩
              have next : (run.step .work).board.agenda = (tasks ++ inner) ++ rest := by
                rw [board_step, Switchboard.move, stepped, List.append_assoc]
                rfl
              exact inductionHypothesis _ next later elsewhere

/-- Firing a value, if there is an emitter, puts the calls of all who are registered before the rest
of the agenda, and no call of this event was there before. -/
theorem step_of_fire (run : Run) {value : Int} (next : run.board.nextValue? = some value)
    {e : Emitter Listener} (there : run.board.emitter = some e) :
    ∃ reached : List (Nat × Listener), reached.Perm e.registrations ∧
      (run.step .work).board.events.length = run.board.events.length + 1 ∧
      (run.step .work).board.agenda =
        reached.map (fun r => .call run.board.events.length r.1 r.2 value) ++
          run.board.agenda.tail ∧
      run.board.agenda.tail.filterMap (·.called? run.board.events.length) = [] ∧
      (run.step .work).board.spoken run.board.events.length = reached.map (Called.of value) := by
  have fired := step_of_nextValue run.arrange next there
  have unspoken := run.spoken_of_unknown (Nat.le_refl run.board.events.length)
  rcases List.append_eq_nil_iff.mp unspoken with ⟨uncalled, undue⟩
  have elsewhere : run.board.agenda.tail.filterMap (·.called? run.board.events.length) = [] := by
    apply List.filterMap_eq_nil_iff.mpr
    intro task member
    exact List.filterMap_eq_nil_iff.mp undue task (List.mem_of_mem_tail member)
  refine ⟨run.arrange run.board.events.length e.registrations, run.fair _ _, ?_, ?_, elsewhere, ?_⟩
  · rw [board_step, Switchboard.move, fired, List.length_append, List.length_singleton]
  · rw [board_step, Switchboard.move, fired]
  · have due := filterMap_called?_calls (run.arrange run.board.events.length e.registrations) value
      run.board.events.length run.board.events.length
    rw [if_pos rfl] at due
    have called : (run.board.step run.arrange).calls run.board.events.length = [] := by
      rw [fired]
      exact uncalled
    rw [board_step, Switchboard.move, spoken, called, List.nil_append, fired, Switchboard.due,
      List.filterMap_append, due, elsewhere, List.append_nil]

/-- An event reaches everyone once who is registered when it is fired, and nobody else: not those
who are registered later, and also those whose registrations are taken back before they are called.
What those who are called do does not matter, be it that they fire again; and the fire ends, unless
events are fired for ever.  Without an emitter nothing happens. -/
theorem events_reach_who_is_registered (run : Run) {value : Int}
    (next : run.board.nextValue? = some value) :
    (run.board.emitter = none →
      (run.step .work).board = { run.board with agenda := run.board.agenda.tail }) ∧
    ∀ e, run.board.emitter = some e →
      ∃ reached : List (Nat × Listener),
        -- Everyone is reached once who is registered.
        reached.Perm e.registrations ∧ (reached.map Prod.fst).Nodup ∧
        -- At any time some were called and the others will be,
        (∀ more,
          ((run.step .work).extend more).board.calls run.board.events.length ++
              ((run.step .work).extend more).board.due run.board.events.length =
            reached.map (Called.of value) ∧
          -- all of them when nothing is left that the fire put on the agenda,
          (((run.step .work).extend more).board.agenda.length ≤
              run.board.agenda.tail.length + (more.filterMap Move.asked?).length →
            ((run.step .work).extend more).board.calls run.board.events.length =
              reached.map (Called.of value)) ∧
          -- and nobody who was not registered then.
          ∀ e', ((run.step .work).extend more).board.emitter = some e' →
            ∀ r ∈ e'.registrations, r ∉ e.registrations →
              ∀ call ∈ ((run.step .work).extend more).board.calls run.board.events.length,
                call.registration ≠ r.1) ∧
        -- The fire ends if no more than so many events are fired.
        ∀ bound,
          (∀ n, ((run.step .work).extend (List.replicate n .work)).board.events.length ≤ bound) →
          ∃ n,
            ((run.step .work).extend (List.replicate n .work)).board.agenda =
              run.board.agenda.tail ∧
            ((run.step .work).extend (List.replicate n .work)).board.calls run.board.events.length =
              reached.map (Called.of value) := by
  constructor
  · intro gone
    rw [board_step]
    exact step_of_nextValue_of_none next gone
  · intro e there
    rcases run.step_of_fire next there with ⟨reached, perm, fired, agenda, elsewhere, spoken⟩
    have known : run.board.events.length < (run.step .work).board.events.length := by
      rw [fired]
      exact Nat.lt_succ_self _
    have numbered := run.numbered e there
    have together (more : List Move) :
        ((run.step .work).extend more).board.calls run.board.events.length ++
            ((run.step .work).extend more).board.due run.board.events.length =
          reached.map (Called.of value) :=
      (spoken_extend _ known more).trans spoken
    have spent (more : List Move)
        (few : ((run.step .work).extend more).board.agenda.length ≤
          run.board.agenda.tail.length + (more.filterMap Move.asked?).length) :
        ((run.step .work).extend more).board.calls run.board.events.length =
          reached.map (Called.of value) := by
      have done : ((run.step .work).extend more).board.due run.board.events.length = [] := by
        rcases agenda_extend _ agenda known elsewhere more with ⟨inner, standing⟩ | done
        · rw [standing, List.length_append, List.length_append] at few
          have nothing : inner = [] := List.eq_nil_of_length_eq_zero (by omega)
          have asked : (more.filterMap Move.asked?).filterMap
              (·.called? run.board.events.length) = [] := by
            apply List.filterMap_eq_nil_iff.mpr
            intro task member
            rcases List.mem_filterMap.mp member with ⟨move, _, same⟩
            cases move <;> cases same
            rfl
          rw [Switchboard.due, standing, nothing, List.nil_append, List.filterMap_append, elsewhere,
            asked, List.append_nil]
        · exact done
      rw [← together more, done, List.append_nil]
    refine ⟨reached, perm, ?_, ?_, ?_⟩
    · exact (perm.map Prod.fst).nodup_iff.mpr numbered.once
    · intro more
      refine ⟨together more, spent more, ?_⟩
      intro e' there' r member new call made same
      -- Who is new has a number that was not given out when the event was fired.
      have since := run.since there (.work :: more) e' (by rwa [extend_cons])
      have among : call ∈ reached.map (Called.of value) := by
        rw [← together more]
        exact List.mem_append_left _ made
      rcases List.mem_map.mp among with ⟨r', reached', rfl⟩
      have old : r'.1 < e.next := numbered.given r' (perm.mem_iff.mp reached')
      have later := (since.registered r member).resolve_left new
      have same : r'.1 = r.1 := same
      omega
    · intro bound bounded
      simp only [board_works] at bounded
      rcases work_returns agenda bounded with ⟨n, returned⟩
      rw [← board_works] at returned
      refine ⟨n, returned, spent _ ?_⟩
      rw [returned]
      exact Nat.le_add_right _ _

/-- A listener with two registrations is about to be called.  It takes the first of them back, adds
another listener, fires again up to three, and gives the emitter up. -/
def reentrant : Run where
  moves :=
    [.ask (.subscribe "a" ["x", "y"]
        [.dispose "x", .subscribe "b" ["z"] [], .fireNext 3, .dropEmitter]),
      .work, .work, .work, .ask (.fire 1)]

/-- It is called once under each of its registrations, and the other listener is not. -/
theorem reentrant_reached :
    reentrant.board.nextValue? = some 1 ∧
      let later := ((reentrant.step .work).extend (List.replicate 40 .work)).board
      later.events.length = 3 ∧
        (later.calls 0).Perm [⟨1, "a", 1⟩, ⟨2, "a", 1⟩] := by
  have next : reentrant.board.nextValue? = some 1 := by decide +kernel
  refine ⟨next, by decide +kernel, ?_⟩
  have there : reentrant.board.emitter.isSome := by decide +kernel
  rcases Option.isSome_iff_exists.mp there with ⟨e, there⟩
  rcases (events_reach_who_is_registered reentrant next).2 e there with
    ⟨reached, perm, _, always, _⟩
  have called := (always (List.replicate 40 .work)).2.1 (by decide +kernel)
  have registered : (reentrant.board.emitter.map fun e =>
      e.registrations.map (Called.of 1)) = some [⟨1, "a", 1⟩, ⟨2, "a", 1⟩] := by
    decide +kernel
  rw [there, Option.map_some, Option.some.injEq] at registered
  rw [← registered]
  show (((reentrant.step .work).extend (List.replicate 40 .work)).board.calls
    reentrant.board.events.length).Perm _
  rw [called]
  exact perm.map _

end Run
end Event
end Workbench
