import Workbench.Proofs.Terminal.Agreement
import Workbench.Proofs.Terminal.Closing
import Workbench.Proofs.Terminal.SingleFlight

namespace Workbench
namespace Terminal

/-!
# Disposal is final

Nothing brings a disposed service back.  A creation that was under way goes on without it: a
terminal that the host still hands out for it is disposed at once, no environment is prepared in it,
and whoever waits gets an error.  New calls are refused, and the service hears of no closed terminal
any more, even if the report was already under way when it was disposed.
-/

namespace World

variable {w w' : World} {service generation : Nat}

/-- A service is disposed and not registered any more, and disposing it again changes nothing. -/
structure Gone (w : World) (service : Nat) : Prop where
  phase : w.phase? service = some .disposed
  unregistered : service ∉ w.host.closeListeners
  again : w.dispose service = w

theorem Registered.gone (registered : w.Registered)
    (disposed : w.phase? service = some .disposed) : w.Gone service where
  phase := disposed
  unregistered := by
    intro listening
    rcases registered.exists_of_mem listening with ⟨s, found, _, standing⟩
    rw [phase?, session?, found, Option.map_some, Option.map_some,
      Service.phase_session] at disposed
    exact standing (Option.some.inj disposed)
  again := dispose_of_disposed registered disposed

theorem dispose_phase {s : Service} (found : w.services[service]? = some s) :
    (w.dispose service).phase? service = some .disposed :=
  phase?_eq (dispose_disposes found).replaces.after

theorem held?_of_disposed (disposed : w.phase? service = some .disposed) :
    w.held? service = none := by
  rcases exists_session_of_phase disposed with ⟨s, found, phase⟩
  rw [held?_eq found, phase]
  rfl

theorem not_current_of_disposed (disposed : w.phase? service = some .disposed) :
    ¬ w.Current service generation := by
  rintro ⟨slot, creating⟩
  rw [disposed] at creating
  cases creating

/-- Nobody finds a disposed service without a terminal. -/
theorem findsIdle?_ne_of_disposed (disposed : w.phase? service = some .disposed)
    (action : Action) : w.findsIdle? action ≠ some service := by
  intro finds
  rcases findsIdle?_eq_some_iff.mp finds with ⟨_, _, _, _, _, _, _, idle⟩
  rw [disposed] at idle
  cases idle

theorem not_awaitsAt_of_disposed (disposed : w.phase? service = some .disposed)
    (action : Action) : ¬ w.AwaitsAt action service generation := by
  rintro (current | ⟨finds, _⟩)
  · exact not_current_of_disposed disposed current
  · exact findsIdle?_ne_of_disposed disposed action finds

theorem Meets.disposed {action : Action} (meets : Meets service w action w')
    (disposed : w.phase? service = some .disposed) : w'.phase? service = some .disposed := by
  cases meets with
  | apart _ same => rwa [World.phase?, same]
  | attends turn about attends =>
      subst turn about
      rwa [(attends.stale (not_awaitsAt_of_disposed disposed _)).2.1]
  | made _ absent =>
      rw [World.phase?, absent] at disposed
      cases disposed
  | vacated _ before after why =>
      rcases why with rfl | ⟨_, terminal, _, _, held⟩
      · exact phase?_eq after
      · rw [held?_of_disposed disposed] at held
        cases held

/-! ## Creations of a disposed service -/

/-- What a creation does for which its service does not wait: no environment is prepared, and a
terminal that the host hands out is disposed and has no other use. -/
structure Discards (service generation : Nat) (w w' : World) : Prop where
  activations : w'.activator.activations = w.activator.activations
  requests : w'.host.requests = w.host.requests
  late : ∀ {terminal}, w'.terminal? service generation = some terminal →
    w.terminal? service generation = some terminal ∨
      w'.uses terminal = [.disposed] ∧
        ∃ error, w'.outcome? service generation = some (.error error)

theorem terminal?_revised {s s' : Service} {creation creation' : Creation}
    (replaces : Replaces w w' service s s')
    (revision : Service.Revision s s' generation creation creation') :
    w.terminal? service generation = creation.terminal ∧
      w'.terminal? service generation = creation'.terminal := by
  rw [terminal?_eq replaces.before, terminal?_eq replaces.after, Service.terminal?,
    Service.terminal?, revision.old, revision.new]
  exact ⟨rfl, rfl⟩

theorem Advances.discards (advances : Advances service generation w w')
    (stale : ¬ w.Current service generation) : Discards service generation w w' := by
  rcases (advances.stale stale).2 with ⟨error, settled⟩
  have requests := advances.confined.requests
  rcases advances with ⟨s, s', creation, creation', effect, replaces, revision, stretch, affects⟩
  rw [current_iff replaces.before, Bool.not_eq_true] at stale
  rcases terminal?_revised replaces revision with ⟨before, after⟩
  have begun := affects.activations
  have record := affects.terminals
  have unchanged (same : creation'.terminal = creation.terminal) {terminal : Nat}
      (handed : w'.terminal? service generation = some terminal) :
      w.terminal? service generation = some terminal := by
    rw [before, ← same, ← after, handed]
  generalize s'.phase = phase' at stretch
  cases stretch with
  | refused | prepared | failed | failedLate =>
      exact ⟨begun, requests, fun handed => Or.inl (unchanged rfl handed)⟩
  | lost hosting discarded =>
      refine ⟨begun, requests, fun {terminal} handed => Or.inr ⟨?_, error, settled⟩⟩
      rw [after] at handed
      cases handed
      rw [uses, record_arrival_self record]
      rfl
  | handed hosting recorded due =>
      rw [(Phase.record?_eq_some_iff.mp recorded).1] at stale
      cases stale

theorem Progress.discards (progress : Progress service generation w w')
    (stale : ¬ w.Current service generation) : Discards service generation w w' := by
  rcases Relation.ReflTransGen.cases_head progress with same | ⟨middle, advances, rest⟩
  · subst same
    exact ⟨rfl, rfl, Or.inl⟩
  · rcases (advances.stale stale).2 with ⟨_, settled⟩
    rw [Progress.eq_of_settled rest settled]
    exact advances.discards stale

/-- A call that arrives at a creation of a disposed service waits for it already. -/
theorem Arrives.of_disposed {call : Nat} {c : Call} (arrives : Arrives call c generation w w')
    (disposed : w.phase? c.service = some .disposed) : w' = w := by
  cases arrives with
  | again => rfl
  | joined fresh creating =>
      rw [disposed] at creating
      cases creating
  | first fresh same begins =>
      rw [phase?_eq begins.replaces.before, begins.idle] at disposed
      cases disposed

theorem Attends.discards {call : Nat} {c : Call} {w₁ w₂ : World}
    (attends : Attends call c generation w w₁ w₂ w')
    (disposed : w.phase? c.service = some .disposed) : Discards c.service generation w w' := by
  have arrived := attends.arrives.of_disposed disposed
  have progress := attends.progress
  rw [arrived] at progress
  have discards := Progress.discards progress (not_current_of_disposed disposed)
  cases attends.attended with
  | pending => exact discards
  | @answered _ outcome settled answers =>
      refine ⟨answers.activations.trans discards.activations,
        answers.requests.trans discards.requests, fun {terminal} handed => ?_⟩
      rw [terminal?, answers.sessions, ← terminal?] at handed
      rcases discards.late handed with before | ⟨alone, error, failed⟩
      · exact Or.inl before
      · refine Or.inr ⟨?_, error, by rw [answers.sessions.outcome?, failed]⟩
        -- Whoever is told that the creation failed does nothing with the terminal.
        rw [settled] at failed
        cases failed
        rw [uses_of_eq answers.terminals, alone]

/-! ## Actions -/

/-- An action that concerns a disposed service prepares no environment and asks the host for
nothing. -/
theorem Happens.idles {action : Action} (happens : Happens w action w')
    (disposed : w.phase? service = some .disposed) (actor : w.actor? action = some service) :
    w'.host.requests = w.host.requests ∧
      w'.activator.activations = w.activator.activations := by
  cases happens with
  | added | heard | unheard => cases actor
  | disposed disposes => exact ⟨disposes.requests, disposes.activations⟩
  | quiet _ _ quiet => exact ⟨quiet.requests, quiet.activations⟩
  | polled polled =>
      cases polled with
      | nothing => exact ⟨rfl, rfl⟩
      | abandoned _ _ _ ends => exact ⟨ends.requests, ends.activations⟩
      | served _ _ _ _ answers | refused _ _ _ _ answers =>
          exact ⟨answers.requests, answers.activations⟩
      | attended found wanted awaits arrives progress attended =>
          have about := actor
          rw [actor?, found, Option.map_some, Option.some.injEq] at about
          subst about
          have discards := Attends.discards
            ⟨found, wanted, awaits, arrives, progress, attended⟩ disposed
          exact ⟨discards.requests, discards.activations⟩

/-- Environments are prepared in the terminals of the service that an action concerns. -/
theorem Treats.activates (treats : Treats service w w') {terminal : Nat}
    (activated : terminal ∈ w'.activated) :
    terminal ∈ w.activated ∨ ∃ generation, w'.terminal? service generation = some terminal := by
  cases treats with
  | keeps same | releases same =>
      rw [same.activated] at activated
      exact Or.inl activated
  | receives receipt =>
      rcases receipt.activated with same | more
      · rw [same] at activated
        exact Or.inl activated
      · rw [more, List.mem_append, List.mem_singleton] at activated
        refine activated.imp_right ?_
        rintro rfl
        exact ⟨_, terminal?_eq_some_iff.mpr ⟨_, receipt.handed⟩⟩

theorem Changes.activates (changes : Changes service w w') {terminal : Nat}
    (activated : terminal ∈ w'.activated) :
    terminal ∈ w.activated ∨ ∃ generation, w'.terminal? service generation = some terminal := by
  induction changes with
  | refl => exact Or.inl activated
  | tail _ change inductionHypothesis =>
      rcases change.1.activates activated with before | owned
      · refine (inductionHypothesis before).imp_right ?_
        rintro ⟨generation, handed⟩
        exact ⟨generation, change.1.terminal? handed⟩
      · exact Or.inr owned

/-- A terminal that the host hands out to a disposed service is disposed in the same turn. -/
theorem Affair.late {action : Action} (affair : Affair w action w') (sound : w.Sound)
    (disposed : w.phase? service = some .disposed) {terminal : Nat}
    (handed : w'.Handed service terminal) :
    w.Handed service terminal ∨ w'.uses terminal = [.disposed] := by
  rcases handed with ⟨generation, handed⟩
  have kept (same : w'.creation? service generation = w.creation? service generation) :
      w.Handed service terminal := by
    rcases terminal?_eq_some_iff.mp handed with ⟨options, order⟩
    rw [order?, same] at order
    exact ⟨generation, terminal?_eq_some_iff.mpr ⟨options, order⟩⟩
  rcases affair.attends_or_keeps with ⟨call, c, number, w₁, w₂, _, attends⟩ | keeps
  · by_cases here : service = c.service ∧ generation = number
    · rcases here with ⟨rfl, rfl⟩
      rcases (attends.discards disposed).late handed with before | ⟨alone, _⟩
      · exact Or.inl ⟨generation, before⟩
      · exact Or.inr alone
    · exact Or.inl (kept ((attends.spares sound).creation? here))
  · exact Or.inl (kept (keeps service generation))

/-- A disposed service refuses a call that has its first turn. -/
theorem Polled.refuses {call : Nat} {c : Call} (polled : Polled call w w')
    (found : w.calls[call]? = some c) (fresh : c.state = .fresh) (wanted : c.cancelled = false)
    (disposed : w.phase? c.service = some .disposed) :
    w'.calls[call]? = some { c with state := .finished (.error .terminalDisposed) } := by
  rcases (polled.verdict found).1 with ⟨state, after, verdict⟩
  rw [after]
  cases polled with
  | nothing pointless =>
      rcases pointless c found with settled | ⟨_, absent⟩
      · rw [fresh] at settled
        cases settled
      · rw [phase?, absent] at disposed
        cases disposed
  | abandoned found' _ cancelled =>
      rw [found] at found'
      cases found'
      rw [wanted] at cancelled
      cases cancelled
  | served found' _ _ ready =>
      rw [found] at found'
      cases found'
      rw [disposed] at ready
      cases ready
  | refused found' _ _ _ answers =>
      rw [found] at found'
      cases found'
      rw [answers.call found] at after
      exact after.symm
  | attended found' _ awaits =>
      rw [found] at found'
      cases found'
      simp [awaited?, fresh, disposed] at awaits

end World

namespace Moment

/-- What a moment can still bring for a disposed service. -/
structure Spends (m : Moment) (service : Nat) : Prop where
  /-- No call begins a creation, and nothing is asked of the host or of the activator for it. -/
  unfound : m.finds? ≠ some service
  asks : m.before.actor? m.action = some service →
    m.after.host.requests = m.before.host.requests ∧
      m.after.activator.activations = m.before.activator.activations
  /-- Nor does anybody else begin to prepare an environment in one of its terminals. -/
  inactive : ∀ terminal, m.after.Handed service terminal → terminal ∈ m.after.activated →
    terminal ∈ m.before.activated
  /-- A call that has its first turn is refused. -/
  refuses : ∀ (call : Nat) (c : Call), m.action = .poll call → m.before.calls[call]? = some c →
    c.service = service → c.state = .fresh → c.cancelled = false →
      m.after.calls[call]? = some { c with state := .finished (.error .terminalDisposed) }
  /-- A creation ends with an error. -/
  settles : ∀ generation outcome, m.Settles service generation outcome →
    ∃ error, outcome = .error error
  /-- A terminal that is handed out is disposed at once. -/
  late : ∀ terminal, m.after.Handed service terminal →
    m.before.Handed service terminal ∨ m.after.uses terminal = [.disposed]
  /-- Nobody is notified. -/
  silent : ∀ (listener : Nat) (l : CloseListener), m.before.listeners[listener]? = some l →
    l.service = service → ∃ l', m.after.listeners[listener]? = some l' ∧ l'.fired = l.fired

end Moment

namespace Run

theorem exists_of_mem_since {run : Run} {more : List Action} {m : Moment}
    (member : m ∈ run.since more) :
    ∃ first last, m.before = (run.extend first).world ∧ more = first ++ m.action :: last := by
  induction more generalizing run with
  | nil => cases member
  | cons action rest inductionHypothesis =>
      rw [since_cons] at member
      rcases List.mem_cons.mp member with rfl | later
      · exact ⟨[], rest, by rw [extend_nil], rfl⟩
      · rcases inductionHypothesis later with ⟨first, last, before, split⟩
        exact ⟨action :: first, last, by rw [extend_cons, before], by rw [split, List.cons_append]⟩

/-- A disposed service stays disposed. -/
theorem disposed_extend (run : Run) {service : Nat}
    (disposed : run.world.phase? service = some .disposed) (more : List Action) :
    (run.extend more).world.phase? service = some .disposed := by
  induction more generalizing run with
  | nil => rwa [extend_nil]
  | cons action rest inductionHypothesis =>
      rw [extend_cons]
      exact inductionHypothesis (run.step action) ((run.meets action service).disposed disposed)

/-- Nobody begins to prepare an environment in a terminal of a disposed service. -/
theorem activated_of_disposed (run : Run) {service terminal : Nat} {action : Action}
    (disposed : run.world.phase? service = some .disposed)
    (handed : (run.step action).world.Handed service terminal)
    (activated : terminal ∈ (run.step action).world.activated) :
    terminal ∈ run.world.activated := by
  rcases handed with ⟨generation, given⟩
  have ledger := (run.step action).ledger
  rw [world_step] at given activated ledger
  rcases changes_or_hears run.sound run.ledger action with ⟨_, changes⟩ | ⟨_, _, s, _, hears⟩
  · cases actor : run.world.actor? action with
    | none =>
        -- Such an action changes no service, so it does not change any other one either.
        have elsewhere := changes (service + 1) (by rw [actor]; exact nofun)
        rcases elsewhere.activates activated with before | ⟨number, given'⟩
        · exact before
        · exact absurd (ledger.distinct given given').1 (Nat.succ_ne_self service).symm
    | some acting =>
        have owned := changes acting (by
          rw [actor]
          exact fun _ same => (Option.some.inj same).symm)
        rcases owned.activates activated with before | ⟨number, given'⟩
        · exact before
        · rw [← (ledger.distinct given given').1] at actor
          have idles := ((run.happens action).idles disposed actor).2
          rwa [World.activated, idles] at activated
  · rwa [World.activated, hears.activations] at activated

/-- A disposed service has nothing left to do in the next moment. -/
theorem spends (run : Run) {service : Nat} (disposed : run.world.phase? service = some .disposed)
    (action : Action) : Moment.Spends ⟨run.world, action⟩ service := by
  have happens := run.happens action
  have lawful := run.lawful action
  refine
    { unfound := World.findsIdle?_ne_of_disposed disposed action
      asks := fun actor => happens.idles disposed actor
      inactive := fun terminal handed activated => ?_
      refuses := ?_
      settles := fun generation outcome settles => ?_
      late := fun terminal handed => happens.affair.late run.sound disposed handed
      silent := fun listener l found about => ?_ }
  · have after : Moment.after ⟨run.world, action⟩ = (run.step action).world :=
      (world_step run action).symm
    rw [after] at handed activated
    exact run.activated_of_disposed disposed handed activated
  · rintro call c rfl found rfl fresh wanted
    exact happens.turn.refuses found fresh wanted disposed
  · cases settles.concludes lawful with
    | usable awaits | failed awaits =>
        exact absurd awaits (World.not_awaitsAt_of_disposed disposed action)
    | stale => exact ⟨_, rfl⟩
  · rcases Moment.exists_notifies run.registered (run.ledger.holder run.sound) found with
      ⟨l', notifies⟩
    refine ⟨l', notifies.after, notifies.silent (Or.inr fun terminal closes => ?_)⟩
    rcases (Moment.closesHeld_iff run.registered).mp closes with ⟨_, _, held⟩
    rw [about, World.held?_of_disposed disposed] at held
    cases held

/-- A creation that was not over when its service was disposed never ends well. -/
theorem outcome?_extend_of_disposed (run : Run) {service generation : Nat}
    (disposed : run.world.phase? service = some .disposed)
    (unsettled : ∀ active, run.world.outcome? service generation ≠ some (.ok active))
    (more : List Action) (active : Active) :
    (run.extend more).world.outcome? service generation ≠ some (.ok active) := by
  induction more generalizing run with
  | nil => rw [extend_nil]; exact unsettled active
  | cons action rest inductionHypothesis =>
      rw [extend_cons]
      refine inductionHypothesis (run.step action)
        ((run.meets action service).disposed disposed) fun active settled => ?_
      cases before : run.world.outcome? service generation with
      | some outcome =>
          have later := (run.affair action).outcome? run.sound before
          rw [settled] at later
          cases later
          exact unsettled active before
      | none =>
          rw [world_step] at settled
          rcases (run.spends disposed action).settles generation _ ⟨before, settled⟩ with
            ⟨_, wrong⟩
          cases wrong

/-- In every run a service that is disposed, whatever its phase was, by itself or by a listener that
hears of its closed terminal, is disposed for good: it is not registered at the host any more, being
disposed again changes nothing, and nor does a report of a closed terminal that was already under
way.  At every later moment no creation is begun for it, nothing is asked of the host or of the
activator, new calls are refused, a terminal that is handed out late is disposed at once, its
listeners are not notified, and its creations end with errors, so that a call which waited for one
of them when the service was disposed never returns without an error. -/
theorem disposal_is_final (run : Run) (service : Nat) :
    (∀ s, run.world.services[service]? = some s →
      (run.world.dispose service).phase? service = some .disposed) ∧
    (∀ terminal, Moment.ClosesHeld ⟨run.world, .close terminal⟩ service terminal →
      ∀ l ∈ run.world.listeners, l.service = service → l.active = true → l.reaction = .dispose →
        (run.world.close terminal).phase? service = some .disposed) ∧
    (∀ w : World, w.phase? service = some .disposed → ∀ terminal,
      w.hearClosed service terminal = w) ∧
    (run.world.phase? service = some .disposed → ∀ more : List Action,
      (run.extend more).world.Gone service ∧
      (∀ m ∈ run.since more, m.Spends service) ∧
      ∀ (call : Nat) (c : Call) (generation place : Nat), run.world.calls[call]? = some c →
        c.service = service → c.state = .waiting generation place →
        run.world.outcome? service generation = none →
        ∃ c', (run.extend more).world.calls[call]? = some c' ∧
          c'.state ≠ .finished (.ok ())) := by
  refine ⟨fun s found => World.dispose_phase found, ?_, ?_, fun disposed more => ⟨?_, ?_, ?_⟩⟩
  · intro terminal closes l member about active disposes
    have reports := closes.reports (m := ⟨run.world, .close terminal⟩) run.registered
      (run.ledger.holder run.sound)
    have phase := reports.phase
    rwa [if_pos ⟨l, member, about, active, disposes⟩] at phase
  · intro w disposed terminal
    refine World.hearClosed_of_not_held ?_
    rw [World.held?_of_disposed disposed]
    exact nofun
  · exact (run.extend more).registered.gone (run.disposed_extend disposed more)
  · intro m member
    rcases exists_of_mem_since member with ⟨first, _, before, _⟩
    have spends := (run.extend first).spends (run.disposed_extend disposed first) m.action
    rwa [← before] at spends
  · rintro call c generation place found rfl waiting unsettled
    rcases run.agrees_extend (Or.inl ⟨place, waiting⟩) found rfl more with ⟨c', found', agrees⟩
    refine ⟨c', found', fun fine => ?_⟩
    rcases agrees with ⟨_, waiting'⟩ | aborted | ⟨outcome, settled, finished⟩
    · rw [fine] at waiting'
      cases waiting'
    · rw [fine] at aborted
      cases aborted
    · rw [fine] at finished
      rcases Outcome.exists_of_result_ok (CallState.finished.inj finished).symm with ⟨active, rfl⟩
      refine run.outcome?_extend_of_disposed disposed ?_ more active settled
      rw [unsettled]
      exact nofun

end Run

end Terminal
end Workbench
