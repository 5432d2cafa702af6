import Workbench.Proofs.Terminal.Continuation
import Workbench.Proofs.Terminal.Executor

namespace Workbench
namespace Terminal

/-!
# Creations that nobody waits for

A creation goes on in the turns of the calls that attend it, and at no other time.  When all who
waited for it are to be ended, it stands still however much time passes: nothing is handed out or
prepared for it, its terminal is left alone unless its service is disposed, and it is as it was when
a call comes that had no turn yet.  As long as somebody waits for it, on the other hand, it does not
matter who: no call is left that could run but does not, and whoever has a turn continues the same
creation.
-/

namespace World

variable {w w' : World} {service generation : Nat}

/-- All calls that wait for a creation are to be ended. -/
def Forsaken (w : World) (service generation : Nat) : Prop :=
  ∀ {call place : Nat} {c : Call}, w.calls[call]? = some c → c.service = service →
    c.state = .waiting generation place → c.cancelled = true

/-- What is to be ended stays so. -/
theorem Happens.cancelled {action : Action} (happens : Happens w action w') {call : Nat}
    {c c' : Call} (found : w.calls[call]? = some c) (found' : w'.calls[call]? = some c')
    (ending : c.cancelled = true) : c'.cancelled = true := by
  cases happens with
  | added adds => exact (KeepsCalls.of_eq adds.calls).cancelled found found' ending
  | disposed disposes => exact (KeepsCalls.of_eq disposes.calls).cancelled found found' ending
  | heard _ _ hears => exact hears.calls.cancelled found found' ending
  | unheard => exact (KeepsCalls.of_eq rfl).cancelled found found' ending
  | quiet _ _ quiet => exact quiet.calls.cancelled found found' ending
  | @polled polledCall _ polled =>
      by_cases here : call = polledCall
      · subst here
        rcases (polled.verdict found).1 with ⟨state, after, _⟩
        cases after.symm.trans found'
        exact ending
      · rw [polled.others call here, found] at found'
        cases found'
        exact ending

/-- How the phase of a service can change. -/
theorem Happens.phase?_cases {action : Action} (happens : Happens w action w') (sound : w.Sound)
    {s : Service} (there : w.session? service = some s) :
    w'.phase? service = w.phase? service ∨ action = .dispose service ∨
      (∃ terminal, Moment.HearsClosed ⟨w, action⟩ service terminal) ∨
      ∃ (call : Nat) (c : Call) (number : Nat) (w₁ w₂ : World), action = .poll call ∧
        c.service = service ∧ Attends call c number w w₁ w₂ w' := by
  have others {other : Nat} (different : service ≠ other)
      (others : ∀ other', other' ≠ other → w'.session? other' = w.session? other') :
      w'.phase? service = w.phase? service := by
    rw [phase?, phase?, others service different]
  cases happens with
  | @added _ _ _ made _ adds =>
      by_cases here : service = made
      · rw [here, adds.absent] at there
        cases there
      · exact Or.inl (others here adds.others)
  | @disposed other _ _ disposes =>
      by_cases here : service = other
      · exact Or.inr (Or.inl (by rw [here]))
      · exact Or.inl (others here disposes.replaces.others)
  | @heard other terminal _ _ listening held hears =>
      rcases hears.replaces with ⟨_, _, replaces⟩
      by_cases here : service = other
      · subst here
        exact Or.inr (Or.inr (Or.inl ⟨terminal, rfl, listening, held⟩))
      · exact Or.inl (others here replaces.others)
  | unheard => exact Or.inl rfl
  | quiet _ _ quiet => exact Or.inl (quiet.sessions.phase? service)
  | @polled call _ polled =>
      cases polled with
      | nothing => exact Or.inl rfl
      | abandoned _ _ _ ends => exact Or.inl (ends.sessions.phase? service)
      | served _ _ _ _ answers | refused _ _ _ _ answers =>
          exact Or.inl (answers.sessions.phase? service)
      | @attended w₁ w₂ _ c number found wanted awaits arrives progress attended =>
          have attends : Attends call c number w w₁ w₂ w' :=
            ⟨found, wanted, awaits, arrives, progress, attended⟩
          by_cases here : service = c.service
          · exact Or.inr (Or.inr (Or.inr ⟨call, c, number, w₁, w₂, rfl, here.symm, attends⟩))
          · exact Or.inl (others here (attends.spares sound).others)

/-- No environment is prepared in a terminal that the host handed out before. -/
theorem Treats.activated_of_lt (treats : Treats service w w') {terminal : Nat}
    (inside : terminal < w.host.next) :
    terminal < w'.host.next ∧ (terminal ∈ w'.activated → terminal ∈ w.activated) := by
  cases treats with
  | keeps same | releases same =>
      exact ⟨by rwa [same.next], fun member => by rwa [← same.activated]⟩
  | receives receipt =>
      refine ⟨by rw [receipt.next]; omega, fun member => ?_⟩
      rcases receipt.activated with same | more
      · rwa [← same]
      · rw [more, List.mem_append, List.mem_singleton] at member
        exact member.resolve_right (Nat.ne_of_lt inside)

theorem Changes.activated_of_lt (changes : Changes service w w') {terminal : Nat}
    (inside : terminal < w.host.next) :
    terminal < w'.host.next ∧ (terminal ∈ w'.activated → terminal ∈ w.activated) := by
  induction changes with
  | refl => exact ⟨inside, id⟩
  | tail _ change inductionHypothesis =>
      rcases change.1.activated_of_lt inductionHypothesis.1 with ⟨inside', earlier⟩
      exact ⟨inside', fun member => inductionHypothesis.2 (earlier member)⟩

end World

namespace Moment

/-- Nothing comes of a creation. -/
structure LeavesAlone (m : Moment) (service generation : Nat) : Prop where
  unattended : ∀ call c, ¬ m.AttendedBy call c service generation
  /-- It stays as it is, and the host hands out no terminal for it. -/
  creation : m.after.creation? service generation = m.before.creation? service generation
  /-- Its service changes its phase only for another creation, when it is disposed, or when it hears
  that its terminal was closed. -/
  phase : m.after.phase? service = m.before.phase? service ∨ m.action = .dispose service ∨
    (∃ terminal, m.HearsClosed service terminal) ∨
    ¬ m.before.Current service generation ∧ ∃ call c number, number ≠ generation ∧
      m.AttendedBy call c service number
  /-- No environment is prepared in its terminal. -/
  inactive : ∀ terminal, m.after.terminal? service generation = some terminal →
    terminal ∈ m.after.activated → terminal ∈ m.before.activated
  /-- Its terminal is not used, but for its disposal together with its service. -/
  unused : ∀ terminal, m.after.terminal? service generation = some terminal →
    m.after.uses terminal = m.before.uses terminal ∨
      m.action = .dispose service ∧
        m.after.uses terminal = m.before.uses terminal ++ [.disposed]

theorem AttendedBy.of_attends {m : Moment} {call number : Nat} {c : Call} {w₁ w₂ : World}
    (turn : m.action = .poll call)
    (attends : World.Attends call c number m.before w₁ w₂ m.after) :
    m.AttendedBy call c c.service number :=
  ⟨turn, attends.found, attends.wanted, rfl, attends.awaits⟩

/-- A call that had no turn yet attends the creation for which its service waits. -/
theorem AttendedBy.of_current {w : World} {call service generation : Nat} {c : Call}
    (found : w.calls[call]? = some c) (fresh : c.state = .fresh) (wanted : c.cancelled = false)
    (about : c.service = service) (current : w.Current service generation) :
    AttendedBy ⟨w, .poll call⟩ call c service generation := by
  rcases current with ⟨slot, creating⟩
  refine ⟨rfl, found, wanted, about, ?_⟩
  simp only [World.awaited?, fresh, about, creating]

end Moment

namespace Run

variable {run : Run} {service generation : Nat}

theorem activated_of_lt (run : Run) {terminal : Nat} (inside : terminal < run.world.host.next)
    {action : Action} (activated : terminal ∈ (run.world.perform action).activated) :
    terminal ∈ run.world.activated := by
  rcases changes_or_hears run.sound run.ledger action with ⟨_, changes⟩ | ⟨_, _, _, _, hears⟩
  · refine (changes ((run.world.actor? action).getD 0) ?_).activated_of_lt inside |>.2 activated
    intro other concerned
    rw [concerned, Option.getD_some]
  · rwa [World.activated, hears.activations] at activated

/-- No call attends a creation in what follows that had no turn yet. -/
def Unjoined (run : Run) (service generation : Nat) (more : List Action) : Prop :=
  ∀ m ∈ run.since more, ∀ call c, m.AttendedBy call c service generation → c.state ≠ .fresh

/-- Nobody attends a creation that all are to leave. -/
theorem unattended_of_forsaken (forsaken : run.world.Forsaken service generation) {action : Action}
    (unjoined : ∀ call c, Moment.AttendedBy ⟨run.world, action⟩ call c service generation →
      c.state ≠ .fresh) (call : Nat) (c : Call) :
    ¬ Moment.AttendedBy ⟨run.world, action⟩ call c service generation := by
  intro attended
  have awaits := attended.awaits
  cases state : c.state with
  | fresh => exact unjoined call c attended state
  | waiting number place =>
      simp only [World.awaited?, state, Option.some.injEq] at awaits
      subst awaits
      have ending := forsaken attended.found attended.about state
      rw [attended.wanted] at ending
      cases ending
  | finished | aborted => simp [World.awaited?, state] at awaits

/-- A creation stays forsaken as long as nobody attends it. -/
theorem forsaken_step (forsaken : run.world.Forsaken service generation) {action : Action}
    (unattended : ∀ call c, ¬ Moment.AttendedBy ⟨run.world, action⟩ call c service generation) :
    (run.step action).world.Forsaken service generation := by
  intro call place c' found' about waiting
  rw [world_step] at found'
  have happens := run.happens action
  rcases happens.call found' with ⟨_, fresh⟩ | ⟨c, found, about', _, same | ⟨turn, verdict⟩⟩
  · rw [waiting] at fresh
    cases fresh
  · exact happens.cancelled found found' (forsaken found (about'.symm.trans about)
      (same.symm.trans waiting))
  · rw [about'] at about
    rw [waiting] at verdict
    generalize after : CallState.waiting generation place = state at verdict
    cases verdict with
    | unchanged => exact happens.cancelled found found' (forsaken found about after.symm)
    | aborted | served | refused | answered => cases after
    | waiting attends =>
        cases after
        have attended := Moment.AttendedBy.of_attends (m := ⟨run.world, action⟩) turn attends
        rw [about] at attended
        exact absurd attended (unattended call c)

/-! ## A creation that nobody attends -/

section Unattended

variable (run) {action : Action}
  (unattended : ∀ call c, ¬ Moment.AttendedBy ⟨run.world, action⟩ call c service generation)

include unattended

theorem ne_of_attends {call number : Nat} {c : Call} {w₁ w₂ : World} (turn : action = .poll call)
    (attends : World.Attends call c number run.world w₁ w₂ (run.world.perform action)) :
    ¬ (service = c.service ∧ generation = number) := by
  rintro ⟨rfl, rfl⟩
  exact unattended call c (.of_attends (m := ⟨run.world, action⟩) turn attends)

theorem creation?_of_unattended : (run.world.perform action).creation? service generation =
    run.world.creation? service generation := by
  rcases (run.happens action).affair.attends_or_keeps with
    ⟨call, c, number, w₁, w₂, turn, attends⟩ | keeps
  · exact (attends.spares run.sound).creation? (run.ne_of_attends unattended turn attends)
  · exact keeps service generation

theorem phase?_of_unattended {creation : Creation}
    (there : run.world.creation? service generation = some creation) :
    (run.world.perform action).phase? service = run.world.phase? service ∨
      action = .dispose service ∨
      (∃ terminal, Moment.HearsClosed ⟨run.world, action⟩ service terminal) ∨
      ¬ run.world.Current service generation ∧ ∃ call c number, number ≠ generation ∧
        Moment.AttendedBy ⟨run.world, action⟩ call c service number := by
  rcases Option.bind_eq_some_iff.mp there with ⟨s, found, _⟩
  rcases (run.happens action).phase?_cases run.sound found with
    kept | disposal | heard | ⟨call, c, number, w₁, w₂, turn, rfl, attends⟩
  · exact Or.inl kept
  · exact Or.inr (Or.inl disposal)
  · exact Or.inr (Or.inr (Or.inl heard))
  · have different : number ≠ generation := fun same =>
      run.ne_of_attends unattended turn attends ⟨rfl, same.symm⟩
    by_cases current : run.world.Current c.service generation
    · -- Its service waits for this creation, so that it takes nothing from another one.
      refine Or.inl (attends.stale ?_).2.1
      rintro (other | ⟨finds, _⟩)
      · exact different ((other.latest run.sound).1.trans (current.latest run.sound).1.symm)
      · rcases World.findsIdle?_eq_some_iff.mp finds with ⟨_, _, _, _, _, _, _, idle⟩
        rcases current with ⟨slot, creating⟩
        rw [creating] at idle
        cases idle
    · exact Or.inr (Or.inr (Or.inr ⟨current, call, c, number, different,
        .of_attends (m := ⟨run.world, action⟩) turn attends⟩))

theorem uses_of_unattended (unsettled : run.world.outcome? service generation = none)
    {terminal : Nat} (handed : run.world.terminal? service generation = some terminal) :
    (run.world.perform action).uses terminal = run.world.uses terminal ∨
      action = .dispose service ∧ (run.world.perform action).uses terminal =
        run.world.uses terminal ++ [.disposed] := by
  have inside := run.ledger.within handed
  cases (run.happens action).touches terminal with
  | unused same => exact Or.inl same
  | disposed disposal held uses =>
      cases (run.ledger.distinct (run.sound.held held) handed).1
      exact Or.inr ⟨disposal, uses inside⟩
  | @served other active ready same =>
      -- What is in use is the terminal of a creation that is over.
      have settled := World.outcome?_of_ready run.sound ready
      have own := (World.completed_of_ok run.sound settled).2
      rw [same] at own
      rcases run.ledger.distinct own handed with ⟨rfl, rfl⟩
      rw [unsettled] at settled
      cases settled
  | attended attended =>
      rcases attended with ⟨call, c, number, w₁, w₂, turn, attends⟩
      refine Or.inl (attends.uses_of_ne run.sound inside fun given => ?_)
      have handed' := terminal?_step handed action
      rw [← world_step] at given
      exact run.ne_of_attends unattended turn attends
        ((run.step action).ledger.distinct handed' given)

/-- What a moment does to a creation that nobody attends and that is not over. -/
theorem leavesAlone {creation : Creation}
    (there : run.world.creation? service generation = some creation)
    (unsettled : run.world.outcome? service generation = none) :
    Moment.LeavesAlone ⟨run.world, action⟩ service generation := by
  have same := run.creation?_of_unattended unattended
  have given {terminal : Nat}
      (handed : (run.world.perform action).terminal? service generation = some terminal) :
      run.world.terminal? service generation = some terminal := by
    rcases World.terminal?_eq_some_iff.mp handed with ⟨options, order⟩
    rw [World.order?, same] at order
    exact World.terminal?_eq_some_iff.mpr ⟨options, order⟩
  exact
    { unattended
      creation := same
      phase := run.phase?_of_unattended unattended there
      inactive := fun terminal handed =>
        run.activated_of_lt (run.ledger.within (given handed))
      unused := fun terminal handed =>
        run.uses_of_unattended unattended unsettled (given handed) }

end Unattended

/-- A creation that is forsaken stands still until a call attends it that had no turn yet. -/
theorem stands_still (run : Run) {creation : Creation}
    (there : run.world.creation? service generation = some creation)
    (unsettled : run.world.outcome? service generation = none)
    (forsaken : run.world.Forsaken service generation) {more : List Action}
    (unjoined : run.Unjoined service generation more) :
    (∀ m ∈ run.since more, m.LeavesAlone service generation) ∧
      (run.extend more).world.creation? service generation = some creation := by
  induction more generalizing run with
  | nil => exact ⟨List.forall_mem_nil _, by rwa [extend_nil]⟩
  | cons action rest inductionHypothesis =>
      rw [Unjoined, since_cons, List.forall_mem_cons] at unjoined
      have unattended := unattended_of_forsaken forsaken unjoined.1
      have alone := run.leavesAlone unattended there unsettled
      have same : (run.step action).world.creation? service generation =
          run.world.creation? service generation := by
        rw [world_step]
        exact alone.creation
      have unsettled' : (run.step action).world.outcome? service generation = none := by
        rw [World.outcome?_eq_none_iff, same, ← World.outcome?_eq_none_iff]
        exact unsettled
      rcases inductionHypothesis (run.step action) (same.trans there) unsettled'
        (forsaken_step forsaken unattended) unjoined.2 with ⟨later, last⟩
      rw [since_cons, List.forall_mem_cons, extend_cons]
      exact ⟨⟨alone, later⟩, last⟩

/-- Progress depends only on there being someone who waits, whoever that is.

In an orderly run in which nothing that could run is left, every call that is not over waits for a
creation that waits for the host or the activator, whose time has not come, no matter which calls
were ended; and the executor gets to such a state by its own actions whenever it does its work.

A creation has the focus preference of the call that began it, and every call that attends it
continues it.  If all who waited for it are to be ended before it is over, nothing comes of it as
long as no call attends it that had no turn yet; a call that does so later, while the service still
waits for it, continues the creation as it was left. -/
theorem progress_needs_only_a_waiter (run : Run) :
    ((run.Orderly → run.world.Settled → ∀ (call : Nat) (c : Call),
        run.world.calls[call]? = some c → c.state.isOver = false →
          c.cancelled = false ∧ run.world.Pends c) ∧
      ∀ w : World, w.Attained → ∃ earlier : Run, earlier.Orderly ∧ earlier.world = w ∧
        (earlier.Serves w.run ∧ w.run.Settled) ∧ ∀ milliseconds,
          earlier.Serves (w.advance milliseconds) ∧ (w.advance milliseconds).Settled) ∧
    ∀ (service generation : Nat) (creation : Creation),
      run.world.creation? service generation = some creation →
      (∃ m ∈ run.past, ∃ call c, m.Begins call c service generation ∧
        creation.preserveFocus = c.request.preserveFocus) ∧
      (∀ (call : Nat) (c : Call),
        Moment.AttendedBy ⟨run.world, .poll call⟩ call c service generation →
          World.Continues call c generation creation run.world (run.world.poll call)) ∧
      (run.world.outcome? service generation = none → run.world.Forsaken service generation →
        ∀ more, run.Unjoined service generation more →
          (∀ m ∈ run.since more, m.LeavesAlone service generation) ∧
          ∀ (call : Nat) (c : Call), (run.extend more).world.calls[call]? = some c →
            c.state = .fresh → c.cancelled = false → c.service = service →
            (run.extend more).world.Current service generation →
              World.Continues call c generation creation (run.extend more).world
                ((run.extend more).world.poll call)) := by
  refine ⟨⟨fun orderly settled call c found running => ?_, fun w attained => ?_⟩,
    fun service generation creation there => ⟨run.exists_begins there, ?_, ?_⟩⟩
  · exact orderly.wakeful.pends settled found running
  · rcases attained.orderly with ⟨⟨earlier, orderly, rfl⟩, punctual⟩
    have serves := orderly.serves
    rcases serves.settle punctual with ⟨served, settled, _⟩
    exact ⟨earlier, orderly, rfl, ⟨served, settled⟩, serves.advance punctual⟩
  · intro call c attended
    exact attended.continues (run.lawful (.poll call)) there
  · intro unsettled forsaken more unjoined
    rcases run.stands_still there unsettled forsaken unjoined with ⟨alone, last⟩
    refine ⟨alone, fun call c found fresh wanted about current => ?_⟩
    have attended := Moment.AttendedBy.of_current found fresh wanted about current
    exact attended.continues ((run.extend more).lawful (.poll call)) last

/-- The state before the executor does its work for the last time: a call that began a creation is
to be ended while another one waits for it too. -/
def starterEnding : World :=
  let called : World :=
    ((World.perform {} (.addService "Lint" none (.fixed none))).perform (.delay 5 5)).perform
      (.call 0 (.show false))
  (called.run.perform (.call 0 (.sendText "make"))).run.perform (.abort 0)

theorem starterEnding_attained : starterEnding.Attained := by
  have admits {w : World} {action : Action} (outside : action.isOutside = true)
      (uncalled : ∀ service request, action ≠ .call service request) : w.Admits action :=
    ⟨outside, fun same => absurd same (uncalled _ _)⟩
  have calls {w : World} {service : Nat} (request : Request)
      (known : service < w.services.length) : w.Admits (.call service request) :=
    ⟨rfl, fun same => by cases same; exact known⟩
  have made := @World.Attained.outside _ (.addService "Lint" none (.fixed none)) (.start {})
    (admits rfl nofun) nofun
  have slow := @World.Attained.outside _ (.delay 5 5) made (admits rfl nofun) nofun
  have begun := @World.Attained.outside _ (.call 0 (.show false)) slow
    (calls _ (by decide +kernel)) nofun
  have joined := @World.Attained.outside _ (.call 0 (.sendText "make")) begun.runs
    (calls _ (by decide +kernel)) nofun
  have ending := @World.Attained.outside _ (.abort 0) joined.runs (admits rfl nofun) nofun
  exact ending

/-- A run in which the only call that waits for a creation is ended. -/
def forsaken : Run where
  actions :=
    [.addService "Lint" none (.fixed none), .delay 5 5, .call 0 (.show false), .poll 0, .abort 0,
      .poll 0]

/-- The other call goes on waiting for the host.  If there is none, nothing happens until a later
call comes, and it continues the creation with the focus preference with which that was begun. -/
theorem starterEnding_goes_on :
    (starterEnding.run.calls.map Call.state = [.aborted, .waiting 1 1] ∧
      ∃ c, starterEnding.run.calls[1]? = some c ∧ starterEnding.run.Pends c) ∧
    (∀ m ∈ forsaken.since [.pass 100, .call 0 (.sendText "make")], m.LeavesAlone 0 1) ∧
      ∃ c creation, creation.preserveFocus = false ∧ c.request = .sendText "make" ∧
        World.Continues 1 c 1 creation
          (forsaken.extend [.pass 100, .call 0 (.sendText "make")]).world
          ((forsaken.extend [.pass 100, .call 0 (.sendText "make")]).world.poll 1) := by
  refine ⟨⟨by decide +kernel, ?_⟩, ?_⟩
  · rcases (progress_needs_only_a_waiter forsaken).1.2 _ starterEnding_attained with
      ⟨_, _, _, ⟨_, settled⟩, _⟩
    rcases starterEnding_attained.runs.orderly with ⟨⟨run, orderly, same⟩, _⟩
    rw [← same] at settled
    let c : Call := { service := 0, request := .sendText "make", state := .waiting 1 1 }
    have found : starterEnding.run.calls[1]? = some c := by decide +kernel
    rw [← same] at found ⊢
    exact ⟨c, found, ((progress_needs_only_a_waiter run).1.1 orderly settled 1 c found rfl).2⟩
  · let begun : Creation :=
      { preserveFocus := false, options := { name := "Lint" }, shell := Shell.identify? none
        stage := .hosting 5 }
    have there : forsaken.world.creation? 0 1 = some begun := by decide +kernel
    have calls : forsaken.world.calls =
        [{ service := 0, request := .show false, state := .aborted, cancelled := true }] := by
      decide +kernel
    have left : forsaken.world.Forsaken 0 1 := by
      intro call place c found _ waiting
      rw [calls, List.getElem?_singleton] at found
      split at found <;> cases found
      cases waiting
    have unjoined : forsaken.Unjoined 0 1 [.pass 100, .call 0 (.sendText "make")] := by
      intro m member call c attended
      have turn := attended.turn
      simp only [since, World.history, List.mem_cons, List.not_mem_nil, or_false] at member
      rcases member with rfl | rfl <;> cases turn
    rcases (progress_needs_only_a_waiter forsaken).2 0 1 begun there with ⟨_, _, lull⟩
    rcases lull (by decide +kernel) left _ unjoined with ⟨alone, joins⟩
    let c : Call := { service := 0, request := .sendText "make" }
    exact ⟨alone, c, begun, rfl, rfl,
      joins 1 c (by decide +kernel) rfl rfl rfl ⟨none, by decide +kernel⟩⟩

end Run

end Terminal
end Workbench
