import Mathlib.Data.List.Nodup
import Workbench.Proofs.Terminal.SingleFlight

namespace Workbench
namespace Terminal

/-!
# Calls share a terminal

A call that returns without an error was served by a terminal in which an environment was prepared.
As long as no creation fails and no terminal is closed, all calls that begin after their service was
without a terminal are served by one and the same, which was activated once.
-/

/-- The terminal in which an environment is or was prepared. -/
def Stage.terminal? : Stage → Option Nat
  | .activating terminal _ => some terminal
  | .settled (.ok active) => some active.terminal
  | _ => none

namespace World

variable {w w' : World} {service : Nat} {action : Action}

/-- Environments are prepared in terminals that were activated. -/
structure Prepares (w : World) : Prop where
  activated : ∀ {service generation creation terminal},
    w.creation? service generation = some creation → creation.stage.terminal? = some terminal →
      terminal ∈ w.activated

theorem Prepares.of_eq (prepares : w.Prepares)
    (creations : ∀ service generation,
      w'.creation? service generation = w.creation? service generation)
    (activated : ∀ terminal ∈ w.activated, terminal ∈ w'.activated) : w'.Prepares where
  activated := fun member stage => by
    rw [creations] at member
    exact activated _ (prepares.activated member stage)

theorem Advances.activated {generation : Nat} (advances : Advances service generation w w') :
    ∀ terminal ∈ w.activated, terminal ∈ w'.activated := by
  rcases advances with ⟨s, s', creation, creation', effect, replaces, revision, stretch, affects⟩
  intro terminal member
  rw [World.activated, affects.activations]
  cases effect with
  | nothing | use => exact member
  | arrival options activation =>
      cases activation with
      | none => exact member
      | some activation =>
          rw [Effect.activations, List.map_append]
          exact List.mem_append_left _ member

theorem Advances.prepares {generation : Nat} (advances : Advances service generation w w')
    (prepares : w.Prepares) : w'.Prepares := by
  have kept := advances.activated
  have confined := advances.confined
  rcases advances with ⟨s, s', creation, creation', effect, replaces, revision, stretch, affects⟩
  have new : w'.creation? service generation = some creation' := by
    rw [creation?_eq replaces.after, revision.new]
  have old : w.creation? service generation = some creation := by
    rw [creation?_eq replaces.before, revision.old]
  constructor
  intro other number found terminal member stage
  by_cases here : other = service ∧ number = generation
  · rcases here with ⟨rfl, rfl⟩
    rw [new] at member
    cases member
    generalize s'.phase = phase' at stretch
    cases stretch with
    | refused | lost | failed | failedLate => cases stage
    | handed hosting current due =>
        cases stage
        rw [World.activated, affects.activations, Effect.activations, List.map_append]
        exact List.mem_append_right _ (List.mem_singleton_self _)
    | @prepared used due activating =>
        refine kept _ (prepares.activated old ?_)
        rw [activating]
        dsimp only at stage
        generalize verdict : s.phase.verdict number (.ok ⟨used, creation.shell⟩) = told at stage
        cases told with
        | error error => cases stage
        | ok active =>
            rcases Phase.verdict_eq_ok verdict with ⟨_, same⟩
            cases same
            exact stage
  · rw [confined.toSpares.creation? here] at member
    exact kept _ (prepares.activated member stage)

theorem Progress.prepares {generation : Nat} (progress : Progress service generation w w')
    (prepares : w.Prepares) : w'.Prepares := by
  induction progress with
  | refl => exact prepares
  | tail _ advances inductionHypothesis => exact advances.prepares inductionHypothesis

/-- No environment is prepared yet for a creation that begins. -/
theorem Begins.prepares {s : Service} {creation : Creation}
    (begins : Begins service w w' s creation) (sound : w.Sound) (prepares : w.Prepares) :
    w'.Prepares := by
  constructor
  intro other generation found terminal member stage
  rw [activated, begins.activator]
  by_cases here : other = service
  · subst here
    rw [begins.creation? sound] at member
    split at member
    · cases member
      rcases begins.hosting with ⟨due, hosting⟩
      rw [hosting] at stage
      cases stage
    · exact prepares.activated member stage
  · rw [World.creation?, begins.replaces.others other here] at member
    exact prepares.activated member stage

theorem Attends.prepares {call number : Nat} {c : Call} {w₁ w₂ : World}
    (attends : Attends call c number w w₁ w₂ w') (sound : w.Sound) (prepares : w.Prepares) :
    w'.Prepares := by
  have seated {v : World} (before : v.Prepares) (sits : Sits call number v w₁) : w₁.Prepares := by
    refine before.of_eq sits.sessions.creation? ?_
    rw [activated, activated, sits.activator]
    exact fun _ member => member
  have arrived : w₁.Prepares := by
    cases attends.arrives with
    | again => exact prepares
    | joined _ _ sits => exact seated prepares sits
    | first _ _ begins sits => exact seated (begins.prepares sound prepares) sits
  have advanced : w₂.Prepares := attends.progress.prepares arrived
  cases attends.attended with
  | pending => exact advanced
  | answered _ answers =>
      refine advanced.of_eq answers.sessions.creation? ?_
      rw [activated, activated, answers.activations]
      exact fun _ member => member

/-- An activation that was begun stays in the record. -/
theorem Treats.activated (treats : Treats service w w') :
    ∀ terminal ∈ w.activated, terminal ∈ w'.activated := by
  intro terminal member
  cases treats with
  | keeps same | releases same =>
      rw [same.activated]
      exact member
  | receives receipt =>
      rcases receipt.activated with same | more
      · rw [same]
        exact member
      · rw [more]
        exact List.mem_append_left _ member

theorem Changes.activated (changes : Changes service w w') :
    ∀ terminal ∈ w.activated, terminal ∈ w'.activated := by
  intro terminal member
  induction changes with
  | refl => exact member
  | tail _ change inductionHypothesis => exact change.1.activated terminal inductionHypothesis

end World

namespace Run

theorem activated_step (run : Run) (action : Action) :
    ∀ terminal ∈ run.world.activated, terminal ∈ (run.step action).world.activated := by
  rw [world_step]
  rcases changes_or_hears run.sound run.ledger action with ⟨_, changes⟩ | ⟨_, _, s, _, hears⟩
  · refine (changes ((run.world.actor? action).getD 0) ?_).activated
    intro other concerned
    rw [concerned, Option.getD_some]
  · rw [World.activated, World.activated, hears.activations]
    exact fun _ member => member

theorem prepares (run : Run) : run.world.Prepares := by
  induction run using Run.induction with
  | start env => exact ⟨nofun⟩
  | step run action inductionHypothesis =>
      rcases (run.affair action).attends_or_keeps with ⟨call, c, number, w₁, w₂, _, attends⟩ | keeps
      · exact attends.prepares run.sound inductionHypothesis
      · exact inductionHypothesis.of_eq keeps (run.activated_step action)

/-- A creation that is over stays as it is in all that follows. -/
theorem creation?_extend_of_settled (run : Run) {service generation : Nat} {outcome : Outcome}
    (settled : run.world.outcome? service generation = some outcome) (more : List Action) :
    (run.extend more).world.creation? service generation =
      run.world.creation? service generation := by
  induction more generalizing run with
  | nil => rw [extend_nil]
  | cons action rest inductionHypothesis =>
      have affair := run.affair action
      rw [extend_cons, inductionHypothesis (run.step action) (affair.outcome? run.sound settled),
        affair.creation?_of_settled run.sound settled]

theorem terminal?_extend (run : Run) {service generation terminal : Nat}
    (handed : run.world.terminal? service generation = some terminal) (more : List Action) :
    (run.extend more).world.terminal? service generation = some terminal := by
  induction more generalizing run with
  | nil => rwa [extend_nil]
  | cons action rest inductionHypothesis =>
      rw [extend_cons]
      exact inductionHypothesis (run.step action) (terminal?_step handed action)

/-! ## As long as nothing ends -/

/-- In what follows no creation of a service fails that it waits for, and it does not hear that its
terminal was closed. -/
def Undisturbed (run : Run) (service : Nat) (more : List Action) : Prop :=
  ∀ m ∈ run.since more, ∀ generation,
    ¬ m.Fails service generation ∧ ¬ m.Loses service generation

theorem Undisturbed.earlier {run : Run} {service : Nat} {more : List Action} {action : Action}
    (undisturbed : run.Undisturbed service (more ++ [action])) :
    run.Undisturbed service more := by
  intro m member
  refine undisturbed m ?_
  rw [since_concat]
  exact List.mem_append_left _ member

/-- Whoever is without a terminal after one more action was so before, and no call found it so. -/
theorem Undisturbed.rested {run : Run} {service : Nat} {more : List Action} {action : Action}
    (undisturbed : run.Undisturbed service (more ++ [action])) {phase : Phase}
    (there : (run.extend more).world.phase? service = some phase)
    (idle : ((run.extend more).step action).world.phase? service = some .idle) :
    (run.extend more).world.phase? service = some .idle ∧
      (run.extend more).world.findsIdle? action ≠ some service := by
  have meets := (run.extend more).meets action service
  have moment : Moment.after ⟨(run.extend more).world, action⟩ =
      ((run.extend more).step action).world := (world_step _ action).symm
  have last : (⟨(run.extend more).world, action⟩ : Moment) ∈ run.since (more ++ [action]) := by
    rw [since_concat]
    exact List.mem_append_right _ (List.mem_singleton_self _)
  rw [← moment] at meets idle
  rcases Moment.idle_cases (run.extend more).sound meets idle with before | absent | fails | loses
  · exact before
  · rw [there] at absent
    cases absent
  · exact absurd fails (undisturbed _ last _).1
  · exact absurd loses (undisturbed _ last _).2

/-- A service that was without a terminal has not begun a creation yet, or just one. -/
theorem Undisturbed.cases {run : Run} {service : Nat} {more : List Action}
    (undisturbed : run.Undisturbed service more)
    (idle : run.world.phase? service = some .idle) :
    ((run.extend more).world.generation service = run.world.generation service ∧
      ((run.extend more).world.phase? service = some .idle ∨
        (run.extend more).world.phase? service = some .disposed)) ∨
    ((run.extend more).world.generation service = run.world.generation service + 1 ∧
      ∃ phase, (run.extend more).world.phase? service = some phase ∧ phase ≠ .idle) := by
  induction more using List.reverseRecOn with
  | nil =>
      rw [extend_nil]
      exact Or.inl ⟨rfl, Or.inl idle⟩
  | append_singleton more action inductionHypothesis =>
      have meets := (run.extend more).meets action service
      have sound := (run.extend more).sound
      rw [extend_concat]
      rcases inductionHypothesis undisturbed.earlier with
        ⟨count, rests⟩ | ⟨count, phase, there, busy⟩
      · by_cases finds : (run.extend more).world.findsIdle? action = some service
        · rcases ((run.extend more).affair action).counts_of_some finds with ⟨_, _, _, one⟩
          rcases World.findsIdle?_eq_some_iff.mp finds with ⟨_, _, _, _, _, _, _, before⟩
          rcases meets.phase? sound before with ⟨after, there'⟩
          refine Or.inr ⟨by rw [one, count], after, there', ?_⟩
          rintro rfl
          exact absurd finds (undisturbed.rested before there').2
        · refine Or.inl ⟨?_, meets.resting rests finds⟩
          rw [meets.generation_of_ne finds, count]
      · have finds : (run.extend more).world.findsIdle? action ≠ some service := by
          intro found
          rcases World.findsIdle?_eq_some_iff.mp found with ⟨_, _, _, _, _, _, _, idle⟩
          rw [there] at idle
          exact busy (Option.some.inj idle)
        rcases meets.phase? sound there with ⟨after, there'⟩
        refine Or.inr ⟨?_, after, there', ?_⟩
        · rw [meets.generation_of_ne finds, count]
        · rintro rfl
          have before := (undisturbed.rested there there').1
          rw [there] at before
          exact busy (Option.some.inj before)

/-- A service that began one creation begins no other. -/
theorem Undisturbed.once {run : Run} {service : Nat} {more : List Action} {action : Action}
    (undisturbed : run.Undisturbed service (more ++ [action]))
    (idle : run.world.phase? service = some .idle)
    (count : (run.extend more).world.generation service = run.world.generation service + 1) :
    ((run.extend more).step action).world.generation service =
      run.world.generation service + 1 := by
  have after := undisturbed.cases idle
  rw [extend_concat] at after
  have grows := (run.extend more).generation_le action service
  rcases after with ⟨count', _⟩ | ⟨count', _⟩
  · omega
  · exact count'

/-- Calls that had no turn yet attend the one creation that begins. -/
theorem Undisturbed.attends {run : Run} {service : Nat} {more : List Action} {action : Action}
    (undisturbed : run.Undisturbed service (more ++ [action]))
    (idle : run.world.phase? service = some .idle) {call number : Nat} {c : Call}
    {w₁ w₂ : World} (turn : action = .poll call) (about : c.service = service)
    (attends : World.Attends call c number (run.extend more).world w₁ w₂
      ((run.extend more).step action).world)
    (waits : ∀ place, c.state = .waiting number place →
      (run.extend more).world.generation service = run.world.generation service + 1 ∧
        number = run.world.generation service + 1) :
    ((run.extend more).step action).world.generation service =
        run.world.generation service + 1 ∧
      number = run.world.generation service + 1 := by
  have sound := (run.extend more).sound
  have before := undisturbed.earlier.cases idle
  subst about turn
  cases attends.arrives with
  | again waiting =>
      rcases waits _ waiting with ⟨count, same⟩
      exact ⟨undisturbed.once idle count, same⟩
  | joined fresh creating sits =>
      have current : (run.extend more).world.Current c.service number := ⟨_, creating⟩
      rcases before with ⟨_, resting | resting⟩ | ⟨count, _⟩
      · rw [creating] at resting
        cases resting
      · rw [creating] at resting
        cases resting
      · have latest := (current.latest sound).1
        rw [attends.generation sound (Or.inl current)]
        exact ⟨by omega, by omega⟩
  | @first begun _ s creation fresh same begins sits =>
      have rests : (run.extend more).world.phase? c.service = some .idle := by
        rw [World.phase?_eq begins.replaces.before, begins.idle]
      have count : (run.extend more).world.generation c.service =
          run.world.generation c.service := by
        rcases before with ⟨count, _⟩ | ⟨_, phase, there, busy⟩
        · exact count
        · rw [rests] at there
          exact absurd (Option.some.inj there).symm busy
      have found : (run.extend more).world.findsIdle? (.poll call) = some c.service :=
        World.findsIdle?_eq_some_iff.mpr
          ⟨call, c, rfl, attends.found, fresh, attends.wanted, rfl, rests⟩
      have numbered := begins.counts.1
      rw [attends.generation sound (Or.inr ⟨found, by omega⟩)]
      exact ⟨by omega, by omega⟩

/-- What a call can wait for that had no turn yet. -/
theorem Undisturbed.waits {run : Run} {service : Nat} {more : List Action}
    (undisturbed : run.Undisturbed service more)
    (idle : run.world.phase? service = some .idle) {call number place : Nat}
    (unstarted : ∀ c, run.world.calls[call]? = some c → c.state = .fresh) {c : Call}
    (found : (run.extend more).world.calls[call]? = some c) (about : c.service = service)
    (waiting : c.state = .waiting number place) :
    (run.extend more).world.generation service = run.world.generation service + 1 ∧
      number = run.world.generation service + 1 := by
  induction more using List.reverseRecOn generalizing number place c with
  | nil =>
      rw [extend_nil] at found
      rw [unstarted c found] at waiting
      cases waiting
  | append_singleton more action inductionHypothesis =>
      rw [extend_concat] at found ⊢
      have happens := (run.extend more).happens action
      rw [← world_step] at happens
      rcases happens.call found with ⟨_, fresh⟩ | ⟨old, there, same, _, unturned | ⟨turn, verdict⟩⟩
      · rw [fresh] at waiting
        cases waiting
      · rcases inductionHypothesis undisturbed.earlier there (same.symm.trans about)
          (unturned.symm.trans waiting) with ⟨count, number'⟩
        exact ⟨undisturbed.once idle count, number'⟩
      · rw [waiting] at verdict
        have waits : ∀ place, old.state = .waiting number place →
            (run.extend more).world.generation service = run.world.generation service + 1 ∧
              number = run.world.generation service + 1 :=
          fun _ => inductionHypothesis undisturbed.earlier there (same.symm.trans about)
        generalize state : CallState.waiting number place = now at verdict
        cases verdict with
        | unchanged _ unmoved =>
            rcases waits place state.symm with ⟨count, number'⟩
            exact ⟨undisturbed.once idle count, number'⟩
        | aborted | served | refused | answered => cases state
        | waiting attends _ =>
            cases state
            exact undisturbed.attends idle turn (same.symm.trans about) attends waits

/-- A terminal that creations ended with was activated. -/
theorem activated_of_ok (run : Run) {service generation : Nat} {active : Active}
    (settled : run.world.outcome? service generation = some (.ok active)) :
    active.terminal ∈ run.world.activated ∧
      run.world.terminal? service generation = some active.terminal := by
  rcases World.outcome?_eq_some_iff.mp settled with ⟨creation, member, stage⟩
  have prepared : creation.stage.terminal? = some active.terminal := by
    rw [stage]
    rfl
  exact ⟨run.prepares.activated member prepared, (World.completed_of_ok run.sound settled).2⟩

/-- A service began one creation in what follows, and it received a terminal for it, in which an
environment is or was prepared. -/
def Receives (run : Run) (service : Nat) (more : List Action) : Prop :=
  (run.extend more).world.generation service = run.world.generation service + 1 ∧
    ∃ terminal ∈ (run.extend more).world.activated,
      (run.extend more).world.terminal? service (run.world.generation service + 1) = some terminal

/-- What a service received it has received after one more action. -/
theorem Undisturbed.receives {run : Run} {service : Nat} {more : List Action} {action : Action}
    (undisturbed : run.Undisturbed service (more ++ [action]))
    (idle : run.world.phase? service = some .idle) (receives : run.Receives service more) :
    run.Receives service (more ++ [action]) := by
  rcases receives with ⟨count, terminal, activated, handed⟩
  rw [Receives, extend_concat]
  exact ⟨undisturbed.once idle count, terminal, activated_step _ action terminal activated,
    terminal?_step handed action⟩

/-- A service that has a terminal in use received it. -/
theorem Undisturbed.receives_of_ready {run : Run} {service : Nat} {more : List Action}
    (undisturbed : run.Undisturbed service more)
    (idle : run.world.phase? service = some .idle) {active : Active}
    (ready : (run.extend more).world.phase? service = some (.ready active)) :
    run.Receives service more := by
  rcases undisturbed.cases idle with ⟨_, resting | resting⟩ | ⟨count, _⟩
  · rw [ready] at resting
    cases resting
  · rw [ready] at resting
    cases resting
  · have settled := World.outcome?_of_ready (run.extend more).sound ready
    rw [count] at settled
    rcases (run.extend more).activated_of_ok settled with ⟨activated, handed⟩
    exact ⟨count, active.terminal, activated, handed⟩

/-- A call that had no turn yet is served by the terminal of the one creation that begins. -/
theorem Undisturbed.served {run : Run} {service : Nat} {more : List Action}
    (undisturbed : run.Undisturbed service more)
    (idle : run.world.phase? service = some .idle) {call : Nat}
    (unstarted : ∀ c, run.world.calls[call]? = some c → c.state = .fresh) {c : Call}
    (found : (run.extend more).world.calls[call]? = some c) (about : c.service = service)
    (fine : c.state = .finished (.ok ())) : run.Receives service more := by
  induction more using List.reverseRecOn generalizing c with
  | nil =>
      rw [extend_nil] at found
      rw [unstarted c found] at fine
      cases fine
  | append_singleton more action inductionHypothesis =>
      have happens := (run.extend more).happens action
      rw [← world_step] at happens
      rw [extend_concat] at found
      rcases happens.call found with ⟨_, fresh⟩ | ⟨old, there, same, _, unturned | ⟨turn, verdict⟩⟩
      · rw [fresh] at fine
        cases fine
      · exact undisturbed.receives idle (inductionHypothesis undisturbed.earlier there
          (same.symm.trans about) (unturned.symm.trans fine))
      · rw [fine] at verdict
        have about' : old.service = service := same.symm.trans about
        generalize state : CallState.finished (.ok ()) = now at verdict
        cases verdict with
        | unchanged =>
            exact undisturbed.receives idle
              (inductionHypothesis undisturbed.earlier there about' state.symm)
        | aborted | refused | waiting => cases state
        | served fresh ready =>
            rw [about'] at ready
            exact undisturbed.receives idle (undisturbed.earlier.receives_of_ready idle ready)
        | @answered number w₁ w₂ outcome attends settled answers =>
            have waits : ∀ place, old.state = .waiting number place →
                (run.extend more).world.generation service = run.world.generation service + 1 ∧
                  number = run.world.generation service + 1 :=
              fun _ => undisturbed.earlier.waits idle unstarted there about'
            rcases undisturbed.attends idle turn about' attends waits with ⟨count, number'⟩
            cases outcome with
            | error error => cases state
            | ok active =>
                rw [about', number'] at settled
                rcases ((run.extend more).step action).activated_of_ok settled with
                  ⟨activated, handed⟩
                rw [Receives, extend_concat]
                exact ⟨count, active.terminal, activated, handed⟩

/-- When a service is without a terminal, its earlier creations receive none any more. -/
theorem terminal?_of_idle {run : Run} {service : Nat} {more : List Action}
    (idle : run.world.phase? service = some .idle) {generation terminal : Nat}
    (earlier : generation ≤ run.world.generation service)
    (handed : (run.extend more).world.terminal? service generation = some terminal) :
    run.world.terminal? service generation = some terminal := by
  rcases World.exists_session_of_phase idle with ⟨s, session, phase⟩
  rw [World.generation_eq session] at earlier
  have sound := run.sound.each session
  rcases World.exists_session_of_terminal handed with ⟨s', session', handed'⟩
  rcases Option.bind_eq_some_iff.mp handed' with ⟨creation', member', given⟩
  have positive := Service.creation?_pos member'
  rcases Service.exists_creation? positive (by rw [sound.counted]; exact earlier) with
    ⟨creation, member⟩
  rw [World.terminal?_eq session, Service.terminal?, member, Option.bind_some]
  have kept (found : Nat) (there : creation.terminal = some found) : found = terminal := by
    have before : run.world.terminal? service generation = some found := by
      rw [World.terminal?_eq session, Service.terminal?, member, Option.bind_some, there]
    rw [run.terminal?_extend before more] at handed
    exact Option.some.inj handed
  cases sound.fits member with
  | hosting _ _ _ awaited =>
      rw [phase] at awaited
      rcases awaited with creating | disposed
      · cases creating
      · cases disposed
  | @activating found _ _ there => rw [there, kept found there]
  | @settled outcome stage =>
      have settled : run.world.outcome? service generation = some outcome :=
        World.outcome?_eq_some_iff.mpr
          ⟨creation, (World.creation?_eq session generation).trans member, stage⟩
      have frozen := run.creation?_extend_of_settled settled more
      rw [World.creation?_eq session, World.creation?_eq session', member, member'] at frozen
      rw [← Option.some.inj frozen]
      exact given

/-- A creation that has a terminal is one of those that its service counts. -/
theorem counted_of_terminal? {run : Run} {service generation terminal : Nat}
    (handed : run.world.terminal? service generation = some terminal) :
    0 < generation ∧ generation ≤ run.world.generation service := by
  rcases World.exists_session_of_terminal handed with ⟨s, session, handed'⟩
  rcases Option.bind_eq_some_iff.mp handed' with ⟨creation, member, _⟩
  refine ⟨Service.creation?_pos member, ?_⟩
  rw [World.generation_eq session, ← (run.sound.each session).counted]
  exact Service.creation?_le member

/-- The terminal of the one creation is the one that the service received. -/
theorem Undisturbed.received {run : Run} {service : Nat} {more : List Action}
    (undisturbed : run.Undisturbed service more)
    (idle : run.world.phase? service = some .idle) {terminal : Nat}
    (handed : (run.extend more).world.terminal? service (run.world.generation service + 1) =
      some terminal) (other : Nat) :
    (run.extend more).world.Handed service other ∧ ¬ run.world.Handed service other ↔
      other = terminal := by
  constructor
  · rintro ⟨⟨generation, given⟩, new⟩
    have counted := (counted_of_terminal? given).2
    by_cases earlier : generation ≤ run.world.generation service
    · exact absurd ⟨generation, terminal?_of_idle idle earlier given⟩ new
    · have latest : generation = run.world.generation service + 1 := by
        rcases undisturbed.cases idle with ⟨count, _⟩ | ⟨count, _⟩ <;> omega
      rw [latest, handed] at given
      exact (Option.some.inj given).symm
  · rintro rfl
    refine ⟨⟨_, handed⟩, ?_⟩
    rintro ⟨generation, given⟩
    have counted := (counted_of_terminal? given).2
    have same := ((run.extend more).ledger.distinct (run.terminal?_extend given more) handed).2
    omega

/-- Along every run the host is asked for a terminal exactly when a call finds its service without
one, with the options of that service, and a service counts how often this happened to it.  Every
terminal and every activation belongs to one creation of one service, which has no other.  Between
two creations of a service the first one failed while the service waited for it, or the service
heard that its terminal was closed while it held it.  If neither happens after a service was without
a terminal, it begins one creation at most; and if a call that had no turn before returns without an
error, it received one terminal, which was activated once. -/
theorem creations_are_single_flight (run : Run) (service : Nat) :
    (run.world.host.requests = run.past.flatMap Moment.asked ∧
      run.world.host.requests.length = run.found.length ∧
      run.world.generation service = run.found.count service) ∧
    (∀ generation terminal, run.world.terminal? service generation = some terminal →
      run.world.activated.count terminal ≤ 1 ∧
      ∀ other number, run.world.terminal? other number = some terminal →
        other = service ∧ number = generation) ∧
    (∀ terminal, terminal < run.world.host.next ∨ terminal ∈ run.world.activated →
      ∃ other number, 0 < number ∧ number ≤ run.world.generation other ∧
        run.world.terminal? other number = some terminal) ∧
    (∀ first between last, run.world.findsIdle? first = some service →
      (∀ m ∈ (run.step first).since between, m.finds? ≠ some service) →
      ((run.step first).extend between).world.findsIdle? last = some service →
      ∃ m ∈ run.since (first :: between),
        m.Fails service (run.world.generation service + 1) ∨
          m.Loses service (run.world.generation service + 1)) ∧
    (∀ more, run.world.phase? service = some .idle → run.Undisturbed service more →
      (run.extend more).world.generation service ≤ run.world.generation service + 1 ∧
      ∀ (call : Nat) (c : Call), (run.extend more).world.calls[call]? = some c →
        (∀ before, run.world.calls[call]? = some before → before.state = .fresh) →
        c.service = service → c.state = .finished (.ok ()) →
          (run.extend more).world.generation service = run.world.generation service + 1 ∧
          ∃ terminal, (run.extend more).world.activated.count terminal = 1 ∧
            ∀ other, (run.extend more).world.Handed service other ∧
              ¬ run.world.Handed service other ↔ other = terminal) := by
  refine ⟨?_, ?_, ?_, ?_, ?_⟩
  · rcases run.counts with ⟨requests, length, generations⟩
    exact ⟨requests, length, generations service⟩
  · intro generation terminal handed
    refine ⟨List.nodup_iff_count_le_one.mp run.ledger.activatedOnce terminal, ?_⟩
    intro other number handed'
    exact run.ledger.distinct handed' handed
  · intro terminal there
    have inside : terminal < run.world.host.next := by
      rcases there with inside | activated
      · exact inside
      · exact run.ledger.activatedWithin terminal activated
    rcases run.ledger.covered inside with ⟨other, number, handed⟩
    rcases counted_of_terminal? handed with ⟨positive, counted⟩
    exact ⟨other, number, positive, counted, handed⟩
  · intro first between last begins unfound beginsAgain
    exact exists_ends_between begins unfound beginsAgain
  · intro more idle undisturbed
    refine ⟨?_, fun call c found unstarted about fine => ?_⟩
    · rcases undisturbed.cases idle with ⟨count, _⟩ | ⟨count, _⟩ <;> omega
    · rcases undisturbed.served idle unstarted found about fine with
        ⟨count, terminal, activated, handed⟩
      refine ⟨count, terminal, ?_, undisturbed.received idle handed⟩
      exact List.nodup_iff_count_eq_one.mp (run.extend more).ledger.activatedOnce terminal activated

/-- A run in which the first creation is going to fail, so that the second call begins another. -/
def failsOnce : Run where
  actions :=
    [.addService "Lint" none (.fixed none), .failCreation (some .noRuntime), .call 0 (.show true),
      .call 0 (.sendText "make")]

theorem failsOnce_ends :
    ∃ m ∈ failsOnce.since [.poll 0], m.Fails 0 (failsOnce.world.generation 0 + 1) ∨
      m.Loses 0 (failsOnce.world.generation 0 + 1) := by
  rcases creations_are_single_flight failsOnce 0 with ⟨_, _, _, between, _⟩
  have begins : failsOnce.world.findsIdle? (.poll 0) = some 0 := by decide +kernel
  have beginsAgain :
      ((failsOnce.step (.poll 0)).extend []).world.findsIdle? (.poll 1) = some 0 := by
    decide +kernel
  exact between (.poll 0) [] (.poll 1) begins (fun m member => absurd member List.not_mem_nil)
    beginsAgain

end Run

end Terminal
end Workbench
