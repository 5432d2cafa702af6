import Workbench.Proofs.Terminal.Advance

namespace Workbench
namespace Terminal

/-!
# What a turn of a call can do

A call that has its turn is ended from outside, or it is served by the terminal in use, or it is
refused by a disposed service, or it attends a creation: it takes a seat there if it has none,
begins the creation if there is none, takes it as far as it can go, and is answered if it is over
then.  `Polled` says this of the turn as a whole, in terms of sessions.
-/

namespace Request

/-- What a request does with a terminal that runs a kind of shell. -/
def uses (shell : Shell.Kind) : Request → List Use
  | .show preserveFocus => [.shown preserveFocus]
  | .sendText text => [.shown true, .sent text false]
  | .sendCommand command arguments =>
    [.shown true, .sent (Shell.commandLine shell command arguments) true]

/-- What becomes of the host's terminals when a request is answered. -/
def effect (request : Request) : Outcome → Effect
  | .ok active => .use active.terminal (request.uses active.shell)
  | .error _ => .nothing

end Request

/-- What a call returns that is answered with an outcome. -/
def Outcome.result (outcome : Outcome) : Except Error Unit :=
  outcome.map fun _ => ()

namespace World

/-- The creation that a call attends when it has its turn, if any. -/
def awaited? (w : World) (c : Call) : Option Nat :=
  match c.state with
  | .waiting generation _ => some generation
  | .fresh =>
    match w.phase? c.service with
    | some (.creating generation _) => some generation
    | some .idle => some (w.generation c.service + 1)
    | _ => none
  | _ => none

/-! ## The end of a call -/

/-- A call ends, with an effect on the host's terminals. -/
structure Ends (call : Nat) (state : CallState) (effect : Effect) (w w' : World) : Prop where
  sessions : SameSessions w w'
  terminals : w'.host.terminals = effect.terminals w.host.terminals
  requests : w'.host.requests = w.host.requests
  activations : w'.activator.activations = w.activator.activations
  calls : w'.calls = w.calls.modify call ({ · with state })

/-- Sweeping shows in nobody's session. -/
theorem sweep_sessions (w : World) (service : Nat) : SameSessions w (w.sweep service) := by
  unfold sweep
  split
  · split
    · exact .ofModify w service fun _ => rfl
    · exact .refl w
  · exact .refl w

theorem sweep_frame (w : World) (service : Nat) :
    (w.sweep service).calls = w.calls ∧
    (w.sweep service).activator = w.activator ∧
    (w.sweep service).host.terminals = w.host.terminals ∧
    (w.sweep service).host.requests = w.host.requests := by
  unfold sweep
  split
  · split
    · exact ⟨rfl, rfl, rfl, rfl⟩
    · exact ⟨rfl, rfl, rfl, rfl⟩
  · exact ⟨rfl, rfl, rfl, rfl⟩

/-- What is done with the terminals before a call ends is the effect of its end. -/
theorem endCall_ends {w w' : World} {effect : Effect} (sessions : SameSessions w w')
    (terminals : w'.host.terminals = effect.terminals w.host.terminals)
    (requests : w'.host.requests = w.host.requests)
    (activations : w'.activator.activations = w.activator.activations)
    (calls : w'.calls = w.calls) (call service : Nat) (state : CallState) :
    Ends call state effect w (w'.endCall call service state) := by
  have unchanged : SameSessions w' (w'.modifyCall call ({ · with state })) := .ofServices rfl
  rcases sweep_frame (w'.modifyCall call ({ · with state })) service with
    ⟨calls', activator, terminals', requests'⟩
  have ended : (w'.modifyCall call ({ · with state })).calls =
      w.calls.modify call ({ · with state }) := by
    rw [modifyCall, calls]
  exact
    { sessions := sessions.trans (unchanged.trans (sweep_sessions _ service))
      terminals := terminals'.trans terminals
      requests := requests'.trans requests
      activations := (congrArg Activator.activations activator).trans activations
      calls := calls'.trans ended }

/-- A call is answered with an outcome. -/
abbrev Answers (call : Nat) (c : Call) (outcome : Outcome) : World → World → Prop :=
  Ends call (.finished outcome.result) (c.request.effect outcome)

theorem conclude_answers (w : World) (call : Nat) (c : Call) (title : String) (outcome : Outcome) :
    Answers call c outcome w (w.conclude call c.service title c.request outcome) := by
  cases outcome with
  | error error =>
      exact endCall_ends (.refl w) rfl rfl rfl rfl call c.service _
  | ok active =>
      have delivered : (w.deliver title active c.request).host.terminals =
          (Effect.use active.terminal (c.request.uses active.shell)).terminals
            w.host.terminals := by
        cases c.request with
        | «show» preserveFocus => rfl
        | sendText text =>
            simp [deliver, use, Host.use, Effect.terminals, List.modify_modify_eq,
              Function.comp_def, Record.use, Request.uses]
        | sendCommand command arguments =>
            simp [deliver, write, use, Host.use, Effect.terminals, List.modify_modify_eq,
              Function.comp_def, Record.use, Request.uses]
      refine endCall_ends ?_ delivered ?_ ?_ ?_ call c.service _
      · cases c.request <;> exact .ofServices rfl
      all_goals cases c.request <;> rfl

theorem abandon_ends (w : World) (call : Nat) (c : Call) :
    Ends call .aborted .nothing w (w.abandon call c) := by
  unfold abandon
  cases c.state with
  | waiting generation place =>
      have left : SameSessions w (w.modifyCreation c.service generation fun creation =>
          { creation with seats := creation.seats.leave place }) :=
        .ofModify w c.service fun s => s.session_modifyCreation generation fun _ => rfl
      exact @endCall_ends w _ .nothing left rfl rfl rfl rfl call c.service _
  | fresh | finished | aborted =>
      exact @endCall_ends w _ .nothing (.refl w) rfl rfl rfl rfl call c.service _

/-! ## The beginning of a creation -/

/-- A service begins a creation, for which the host is asked. -/
structure Begins (service : Nat) (w w' : World) (s : Service) (creation : Creation) : Prop where
  idle : s.phase = .idle
  replaces : Replaces w w' service s (s.begun creation)
  hosting : ∃ due, creation.stage = .hosting due
  unanswered : creation.terminal = none
  unprepared : creation.prepared = false
  options : creation.options = { name := s.title, shellPath := s.helper.usablePath? w.env }
  shell : creation.shell = Shell.identify? creation.options.shellPath
  terminals : w'.host.terminals = w.host.terminals
  requests : w'.host.requests = w.host.requests ++ [creation.options]
  activator : w'.activator = w.activator
  calls : w'.calls = w.calls

theorem beginCreation_begins {w : World} {service : Nat} {s : Service}
    (found : w.services[service]? = some s) (idle : s.phase = .idle) (preserveFocus : Bool) :
    ∃ creation, Begins service w (w.beginCreation service preserveFocus) s.session creation ∧
      creation.preserveFocus = preserveFocus ∧
      (w.beginCreation service preserveFocus).services[service]? = some (s.begun creation) := by
  let creation : Creation :=
    { preserveFocus
      options := { name := s.title, shellPath := s.helper.usablePath? w.env }
      shell := Shell.identify? (s.helper.usablePath? w.env)
      stage := .hosting (w.now + w.host.delay) }
  let asked : World := { w with host := w.host.request creation.options }
  have alike : Alike (asked.put service (s.begun creation))
      (w.beginCreation service preserveFocus) := by
    unfold beginCreation
    simp only [found]
    rw [modifyService_eq_put (w := asked) found]
    exact (Alike.write _ _).trans (Alike.startTimer _ _ _ _)
  refine ⟨creation,
    { idle
      replaces := by
        have replaces := Replaces.ofPut found alike.services
        rwa [Service.session_begun] at replaces
      hosting := ⟨_, rfl⟩
      unanswered := rfl
      unprepared := rfl
      options := rfl
      shell := rfl
      terminals := by rw [alike.host]; rfl
      requests := by rw [alike.host]; rfl
      activator := alike.activator
      calls := alike.calls }, rfl, ?_⟩
  rw [alike.services]
  exact services_put found _

/-- A service that begins a creation stays sound. -/
theorem Begins.sound {w w' : World} {service : Nat} {s : Service} {creation : Creation}
    (begins : Begins service w w' s creation) (sound : w.Sound) : w'.Sound := by
  rcases begins.hosting with ⟨due, hosting⟩
  exact sound.replace begins.replaces ((sound.each begins.replaces.before).begun begins.idle hosting
    begins.unanswered begins.unprepared begins.shell)

/-! ## Attending a creation -/

/-- A call takes a seat at a creation. -/
structure Sits (call generation : Nat) (w w' : World) : Prop where
  sessions : SameSessions w w'
  host : w'.host = w.host
  activator : w'.activator = w.activator
  calls : ∃ place, w'.calls = w.calls.modify call ({ · with state := .waiting generation place })

theorem Sits.ofAlike {w w' w'' : World} {call generation : Nat} (alike : Alike w w')
    (sits : Sits call generation w' w'') : Sits call generation w w'' where
  sessions := alike.sessions.trans sits.sessions
  host := sits.host.trans alike.host
  activator := sits.activator.trans alike.activator
  calls := by
    rcases sits.calls with ⟨place, calls⟩
    exact ⟨place, by rw [calls, alike.calls]⟩

/-- Joining a creation that is not over means to take a seat and to attend. -/
theorem join_eq_attend {w : World} (call : Nat) {c : Call} (title : String) {generation : Nat}
    {s : Service} {creation : Creation} (found : w.services[c.service]? = some s)
    (member : s.creation? generation = some creation)
    (unsettled : ∀ outcome, creation.stage ≠ .settled outcome) :
    ∃ w', Sits call generation w w' ∧
      w.join call c title generation = w'.attend call c title generation := by
  have sits (place : Nat) (seats : Seats) : Sits call generation w
      ((w.modifyCreation c.service generation ({ · with seats })).modifyCall call
        ({ · with state := .waiting generation place })) :=
    { sessions := .ofModify w c.service fun s => s.session_modifyCreation generation fun _ => rfl
      host := rfl
      activator := rfl
      calls := ⟨place, rfl⟩ }
  unfold join
  simp only [found, Option.bind_some, member]
  cases stage : creation.stage with
  | settled outcome => exact absurd stage (unsettled outcome)
  | hosting | activating => exact ⟨_, sits _ _, rfl⟩

/-- How a call comes to attend a creation: it waits already, or it takes a seat at the creation
under way or at one that it begins itself. -/
inductive Arrives (call : Nat) (c : Call) (generation : Nat) (w : World) : World → Prop
  | again {place : Nat} (waiting : c.state = .waiting generation place) :
      Arrives call c generation w w
  | joined {w' : World} {slot : Option Nat} (fresh : c.state = .fresh)
      (creating : w.phase? c.service = some (.creating generation slot))
      (sits : Sits call generation w w') : Arrives call c generation w w'
  | first {w' w'' : World} {s : Service} {creation : Creation} (fresh : c.state = .fresh)
      (same : generation = s.generation + 1) (begins : Begins c.service w w' s creation)
      (sits : Sits call generation w' w'')
      (focus : creation.preserveFocus = c.request.preserveFocus) : Arrives call c generation w w''

/-- A call that attends a creation is answered if the creation is over. -/
inductive Attended (call : Nat) (c : Call) (generation : Nat) (w : World) : World → Prop
  | pending (unsettled : w.outcome? c.service generation = none) : Attended call c generation w w
  | answered {w' : World} {outcome : Outcome}
      (settled : w.outcome? c.service generation = some outcome)
      (answers : Answers call c outcome w w') : Attended call c generation w w'

/-- What the turn of a call can do. -/
inductive Polled (call : Nat) (w : World) : World → Prop
  /-- There is no such call, or it is over, or there is no such service. -/
  | nothing (pointless : ∀ c, w.calls[call]? = some c →
      c.state.isOver = true ∨ c.state = .fresh ∧ w.session? c.service = none) : Polled call w w
  | abandoned {w' : World} {c : Call} (found : w.calls[call]? = some c)
      (running : c.state.isOver = false) (cancelled : c.cancelled = true)
      (ends : Ends call .aborted .nothing w w') : Polled call w w'
  | served {w' : World} {c : Call} {active : Active} (found : w.calls[call]? = some c)
      (fresh : c.state = .fresh) (wanted : c.cancelled = false)
      (ready : w.phase? c.service = some (.ready active))
      (answers : Answers call c (.ok active) w w') : Polled call w w'
  | refused {w' : World} {c : Call} (found : w.calls[call]? = some c)
      (fresh : c.state = .fresh) (wanted : c.cancelled = false)
      (disposed : w.phase? c.service = some .disposed)
      (answers : Answers call c (.error .terminalDisposed) w w') : Polled call w w'
  /-- The call attends a creation and takes it as far as it can go. -/
  | attended {w₁ w₂ w' : World} {c : Call} {generation : Nat} (found : w.calls[call]? = some c)
      (wanted : c.cancelled = false) (awaits : w.awaited? c = some generation)
      (arrives : Arrives call c generation w w₁) (progress : Progress c.service generation w₁ w₂)
      (attended : Attended call c generation w₂ w') : Polled call w w'

variable {w : World} {call : Nat} {c : Call}

theorem attend_polled {w' : World} {generation : Nat} (title : String)
    (found : w.calls[call]? = some c) (wanted : c.cancelled = false)
    (awaits : w.awaited? c = some generation) (arrives : Arrives call c generation w w') :
    Polled call w (w'.attend call c title generation) := by
  refine .attended found wanted awaits arrives (progress_advances w' c.service generation) ?_
  unfold attend
  simp only
  cases settled : (w'.progress c.service generation).outcome? c.service generation with
  | none => exact .pending settled
  | some outcome => exact .answered settled (conclude_answers _ call c title outcome)

/-- The first turn of a call depends on where its service stands.  That no call joins a creation
that is over is a matter of soundness. -/
theorem start_polled (sound : w.Sound) (found : w.calls[call]? = some c)
    (fresh : c.state = .fresh) (wanted : c.cancelled = false) :
    Polled call w (w.start call c) := by
  unfold start
  cases service : w.services[c.service]? with
  | none =>
      refine .nothing fun other member => ?_
      rw [found] at member
      cases member
      exact Or.inr ⟨fresh, by rw [session?, service, Option.map_none]⟩
  | some s =>
      have session := session?_eq service
      have healthy := sound.of_services service
      simp only
      cases phase : s.phase with
      | ready active =>
          refine .served found fresh wanted ?_ (conclude_answers w call c s.title (.ok active))
          rw [phase?_eq session, Service.phase_session, phase]
      | disposed =>
          refine .refused found fresh wanted ?_
            (conclude_answers w call c s.title (.error .terminalDisposed))
          rw [phase?_eq session, Service.phase_session, phase]
      | creating generation slot =>
          have standing : w.phase? c.service = some (.creating generation slot) := by
            rw [phase?_eq session, Service.phase_session, phase]
          have latest := healthy.latest phase
          rcases Service.exists_creation? latest.2
            (Nat.le_of_eq (latest.1.trans healthy.counted.symm)) with ⟨creation, member⟩
          have current : s.phase.isCurrent generation = true :=
            Phase.isCurrent_iff.mpr ⟨slot, phase⟩
          have unsettled := ((healthy.fits member).ofCurrent current).2
          rcases join_eq_attend (w := w.write (.debug
            ("Awaiting in-flight terminal creation: title='" ++ s.title ++ "'")))
            call s.title service member unsettled with ⟨w', sits, attends⟩
          simp only
          rw [attends]
          exact attend_polled _ found wanted (by simp only [awaited?, fresh, standing])
            (.joined fresh standing (sits.ofAlike (Alike.write _ _)))
      | idle =>
          have standing : w.phase? c.service = some .idle := by
            rw [phase?_eq session, Service.phase_session, phase]
          have count : w.generation c.service = s.session.generation := generation_eq session
          rcases beginCreation_begins service phase c.request.preserveFocus with
            ⟨creation, begins, focus, there⟩
          have member : (s.begun creation).creation? (s.generation + 1) = some creation := by
            rw [Service.creation?_begun healthy.counted, if_pos rfl]
          rcases begins.hosting with ⟨due, hosting⟩
          have unsettled : ∀ outcome, creation.stage ≠ .settled outcome := by
            intro outcome settled
            rw [hosting] at settled
            cases settled
          rcases join_eq_attend call s.title there member unsettled with ⟨w', sits, attends⟩
          simp only
          rw [attends]
          exact attend_polled _ found wanted (by simp only [awaited?, fresh, standing, count,
            Service.generation_session]) (.first (s := s.session) fresh rfl begins sits focus)

/-- The turn of a call does nothing else. -/
theorem poll_polled (sound : w.Sound) (call : Nat) : Polled call w (w.poll call) := by
  unfold poll
  cases found : w.calls[call]? with
  | none => exact .nothing fun c member => by rw [found] at member; cases member
  | some c =>
      simp only
      cases running : c.state.isOver with
      | true =>
          refine .nothing fun other member => ?_
          rw [found] at member
          cases member
          exact Or.inl running
      | false =>
          cases cancelled : c.cancelled with
          | true => exact .abandoned found running cancelled (abandon_ends w call c)
          | false =>
              simp only [Bool.false_eq_true, if_false]
              cases state : c.state with
              | waiting generation place =>
                  exact attend_polled _ found cancelled (by simp only [awaited?, state])
                    (.again state)
              | finished | aborted => rw [state] at running; cases running
              | fresh => exact start_polled sound found state cancelled

end World
end Terminal
end Workbench
