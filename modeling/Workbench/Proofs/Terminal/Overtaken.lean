import Workbench.Proofs.Terminal.LateUses
import Workbench.Proofs.Terminal.Lulls

namespace Workbench
namespace Terminal

/-!
# Terminals that are closed while their environments are being prepared

A service that hears that the terminal of its creation was closed is without a terminal at once, and
the next call begins the next creation.  The preparation of the environment goes on all the same, as
long as some call waits for it, and what those calls are told depends on how it ends: if the
environment is prepared they hear that the terminal was closed, and if not they hear why not.
-/

namespace World

variable {w : World} {service generation terminal due call : Nat}

/-- The environment is being prepared in the terminal of a creation, until a certain time. -/
def Activating (w : World) (service generation terminal due : Nat) : Prop :=
  ∃ creation, w.creation? service generation = some creation ∧
    creation.stage = .activating terminal due

theorem Activating.unsettled (activating : w.Activating service generation terminal due) :
    w.outcome? service generation = none := by
  rcases activating with ⟨creation, member, stage⟩
  refine outcome?_eq_none_iff.mpr fun other member' outcome settled => ?_
  cases member.symm.trans member'
  cases stage.symm.trans settled

theorem Activating.of_eq {w' : World} (activating : w.Activating service generation terminal due)
    (same : w'.creation? service generation = w.creation? service generation) :
    w'.Activating service generation terminal due := by
  rcases activating with ⟨creation, member, stage⟩
  exact ⟨creation, same.trans member, stage⟩

theorem Activating.handed (activating : w.Activating service generation terminal due)
    (sound : w.Sound) : w.terminal? service generation = some terminal := by
  rcases activating with ⟨creation, member, stage⟩
  rcases Option.bind_eq_some_iff.mp member with ⟨s, found, present⟩
  rw [terminal?_eq found, Service.terminal?, present, Option.bind_some]
  exact ((sound.each found).fits present).handed stage

theorem Activating.incomplete (activating : w.Activating service generation terminal due)
    (sound : w.Sound) : ¬ w.Completed service generation := by
  rcases activating with ⟨creation, member, stage⟩
  rintro ⟨other, member', _, prepared⟩
  cases member.symm.trans member'
  rcases Option.bind_eq_some_iff.mp member with ⟨s, found, present⟩
  rw [((sound.each found).fits present).unprepared stage] at prepared
  cases prepared

/-- Only a call whose end was asked for is ended from outside. -/
theorem Polled.cancelled_of_aborted {w' : World} (polled : Polled call w w') {c c' : Call}
    (found : w.calls[call]? = some c) (running : c.state.isOver = false)
    (found' : w'.calls[call]? = some c') (aborted : c'.state = .aborted) : c.cancelled = true := by
  have answered {outcome : Outcome} {w₀ : World} (answers : Answers call c outcome w₀ w')
      (there : w₀.calls[call]? = some c) : c.cancelled = true := by
    cases (answers.call there).symm.trans found'
    cases aborted
  cases polled with
  | nothing =>
      cases found.symm.trans found'
      rw [aborted] at running
      cases running
  | abandoned found₀ _ cancelled =>
      cases found.symm.trans found₀
      exact cancelled
  | served found₀ _ _ _ answers | refused found₀ _ _ _ answers =>
      cases found.symm.trans found₀
      exact answered answers found
  | attended found₀ wanted awaits arrives progress attended =>
      cases found.symm.trans found₀
      rcases Attends.told ⟨found, wanted, awaits, arrives, progress, attended⟩ with
        ⟨state, after, told⟩
      cases after.symm.trans found'
      rcases told with ⟨⟨place, waiting⟩, _⟩ | ⟨outcome, _, finished⟩
      · cases waiting.symm.trans aborted
      · cases finished.symm.trans aborted

/-! ## The end of a preparation that nobody counts on -/

/-- What those who wait for a creation are told when the environment is prepared, or cannot be, in a
terminal that their service does not count on any more. -/
def lateError (w : World) (service : Nat) : Error :=
  w.activator.failNext.getD
    (if w.phase? service = some .disposed then .terminalDisposed else .terminalClosed)

/-- A creation ends that its service does not wait for: the environment is prepared unless the
activator fails, and those who wait are told an error either way. -/
structure EndsLate (service generation : Nat) (w w' : World) : Prop where
  settled : w'.outcome? service generation = some (.error (w.lateError service))
  completed : w'.Completed service generation ↔ w.activator.failNext = none

theorem EndsLate.same {w' w'' : World} (ends : EndsLate service generation w w')
    (same : SameSessions w' w'') : EndsLate service generation w w'' where
  settled := (same.outcome? _ _).trans ends.settled
  completed := by
    rw [← ends.completed, Completed, Completed, same.creation?]

private theorem endsLate_of_settle {s : Service} {creation : Creation} {w' : World}
    {outcome : Outcome} (found : w'.services[service]? = some s)
    (member : s.creation? generation = some creation)
    (handed : creation.terminal.isSome = true)
    (told : s.phase.verdict generation outcome = .error (w.lateError service))
    (complete : creation.prepared = true ↔ w.activator.failNext = none) :
    EndsLate service generation w (w'.settle service generation outcome) := by
  have there : (w'.settle service generation outcome).services[service]? =
      some (ended s generation outcome) := by
    rw [(settle_alike found generation outcome).services, services_put found]
  have session : (w'.settle service generation outcome).session? service =
      some (ended s generation outcome).session := by
    rw [session?, there, Option.map_some]
  have after := (creation?_eq session generation).trans
    ((Service.creation?_session _ _).trans
      (congrArg (Option.map Creation.bare) (ended_revision member outcome).new))
  refine ⟨outcome?_eq_some_iff.mpr ⟨_, after, congrArg Stage.settled told⟩, ?_⟩
  rw [← complete]
  constructor
  · rintro ⟨other, member', _, completed⟩
    cases after.symm.trans member'
    exact completed
  · intro completed
    exact ⟨_, after, handed, completed⟩

theorem finishActivation_endsLate {s : Service} {creation : Creation}
    (found : w.services[service]? = some s) (member : s.creation? generation = some creation)
    (handed : creation.terminal = some terminal) (unprepared : creation.prepared = false)
    (stale : s.phase.isCurrent generation = false) :
    EndsLate service generation w
      (w.finishActivation service generation terminal creation) := by
  have phase : w.phase? service = some s.phase := by
    rw [phase?, session?, found, Option.map_some, Option.map_some, Service.phase_session]
  have given : creation.terminal.isSome = true := by rw [handed]; rfl
  unfold finishActivation
  cases failing : w.activator.failNext with
  | none =>
      have there : (w.modifyCreation service generation ({ · with prepared := true })).services[
          service]? = some (s.modifyCreation generation ({ · with prepared := true })) := by
        rw [modifyCreation, services_modifyService found, services_put found]
      have prepared := Service.Revision.ofModify (f := fun c => { c with prepared := true })
        member rfl rfl rfl
      have late : s.phase.verdict generation (.ok ⟨terminal, creation.shell⟩) =
          .error (if s.phase = .disposed then .terminalDisposed else .terminalClosed) := by
        rw [Phase.verdict, stale]
        rfl
      refine endsLate_of_settle there prepared.new given ?_ (by simp [failing])
      simp only [lateError, failing, phase, Option.getD_none, Option.some.injEq]
      exact late
  | some error =>
      have unheld := (Phase.eq_of_not_current stale terminal (.error error)).2.1
      simp only [found, unheld]
      refine endsLate_of_settle found member given ?_ (by simp [failing, unprepared])
      rw [Phase.verdict_error, lateError, failing, Option.getD_some]

/-- The turn of a call that waits for a creation whose terminal its service does not count on any
more. -/
theorem poll_late {c : Call} {place : Nat} (sound : w.Sound) (found : w.calls[call]? = some c)
    (wanted : c.cancelled = false) (waiting : c.state = .waiting generation place)
    (activating : w.Activating c.service generation terminal due)
    (stale : ¬ w.Current c.service generation) :
    w.now < due ∧ SameSessions w (w.poll call) ∨
      due ≤ w.now ∧ EndsLate c.service generation w (w.poll call) := by
  let title := ((w.services[c.service]?).map Service.title).getD ""
  have turn : w.poll call = w.attend call c title generation := by
    simp only [poll, found, wanted, waiting, CallState.isOver, Bool.false_eq_true, if_false, title]
  have answered : SameSessions (w.progress c.service generation)
      (w.attend call c title generation) := by
    unfold attend
    dsimp only
    cases (w.progress c.service generation).outcome? c.service generation with
    | none => exact .refl _
    | some outcome => exact (conclude_answers _ call c title outcome).sessions
  rcases activating with ⟨creation, member, stage⟩
  rcases Option.bind_eq_some_iff.mp member with ⟨session, there, present⟩
  rcases Option.map_eq_some_iff.mp there with ⟨s, service, rfl⟩
  rw [Service.creation?_session, Option.map_eq_some_iff] at present
  rcases present with ⟨seated, present, rfl⟩
  have fits := (sound.of_services service).fits present
  have activating : seated.stage = .activating terminal due := stage
  have goesOn : w.progress c.service generation =
      if w.now < due then w else w.finishActivation c.service generation terminal seated := by
    unfold progress
    simp only [service, Option.bind_some, present, activating]
  rw [goesOn] at answered
  rw [turn]
  by_cases early : w.now < due
  · rw [if_pos early] at answered
    exact Or.inl ⟨early, answered⟩
  · rw [if_neg early] at answered
    rw [current_iff there, Bool.not_eq_true] at stale
    refine Or.inr ⟨Nat.not_lt.mp early, ?_⟩
    exact (finishActivation_endsLate service present (fits.handed activating)
      (fits.unprepared activating) stale).same answered

end World

namespace Run

variable {run : Run} {service generation terminal due : Nat}

/-- The terminal of a creation was closed, and the environment is still being prepared in it. -/
structure Overtaken (run : Run) (service generation terminal due : Nat) : Prop where
  activating : run.world.Activating service generation terminal due
  closed : run.Closed terminal

/-- Hearing of the closed terminal does not touch the creation. -/
theorem overtaken_of_hears (activating : run.world.Activating service generation terminal due)
    (hears : Moment.HearsClosed ⟨run.world, .close terminal⟩ service terminal) :
    (run.step (.close terminal)).Overtaken service generation terminal due := by
  refine ⟨?_, closed_step.mpr (Or.inr ⟨service, hears⟩)⟩
  rcases (run.affair (.close terminal)).attends_or_keeps with ⟨_, _, _, _, _, turn, _⟩ | keeps
  · cases turn
  · exact activating.of_eq (keeps service generation)

/-- The preparation goes on with the next action, or it ends with it. -/
theorem Overtaken.step (overtaken : run.Overtaken service generation terminal due)
    (action : Action) :
    (run.step action).Overtaken service generation terminal due ∨
      due ≤ run.world.now ∧
        World.EndsLate service generation run.world (run.step action).world := by
  rcases overtaken with ⟨activating, closed⟩
  have goesOn (same : (run.step action).world.creation? service generation =
      run.world.creation? service generation) :
      (run.step action).Overtaken service generation terminal due :=
    ⟨activating.of_eq same, closed_step.mpr (Or.inl closed)⟩
  rcases (run.affair action).attends_or_keeps with ⟨call, c, number, w₁, w₂, rfl, attends⟩ | keeps
  · by_cases here : service = c.service ∧ generation = number
    · rcases here with ⟨rfl, rfl⟩
      have handed := activating.handed run.sound
      have stale := GaveUp.not_awaitsAt (Or.inl closed) handed (.poll call)
      rcases (attends.again stale).2 with ⟨place, waiting⟩
      rcases World.poll_late run.sound attends.found attends.wanted waiting activating
        (fun current => stale (Or.inl current)) with ⟨_, same⟩ | ends
      · refine Or.inl (goesOn ?_)
        rw [world_step]
        exact same.creation? _ _
      · rw [world_step]
        exact Or.inr ends
    · exact Or.inl (goesOn ((attends.spares run.sound).creation? here))
  · exact Or.inl (goesOn (keeps service generation))

/-- As long as the creation is not over, the preparation goes on. -/
theorem Overtaken.extend (overtaken : run.Overtaken service generation terminal due)
    {more : List Action}
    (unsettled : (run.extend more).world.outcome? service generation = none) :
    (run.extend more).Overtaken service generation terminal due := by
  induction more generalizing run with
  | nil => rwa [extend_nil]
  | cons action rest inductionHypothesis =>
      rw [extend_cons] at unsettled ⊢
      rcases overtaken.step action with goesOn | ⟨_, ends⟩
      · exact inductionHypothesis goesOn unsettled
      · rw [(run.step action).outcome?_extend ends.settled rest] at unsettled
        cases unsettled

/-- A creation ends in some moment between two at which it is not over and over. -/
theorem exists_settles (run : Run) {more : List Action} {outcome : Outcome}
    (unsettled : run.world.outcome? service generation = none)
    (settled : (run.extend more).world.outcome? service generation = some outcome) :
    ∃ m ∈ run.since more, m.Settles service generation outcome := by
  induction more generalizing run with
  | nil =>
      rw [extend_nil, unsettled] at settled
      cases settled
  | cons action rest inductionHypothesis =>
      rw [extend_cons] at settled
      rw [since_cons]
      cases next : (run.step action).world.outcome? service generation with
      | none =>
          rcases inductionHypothesis (run.step action) next settled with ⟨m, member, settles⟩
          exact ⟨m, List.mem_cons_of_mem _ member, settles⟩
      | some first =>
          cases ((run.step action).outcome?_extend next rest).symm.trans settled
          rw [world_step] at next
          exact ⟨_, List.mem_cons_self, unsettled, next⟩

theorem cancelled_of_aborted (run : Run) {call : Nat} {c : Call}
    (found : run.world.calls[call]? = some c) (aborted : c.state = .aborted) :
    c.cancelled = true := by
  induction run using Run.induction generalizing c with
  | start env => cases found
  | step run action inductionHypothesis =>
      rw [world_step] at found
      have happens := run.happens action
      rcases happens.call found with ⟨_, fresh⟩ | ⟨earlier, found₀, _, _, kept⟩
      · cases fresh.symm.trans aborted
      · refine happens.cancelled found₀ found ?_
        cases running : earlier.state.isOver with
        | true =>
            rcases happens.calls_of_over found₀ running with ⟨_, found', _, _, same⟩
            cases found.symm.trans found'
            exact inductionHypothesis found₀ (same.symm.trans aborted)
        | false =>
            rcases kept with same | ⟨rfl, _⟩
            · rw [← same, aborted] at running
              cases running
            · exact happens.turn.cancelled_of_aborted found₀ running found aborted

end Run

namespace Moment

/-- A creation ends whose terminal was closed: whoever waits is told that if the environment was
prepared, and the error of the activator if it could not be. -/
structure Forgoes (m : Moment) (service generation : Nat) (error : Error) : Prop where
  settles : m.Settles service generation (.error error)
  told : m.Completes service generation ∧ error = .terminalClosed ∨
    m.before.activator.failNext = some error ∧ ¬ m.after.Completed service generation

end Moment

namespace Run

variable {run : Run} {service generation terminal due : Nat}

theorem Overtaken.forgoes (overtaken : run.Overtaken service generation terminal due)
    {more : List Action} {m : Moment} (member : m ∈ run.since more) {outcome : Outcome}
    (settles : m.Settles service generation outcome)
    (standing : m.before.phase? service ≠ some .disposed) :
    ∃ error, outcome = .error error ∧ m.Forgoes service generation error := by
  rcases exists_of_mem_since member with ⟨first, _, before, _⟩
  have unsettled := settles.1
  rw [before] at unsettled standing
  have overtaken' := overtaken.extend unsettled
  have after : m.after = ((run.extend first).step m.action).world := by
    rw [world_step, ← before]
    rfl
  rcases overtaken'.step m.action with goesOn | ⟨_, ends⟩
  · have settled := settles.2
    rw [after, goesOn.activating.unsettled] at settled
    cases settled
  · rw [← after, ← before] at ends
    rw [← before] at standing
    cases settles.2.symm.trans ends.settled
    refine ⟨_, rfl, settles, ?_⟩
    rw [World.lateError, if_neg standing]
    cases failing : m.before.activator.failNext with
    | none =>
        refine Or.inl ⟨⟨?_, ends.completed.mpr failing⟩, rfl⟩
        rw [before]
        exact overtaken'.activating.incomplete (Run.sound _)
    | some error =>
        refine Or.inr ⟨rfl, fun completed => ?_⟩
        rw [ends.completed.mp completed] at failing
        cases failing

/-- In an orderly run in which nothing that could run is left, nobody waits any more for a creation
whose preparation is over. -/
theorem Overtaken.isOver (overtaken : run.Overtaken service generation terminal due)
    {more : List Action} (orderly : (run.extend more).Orderly)
    (settled : (run.extend more).world.Settled) (past : due ≤ (run.extend more).world.now)
    {call place : Nat} {c : Call} (found : (run.extend more).world.calls[call]? = some c)
    (about : c.service = service) : c.state ≠ .waiting generation place := by
  intro waiting
  have running : c.state.isOver = false := by rw [waiting]; rfl
  rcases orderly.wakeful.pends settled found running with
    ⟨_, number, _, creation, later, waiting', member, awaited, early⟩
  cases waiting.symm.trans waiting'
  rw [about] at member
  cases stage : creation.stage with
  | settled outcome => simp [stage, Stage.due?] at awaited
  | hosting _ | activating _ _ =>
      have unsettled : (run.extend more).world.outcome? service generation = none := by
        refine World.outcome?_eq_none_iff.mpr fun other member' outcome ended => ?_
        cases member.symm.trans member'
        cases stage.symm.trans ended
      rcases (overtaken.extend unsettled).activating with ⟨other, member', prepares⟩
      cases member.symm.trans member'
      rw [prepares] at awaited
      cases awaited
      exact absurd past (Nat.not_le.mpr early)

/-- Calls stay where they are, with their service and their request. -/
theorem call_extend (run : Run) {call : Nat} {c : Call} (found : run.world.calls[call]? = some c)
    (more : List Action) : ∃ c', (run.extend more).world.calls[call]? = some c' ∧
      c'.service = c.service ∧ c'.request = c.request := by
  induction more generalizing run c with
  | nil => exact ⟨c, by rwa [extend_nil], rfl, rfl⟩
  | cons action rest inductionHypothesis =>
      rw [extend_cons]
      have happens := run.happens action
      rw [← world_step] at happens
      rcases happens.kept found with ⟨next, found', service, request, _⟩
      rcases inductionHypothesis (run.step action) found' with ⟨c', found'', service', request'⟩
      exact ⟨c', found'', service'.trans service, request'.trans request⟩

/-- If a service hears that the terminal of its creation was closed while the environment is being
prepared in it, and the service is not disposed before the creation ends, then every call that
waits for the creation then or later goes on waiting, or is ended because somebody asked for that,
or returns an error: that the terminal was closed, if the environment was prepared in the end, or
why it could not be prepared.  New creations that the service begins meanwhile make no difference.
When the time of the preparation has come and nothing that could run is left, no such call waits any
more. -/
theorem closed_creations_end_with_errors (run : Run) {service generation terminal due : Nat}
    (activating : run.world.Activating service generation terminal due)
    (hears : Moment.HearsClosed ⟨run.world, .close terminal⟩ service terminal)
    (first more : List Action)
    (standing : ∀ m ∈ (run.step (.close terminal)).since (first ++ more), ∀ outcome,
      m.Settles service generation outcome → m.before.phase? service ≠ some .disposed)
    (call place : Nat) (c : Call)
    (found : ((run.step (.close terminal)).extend first).world.calls[call]? = some c)
    (about : c.service = service) (waiting : c.state = .waiting generation place) :
    ∃ c', ((run.step (.close terminal)).extend (first ++ more)).world.calls[call]? = some c' ∧
      ((∃ place, c'.state = .waiting generation place) ∨
        c'.state = .aborted ∧ c'.cancelled = true ∨
        ∃ m ∈ (run.step (.close terminal)).since (first ++ more), ∃ error,
          m.Forgoes service generation error ∧ c'.state = .finished (.error error)) ∧
      (((run.step (.close terminal)).extend (first ++ more)).Orderly →
        ((run.step (.close terminal)).extend (first ++ more)).world.Settled →
        due ≤ ((run.step (.close terminal)).extend (first ++ more)).world.now →
          c'.state.isOver = true) := by
  have overtaken := overtaken_of_hears activating hears
  rcases agrees_extend _ (Or.inl ⟨place, waiting⟩) found about more with ⟨c', found', agrees⟩
  rcases call_extend _ found more with ⟨_, same, about', _⟩
  cases found'.symm.trans same
  rw [extend_extend] at found' agrees
  refine ⟨c', found', ?_, fun orderly settled past => ?_⟩
  · rcases agrees with waits | aborted | ⟨outcome, settled, finished⟩
    · exact Or.inl waits
    · exact Or.inr (Or.inl ⟨aborted, cancelled_of_aborted _ found' aborted⟩)
    · rcases exists_settles _ overtaken.activating.unsettled settled with ⟨m, member, settles⟩
      rcases overtaken.forgoes member settles (standing m member outcome settles) with
        ⟨error, rfl, forgoes⟩
      exact Or.inr (Or.inr ⟨m, member, error, forgoes, finished⟩)
  · rcases agrees with ⟨place', waits⟩ | aborted | ⟨_, _, finished⟩
    · exact absurd waits (overtaken.isOver orderly settled past found' (about'.trans about))
    · rw [aborted]
      rfl
    · rw [finished]
      rfl

/-- A run in which the environment is being prepared in the terminal of the first creation. -/
def preparing : Run where
  actions :=
    [.addService "Lint" none (.fixed none), .delay 0 5, .call 0 (.show true), .poll 0]

/-- A new creation is under way when the preparation ends well, and the call that waited for the
first one is told that its terminal was closed. -/
theorem preparing_forgoes :
    let more : List Action :=
      [.delay 7 5, .call 0 (.sendText "make"), .poll 1, .pass 5, .poll 0]
    ((preparing.step (.close 0)).extend more).world.phase? 0 = some (.creating 2 none) ∧
      ∃ m ∈ (preparing.step (.close 0)).since more, m.Forgoes 0 1 .terminalClosed := by
  intro more
  let begun : Creation :=
    { preserveFocus := true, options := { name := "Lint" }, shell := Shell.identify? none
      stage := .activating 0 5, terminal := some 0 }
  let c : Call := { service := 0, request := .show true, state := .waiting 1 0 }
  have activating : preparing.world.Activating 0 1 0 5 := ⟨begun, by decide +kernel, rfl⟩
  have hears : Moment.HearsClosed ⟨preparing.world, .close 0⟩ 0 0 :=
    ⟨rfl, by decide +kernel, by decide +kernel⟩
  have standing : ∀ m ∈ (preparing.step (.close 0)).since ([] ++ more),
      m.before.phase? 0 ≠ some .disposed := by
    decide +kernel
  rcases closed_creations_end_with_errors preparing activating hears [] more
    (fun m member _ _ => standing m member) 0 0 c (by decide +kernel) rfl rfl with
    ⟨c', found', told, _⟩
  have ended : ((preparing.step (.close 0)).extend ([] ++ more)).world.calls[0]? =
      some { c with state := .finished (.error .terminalClosed) } := by
    decide +kernel
  cases found'.symm.trans ended
  refine ⟨by decide +kernel, ?_⟩
  rcases told with ⟨_, waiting⟩ | ⟨aborted, _⟩ | ⟨m, member, error, forgoes, finished⟩
  · cases waiting
  · cases aborted
  · cases finished
    exact ⟨m, member, forgoes⟩

/-- If the environment cannot be prepared in the closed terminal, the call that waited is told that,
although its service heard of the closed terminal first and is not disposed. -/
theorem failed_preparation_is_told :
    let more : List Action :=
      [.failActivation (some (.activation "no interpreter")), .pass 5, .poll 0]
    (∃ creation, preparing.world.creation? 0 1 = some creation ∧
        creation.stage = .activating 0 5) ∧
      Moment.HearsClosed ⟨preparing.world, .close 0⟩ 0 0 ∧
      (∀ m ∈ (preparing.step (.close 0)).since more, m.after.phase? 0 ≠ some .disposed) ∧
      (preparing.world.calls[0]?).map Call.state = some (.waiting 1 0) ∧
      (((preparing.step (.close 0)).extend more).world.calls[0]?).map Call.state =
        some (.finished (.error (.activation "no interpreter"))) ∧
      Error.activation "no interpreter" ≠ .terminalClosed := by
  let begun : Creation :=
    { preserveFocus := true, options := { name := "Lint" }, shell := Shell.identify? none
      stage := .activating 0 5, terminal := some 0 }
  exact ⟨⟨begun, by decide +kernel, rfl⟩, ⟨rfl, by decide +kernel, by decide +kernel⟩,
    by decide +kernel, by decide +kernel, by decide +kernel, nofun⟩

end Run

end Terminal
end Workbench
