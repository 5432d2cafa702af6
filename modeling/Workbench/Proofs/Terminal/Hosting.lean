import Workbench.Proofs.Terminal.Disposal
import Workbench.Proofs.Terminal.Sharing

namespace Workbench
namespace Terminal

/-!
# Creations that wait for the host

From its beginning until the host answers, a creation has no terminal that could be closed, so its
service goes on waiting for it unless somebody disposes the service.  Therefore the host is asked
for one terminal of a service at a time, and a terminal that it hands out is turned away only by a
disposed service, which is what those who wait are told then.
-/

namespace World

variable {w w' : World} {service generation : Nat}

/-- The host was asked for the terminal of a creation and has not answered. -/
def Hosting (w : World) (service generation : Nat) : Prop :=
  ∃ creation due, w.creation? service generation = some creation ∧
    creation.stage = .hosting due

theorem SameSessions.terminal? (same : SameSessions w w') (service generation : Nat) :
    w'.terminal? service generation = w.terminal? service generation := by
  rw [World.terminal?, World.terminal?, same]

namespace Hosting

theorem of_eq (hosting : w.Hosting service generation)
    (same : w'.creation? service generation = w.creation? service generation) :
    w'.Hosting service generation := by
  rcases hosting with ⟨creation, due, member, stage⟩
  exact ⟨creation, due, same.trans member, stage⟩

theorem unsettled (hosting : w.Hosting service generation) :
    w.outcome? service generation = none := by
  rcases hosting with ⟨creation, due, member, stage⟩
  refine outcome?_eq_none_iff.mpr fun other member' outcome settled => ?_
  cases member.symm.trans member'
  cases stage.symm.trans settled

/-- The service that asked the host waits for its answer with nothing in its hands, or it is
disposed. -/
theorem awaited (hosting : w.Hosting service generation) (sound : w.Sound) :
    w.phase? service = some (.creating generation none) ∨
      w.phase? service = some .disposed := by
  rcases hosting with ⟨creation, due, member, stage⟩
  rcases Option.bind_eq_some_iff.mp member with ⟨s, found, present⟩
  rw [phase?_eq found]
  cases (sound.each found).fits present with
  | hosting _ _ _ awaited => exact awaited.imp (congrArg some) (congrArg some)
  | activating activating => cases stage.symm.trans activating
  | settled settled => cases stage.symm.trans settled

theorem not_idle (hosting : w.Hosting service generation) (sound : w.Sound) :
    w.phase? service ≠ some .idle := by
  intro idle
  rcases hosting.awaited sound with creating | disposed
  · cases idle.symm.trans creating
  · cases idle.symm.trans disposed

/-- No call begins another creation of that service. -/
theorem unfound (hosting : w.Hosting service generation) (sound : w.Sound) (action : Action) :
    w.findsIdle? action ≠ some service := by
  intro finds
  rcases findsIdle?_eq_some_iff.mp finds with ⟨_, _, _, _, _, _, _, idle⟩
  exact hosting.not_idle sound idle

/-- There is no terminal that could be reported closed. -/
theorem not_held (hosting : w.Hosting service generation) (sound : w.Sound) :
    w.held? service = none := by
  rcases hosting.awaited sound with creating | disposed
  · rcases exists_session_of_phase creating with ⟨s, found, phase⟩
    rw [held?_eq found, phase]
    rfl
  · exact held?_of_disposed disposed

end Hosting

/-- The host owes its answer to the creations that were begun, have no terminal and are not over. -/
theorem hosting_iff (sound : w.Sound) :
    w.Hosting service generation ↔
      (0 < generation ∧ generation ≤ w.generation service) ∧
        w.terminal? service generation = none ∧ w.outcome? service generation = none := by
  constructor
  · intro hosting
    refine ⟨?_, ?_, hosting.unsettled⟩
    all_goals
      rcases hosting with ⟨creation, due, member, stage⟩
      rcases Option.bind_eq_some_iff.mp member with ⟨s, found, present⟩
    · rw [generation_eq found, ← (sound.each found).counted]
      exact ⟨Service.creation?_pos present, Service.creation?_le present⟩
    · rw [terminal?_eq found, Service.terminal?, present, Option.bind_some,
        ((sound.each found).fits present).unanswered stage]
  · rintro ⟨⟨positive, counted⟩, unanswered, unsettled⟩
    cases found : w.session? service with
    | none =>
        rw [World.generation, found] at counted
        exact absurd (Nat.lt_of_lt_of_le positive counted) (Nat.lt_irrefl 0)
    | some s =>
        rw [generation_eq found, ← (sound.each found).counted] at counted
        rcases Service.exists_creation? positive counted with ⟨creation, present⟩
        rw [terminal?_eq found, Service.terminal?, present, Option.bind_some] at unanswered
        have member := (creation?_eq found generation).trans present
        cases (sound.each found).fits present with
        | hosting stage => exact ⟨creation, _, member, stage⟩
        | activating _ handed => cases handed.symm.trans unanswered
        | settled stage => exact absurd stage (outcome?_eq_none_iff.mp unsettled _ member _)

/-! ## Answers of the host -/

/-- What an answer of the host has led to that found the service in a certain phase. -/
inductive Answered (w : World) (service generation : Nat) (phase : Phase) : Prop
  /-- The host created no terminal. -/
  | failed {error : Error} (unhanded : w.terminal? service generation = none)
      (settled : w.outcome? service generation = some (.error error))
  /-- The terminal was taken in, and the preparation of its environment began. -/
  | recorded {terminal : Nat}
      (record : phase.record? generation terminal = some (.creating generation (some terminal)))
      (handed : w.terminal? service generation = some terminal)
      (activated : terminal ∈ w.activated) (standing : w.phase? service ≠ some .disposed)
  /-- The terminal was turned away, and disposed before anything else was done with it. -/
  | refused {terminal : Nat} (record : phase.record? generation terminal = none)
      (handed : w.terminal? service generation = some terminal)
      (uses : w.uses terminal = [.disposed]) (same : w.phase? service = some phase)
      (settled : w.outcome? service generation = some (.error .terminalDisposed))

/-- The next stretch of a creation that waits for the host is the host's answer. -/
theorem Advances.answered (advances : Advances service generation w w') (sound : w.Sound)
    (hosting : w.Hosting service generation) {phase : Phase}
    (standing : w.phase? service = some phase) : w'.Answered service generation phase := by
  rcases advances with ⟨s, s', creation, creation', effect, replaces, revision, stretch, affects⟩
  have handed := (terminal?_revised replaces revision).2
  have after : w'.phase? service = some s'.phase := phase?_eq replaces.after
  have settled {outcome : Outcome} (stage : creation'.stage = .settled outcome) :
      w'.outcome? service generation = some outcome :=
    outcome?_eq_some_iff.mpr
      ⟨creation', (creation?_eq replaces.after generation).trans revision.new, stage⟩
  have fits := (sound.each replaces.before).fits revision.old
  rcases hosting with ⟨waiting, due, member, stage⟩
  rw [creation?_eq replaces.before, revision.old] at member
  cases member
  rw [phase?_eq replaces.before] at standing
  cases standing
  have terminals := affects.terminals
  generalize s'.phase = phase' at stretch after
  cases stretch with
  | refused => exact .failed (handed.trans (fits.unanswered stage)) (settled rfl)
  | lost _ stale =>
      refine .refused stale handed ?_ ?_ (settled rfl)
      · rw [uses, record_arrival_self terminals]
        rfl
      · rw [after, Phase.settle_of_not_current (Phase.record?_eq_none_iff.mp stale)]
  | handed _ current =>
      have recorded := (Phase.record?_eq_some_iff.mp current).2
      rw [recorded] at current after
      refine .recorded current handed ?_ ?_
      · rw [World.activated, affects.activations, Effect.activations, List.map_append]
        exact List.mem_append_right _ (List.mem_singleton_self _)
      · intro disposed
        cases after.symm.trans disposed
  | prepared activating | failed activating | failedLate activating =>
      cases stage.symm.trans activating

/-- The host's answer does not leave it to answer again. -/
theorem Advances.not_hosting (advances : Advances service generation w w') :
    ¬ w'.Hosting service generation := by
  rcases advances with ⟨s, s', creation, creation', effect, replaces, revision, stretch, _⟩
  rintro ⟨waiting, due, member, hosting⟩
  rw [creation?_eq replaces.after, revision.new] at member
  cases member
  generalize s'.phase = phase' at stretch
  cases stretch <;> cases hosting

theorem Answered.not_hosting {phase : Phase} (answered : w.Answered service generation phase)
    (sound : w.Sound) : ¬ w.Hosting service generation := by
  intro hosting
  cases answered with
  | failed _ settled | refused _ _ _ _ settled => cases hosting.unsettled.symm.trans settled
  | recorded _ handed => cases ((hosting_iff sound).mp hosting).2.1.symm.trans handed

/-- No creation disposes its service. -/
theorem Progress.standing (progress : Progress service generation w w') (sound : w.Sound)
    (standing : w.phase? service ≠ some .disposed) : w'.phase? service ≠ some .disposed := by
  by_cases current : w.Current service generation
  · cases progress.current sound current with
    | waiting current =>
        rcases current with ⟨slot, creating⟩
        rw [creating]
        exact nofun
    | failed _ phase | usable _ phase =>
        rw [phase]
        exact nofun
  · rwa [(progress.stale current).1]

/-- A creation that goes on after the host's answer does not undo what the answer led to. -/
theorem Answered.progress {phase : Phase} (answered : w.Answered service generation phase)
    (progress : Progress service generation w w') (sound : w.Sound) :
    w'.Answered service generation phase := by
  cases answered with
  | failed unhanded settled =>
      rw [Progress.eq_of_settled progress settled]
      exact .failed unhanded settled
  | refused record handed uses same settled =>
      rw [Progress.eq_of_settled progress settled]
      exact .refused record handed uses same settled
  | recorded record handed activated standing =>
      have changes := (Progress.changes progress sound).2
      rcases terminal?_eq_some_iff.mp handed with ⟨options, order⟩
      exact .recorded record (terminal?_eq_some_iff.mpr ⟨options, changes.order? order⟩)
        (changes.activated _ activated) (Progress.standing progress sound standing)

theorem Answered.attended {call : Nat} {c : Call} {phase : Phase}
    (answered : w.Answered c.service generation phase)
    (attended : Attended call c generation w w') : w'.Answered c.service generation phase := by
  cases attended with
  | pending => exact answered
  | @answered _ outcome told answers =>
      have same := answers.sessions
      cases answered with
      | failed unhanded settled =>
          exact .failed ((same.terminal? _ _).trans unhanded) ((same.outcome? _ _).trans settled)
      | recorded record handed begun standing =>
          refine .recorded record ((same.terminal? _ _).trans handed) ?_ ?_
          · rwa [activated, answers.activations]
          · rwa [same.phase?]
      | refused record handed uses phase settled =>
          cases told.symm.trans settled
          exact .refused record ((same.terminal? _ _).trans handed)
            ((uses_of_eq answers.terminals _).trans uses) ((same.phase? _).trans phase)
            ((same.outcome? _ _).trans settled)

/-! ## Turns of calls -/

section Turns

variable {call : Nat} {c : Call} {w₁ w₂ : World}

/-- If the host's answer has come at the end of a turn, it found the service as it was when the call
had arrived at the creation. -/
theorem Attends.answered (attends : Attends call c generation w w₁ w₂ w') (sound : w.Sound)
    (hosting : w₁.Hosting c.service generation) (done : ¬ w'.Hosting c.service generation)
    {phase : Phase} (standing : w₁.phase? c.service = some phase) :
    w'.Answered c.service generation phase := by
  have sound₁ := attends.sound₁ sound
  -- The answer is the first stretch of a creation that waits for it; what follows keeps it.
  rcases Relation.ReflTransGen.cases_head attends.progress with same | ⟨middle, advances, rest⟩
  · subst same
    exact absurd (hosting.of_eq (attends.sessions.1.creation? _ _)) done
  · have answered := advances.answered sound₁ hosting standing
    exact (answered.progress rest (advances.sound sound₁)).attended attends.attended

/-- If the host owes its answer at the end of a turn, nothing happened once the call had arrived at
the creation. -/
theorem Attends.same_of_hosting (attends : Attends call c generation w w₁ w₂ w')
    (hosting : w'.Hosting c.service generation) : SameSessions w₁ w' := by
  have same := attends.sessions.1
  -- Had anything happened, the last stretch would have left the creation with its answer.
  rcases Relation.ReflTransGen.cases_tail attends.progress with unmoved | ⟨_, _, advances⟩
  · rwa [unmoved] at same
  · exact absurd (hosting.of_eq (same.creation? _ _).symm) advances.not_hosting

/-- A call that finds its service without a terminal attends the creation that it begins. -/
theorem Happens.attends_of_findsIdle {action : Action} (happens : Happens w action w')
    (finds : w.findsIdle? action = some service) :
    ∃ (call : Nat) (c : Call) (w₁ w₂ : World), action = .poll call ∧ c.service = service ∧
      Attends call c (w.generation service + 1) w w₁ w₂ w' := by
  rcases findsIdle?_eq_some_iff.mp finds with ⟨call, c, rfl, found, fresh, wanted, rfl, idle⟩
  have awaits : w.awaited? c = some (w.generation c.service + 1) := by
    simp only [awaited?, fresh, idle]
  rcases happens.turn.attends found wanted awaits with ⟨w₁, w₂, attends⟩
  exact ⟨call, c, w₁, w₂, rfl, rfl, attends⟩

/-- A call that attends some creation leaves the phase alone as long as the host owes its answer for
a creation of the same service. -/
theorem Attends.phase_of_hosting {number : Nat} (attends : Attends call c number w w₁ w₂ w')
    (sound : w.Sound) (hosting : w.Hosting c.service generation)
    (kept : w'.Hosting c.service generation) : w'.phase? c.service = w.phase? c.service := by
  by_cases here : number = generation
  · subst here
    rcases attends.arrives.cases attends.found attends.wanted with
      ⟨same, _, _⟩ | ⟨_, _, _, finds, _⟩
    · exact (same.trans (attends.same_of_hosting kept)).phase? _
    · exact absurd finds (hosting.unfound sound _)
  · refine (attends.stale ?_).2.1
    rintro (⟨slot, creating⟩ | ⟨finds, _⟩)
    · rcases hosting.awaited sound with waiting | disposed
      · cases creating.symm.trans waiting
        exact here rfl
      · cases creating.symm.trans disposed
    · exact hosting.unfound sound _ finds

end Turns

/-! ## All actions -/

section Actions

variable {action : Action}

/-- The host owes its answer for creations for which it did before, and for one that begins. -/
theorem Affair.hosting_cases (affair : Affair w action w') (sound : w.Sound)
    (hosting : w'.Hosting service generation) :
    w.Hosting service generation ∨
      w.findsIdle? action = some service ∧ generation = w.generation service + 1 := by
  rcases affair.attends_or_keeps with ⟨call, c, number, w₁, w₂, rfl, attends⟩ | keeps
  · by_cases here : service = c.service ∧ generation = number
    · rcases here with ⟨rfl, rfl⟩
      have later := attends.same_of_hosting hosting
      rcases attends.arrives.cases attends.found attends.wanted with
        ⟨same, _, _⟩ | ⟨_, _, _, finds, rfl, begins, _⟩
      · exact Or.inl (hosting.of_eq ((same.trans later).creation? _ _).symm)
      · exact Or.inr ⟨finds, by rw [begins.counts.1]⟩
    · exact Or.inl (hosting.of_eq ((attends.spares sound).creation? here).symm)
  · exact Or.inl (hosting.of_eq (keeps service generation).symm)

/-- As long as the host owes its answer, nothing becomes of the service but that somebody disposes
it. -/
theorem Happens.phase_of_hosting (happens : Happens w action w') (sound : w.Sound)
    (hosting : w.Hosting service generation) (kept : w'.Hosting service generation) :
    w'.phase? service = w.phase? service ∨
      action = .dispose service ∧ w'.phase? service = some .disposed := by
  have elsewhere (same : w'.session? service = w.session? service) :
      w'.phase? service = w.phase? service := by
    rw [World.phase?, World.phase?, same]
  cases happens with
  | polled polled =>
      refine Or.inl ?_
      cases polled with
      | nothing => rfl
      | abandoned _ _ _ ends => exact ends.sessions.phase? service
      | served _ _ _ _ answers | refused _ _ _ _ answers => exact answers.sessions.phase? service
      | @attended w₁ w₂ _ c number found wanted awaits arrives progress attended =>
          have attends : Attends _ c number w w₁ w₂ w' :=
            ⟨found, wanted, awaits, arrives, progress, attended⟩
          by_cases here : service = c.service
          · subst here
            exact attends.phase_of_hosting sound hosting kept
          · exact elsewhere ((attends.spares sound).others service here)
  | @added _ _ _ made _ adds =>
      refine Or.inl (elsewhere (adds.others service ?_))
      rintro rfl
      rcases hosting with ⟨_, _, member, _⟩
      rw [creation?, adds.absent] at member
      cases member
  | @disposed made _ _ disposes =>
      by_cases here : service = made
      · subst here
        exact Or.inr ⟨rfl, phase?_eq disposes.replaces.after⟩
      · exact Or.inl (elsewhere (disposes.replaces.others service here))
  | heard _ held hears =>
      rcases hears.replaces with ⟨_, _, replaces⟩
      refine Or.inl (elsewhere (replaces.others service ?_))
      rintro rfl
      rw [hosting.not_held sound] at held
      cases held
  | unheard => exact Or.inl rfl
  | quiet _ _ quiet => exact Or.inl (quiet.sessions.phase? service)

end Actions

end World

namespace Moment

/-- The host owes its answer for a creation, perhaps since this moment. -/
def Owed (m : Moment) (service generation : Nat) : Prop :=
  m.before.Hosting service generation ∨
    m.finds? = some service ∧ generation = m.before.generation service + 1

/-- The phase in which an answer of the host meets a service.  A host that takes no time answers in
the moment in which it is asked. -/
def met? (m : Moment) (service : Nat) : Option Phase :=
  if m.finds? = some service then some (.creating (m.before.generation service + 1) none)
  else m.before.phase? service

/-- What a moment brings to a creation for which the host owes its answer. -/
inductive Brings (m : Moment) (service generation : Nat) : Prop
  | nothing (hosting : m.after.Hosting service generation)
      (same : m.after.phase? service = m.met? service)
  | disposal (action : m.action = .dispose service)
      (hosting : m.after.Hosting service generation)
      (disposed : m.after.phase? service = some .disposed)
  | answer {phase : Phase} (met : m.met? service = some phase)
      (answered : m.after.Answered service generation phase)

variable {m : Moment} {service generation : Nat}

theorem met?_of_finds (finds : m.finds? = some service) :
    m.met? service = some (.creating (m.before.generation service + 1) none) :=
  if_pos finds

theorem met?_of_hosting (hosting : m.before.Hosting service generation) (sound : m.before.Sound) :
    m.met? service = m.before.phase? service :=
  if_neg (hosting.unfound sound m.action)

/-- A call that arrives at a creation finds the service in the phase that an answer meets. -/
theorem met?_eq {call : Nat} {c : Call} {w₁ w₂ : World} (turn : m.action = .poll call)
    (attends : World.Attends call c generation m.before w₁ w₂ m.after) :
    m.met? c.service = w₁.phase? c.service := by
  rw [met?, finds?, turn]
  rcases attends.arrives.cases attends.found attends.wanted with
    ⟨same, _, none⟩ | ⟨begun, s, creation, finds, rfl, begins, sits⟩
  · rw [none, if_neg (Option.some_ne_none _).symm, same.phase?]
  · rw [if_pos finds, begins.counts.1, sits.sessions.phase?,
      World.phase?_eq begins.replaces.after]
    rfl

theorem Owed.met (owed : m.Owed service generation) (sound : m.before.Sound) :
    m.met? service = some (.creating generation none) ∨ m.met? service = some .disposed := by
  rcases owed with hosting | ⟨finds, rfl⟩
  · rw [met?_of_hosting hosting sound]
    exact hosting.awaited sound
  · exact Or.inl (met?_of_finds finds)

/-- The turn of a call that attends the creation is the only one in which the answer can come. -/
theorem Owed.brings_of_attends {call : Nat} {c : Call} {w₁ w₂ : World}
    (owed : m.Owed c.service generation) (lawful : m.Lawful) (turn : m.action = .poll call)
    (attends : World.Attends call c generation m.before w₁ w₂ m.after) :
    m.Brings c.service generation := by
  have hosting : w₁.Hosting c.service generation := by
    rcases attends.arrives.cases attends.found attends.wanted with
      ⟨same, _, none⟩ | ⟨begun, s, creation, _, rfl, begins, sits⟩
    · rcases owed with hosting | ⟨finds, _⟩
      · exact hosting.of_eq (same.creation? _ _)
      · rw [finds?, turn, none] at finds
        cases finds
    · rcases begins.hosting with ⟨due, stage⟩
      refine ⟨creation, due, ?_, stage⟩
      rw [sits.sessions.creation?, begins.creation? lawful.before, if_pos rfl]
  have met := met?_eq turn attends
  by_cases kept : m.after.Hosting c.service generation
  · exact .nothing kept (((attends.same_of_hosting kept).phase? _).trans met.symm)
  · have answered {phase : Phase} (there : m.met? c.service = some phase) :
        m.Brings c.service generation :=
      .answer there (attends.answered lawful.before hosting kept (met.symm.trans there))
    exact (owed.met lawful.before).elim answered answered

theorem Owed.brings (owed : m.Owed service generation) (lawful : m.Lawful) :
    m.Brings service generation := by
  rcases owed with hosting | ⟨finds, rfl⟩
  · by_cases kept : m.after.Hosting service generation
    · rcases lawful.happens.phase_of_hosting lawful.before hosting kept with
        same | ⟨action, disposed⟩
      · exact .nothing kept (same.trans (met?_of_hosting hosting lawful.before).symm)
      · exact .disposal action kept disposed
    · rcases lawful.happens.affair.attends_or_keeps with
        ⟨call, c, number, w₁, w₂, turn, attends⟩ | keeps
      · by_cases here : service = c.service ∧ generation = number
        · rcases here with ⟨rfl, rfl⟩
          exact Owed.brings_of_attends (Or.inl hosting) lawful turn attends
        · exact absurd (hosting.of_eq ((attends.spares lawful.before).creation? here)) kept
      · exact absurd (hosting.of_eq (keeps service generation)) kept
  · rcases lawful.happens.attends_of_findsIdle finds with ⟨call, c, w₁, w₂, turn, rfl, attends⟩
    exact Owed.brings_of_attends (Or.inr ⟨finds, rfl⟩) lawful turn attends

end Moment

namespace Run

/-- The host owes its answer for the latest creation of a service only. -/
theorem hosting_latest {run : Run} {service generation : Nat}
    (hosting : run.world.Hosting service generation) :
    generation = run.world.generation service := by
  induction run using Run.induction with
  | start env =>
      rcases hosting with ⟨_, _, member, _⟩
      cases member
  | step run action inductionHypothesis =>
      have affair := run.affair action
      -- No other creation begins while the host owes an answer, and the one that begins is the
      -- latest.
      rcases affair.hosting_cases run.sound hosting with earlier | ⟨finds, rfl⟩
      · have same := (run.meets action service).generation_of_ne (earlier.unfound run.sound action)
        rw [same]
        exact inductionHypothesis earlier
      · rcases affair.counts_of_some finds with ⟨_, _, _, count⟩
        exact count.symm

/-- Whoever asked the host waits for its answer unless somebody disposed the service. -/
theorem hosting_awaited {run : Run} {service generation : Nat}
    (hosting : run.world.Hosting service generation) :
    run.world.phase? service = some (.creating generation none) ∨
      run.world.phase? service = some .disposed ∧ ∃ m ∈ run.past, m.action = .dispose service := by
  induction run using Run.induction with
  | start env =>
      rcases hosting with ⟨_, _, member, _⟩
      cases member
  | step run action inductionHypothesis =>
      have lawful := run.lawful action
      have owed : Moment.Owed ⟨run.world, action⟩ service generation :=
        (run.affair action).hosting_cases run.sound hosting
      rw [past_step, world_step]
      rw [world_step] at hosting
      cases owed.brings lawful with
      | disposal disposes _ disposed =>
          exact Or.inr ⟨disposed, _, List.mem_append_right _ (List.mem_singleton_self _), disposes⟩
      | answer _ answered => exact absurd hosting (answered.not_hosting lawful.after)
      | nothing _ same =>
          rcases owed with earlier | ⟨finds, rfl⟩
          · rw [Moment.met?_of_hosting earlier run.sound] at same
            refine (inductionHypothesis earlier).imp same.trans ?_
            rintro ⟨disposed, m, member, disposes⟩
            exact ⟨same.trans disposed, m, List.mem_append_left _ member, disposes⟩
          · exact Or.inl (same.trans (Moment.met?_of_finds finds))

/-- Terminals are handed out for creations for which the host owes its answer. -/
theorem owed_of_handed {run : Run} {m : Moment} (member : m ∈ run.past)
    {service generation terminal : Nat}
    (unanswered : m.before.terminal? service generation = none)
    (handed : m.after.terminal? service generation = some terminal) :
    m.Owed service generation := by
  have lawful := lawful_of_mem member
  have affair := lawful.happens.affair
  have counted : 0 < generation ∧ generation ≤ m.after.generation service := by
    rcases exists_extend_of_mem member with ⟨next, _, after, _⟩
    rw [← after] at handed ⊢
    exact counted_of_terminal? handed
  have earlier (le : generation ≤ m.before.generation service) : m.Owed service generation := by
    cases settled : m.before.outcome? service generation with
    | none => exact Or.inl ((World.hosting_iff lawful.before).mpr
        ⟨⟨counted.1, le⟩, unanswered, settled⟩)
    | some outcome =>
        rcases World.terminal?_eq_some_iff.mp handed with ⟨options, order⟩
        -- Nothing happens to a creation that is over, so it would have had the terminal before.
        have kept := affair.creation?_of_settled lawful.before settled
        rw [World.order?, kept, ← World.order?] at order
        cases unanswered.symm.trans (World.terminal?_eq_some_iff.mpr ⟨options, order⟩)
  by_cases finds : m.finds? = some service
  · rcases affair.counts_of_some finds with ⟨_, _, _, count⟩
    rcases Nat.le_or_eq_of_le_succ (count ▸ counted.2) with le | latest
    · exact earlier le
    · exact Or.inr ⟨finds, latest⟩
  · have same := (affair.meets lawful.before service).generation_of_ne finds
    exact earlier (same ▸ counted.2)

/-- In every run the host owes its answer for a creation that was begun, has no terminal and is not
over.  As long as it does, the creation is the latest one of its service, which waits for it without
a terminal or is disposed, so that the host owes one answer to a service at most.  No moment changes
this but one in which somebody disposes the service or the host answers; whenever it hands a
terminal out, it owed that answer.  A terminal is taken in unless the service is disposed, and it is
turned away, disposed and told to be that of a disposed service exactly if the service is. -/
theorem only_disposal_precedes_the_host (run : Run) (service : Nat) :
    (∀ generation, run.world.Hosting service generation ↔
      (0 < generation ∧ generation ≤ run.world.generation service) ∧
        run.world.terminal? service generation = none ∧
        run.world.outcome? service generation = none) ∧
    (∀ generation, run.world.Hosting service generation →
      generation = run.world.generation service ∧
        (run.world.phase? service = some (.creating generation none) ∨
          run.world.phase? service = some .disposed ∧
            ∃ m ∈ run.past, m.action = .dispose service)) ∧
    (∀ generation other, run.world.Hosting service generation →
      run.world.Hosting service other → generation = other) ∧
    (∀ m ∈ run.past, ∀ generation, m.Owed service generation →
      m.Brings service generation ∧
      ∃ phase, m.met? service = some phase ∧
        (phase = .creating generation none ∨ phase = .disposed) ∧
        ∀ terminal, phase.record? generation terminal = none ↔ phase = .disposed) ∧
    (∀ m ∈ run.past, ∀ generation terminal, m.before.terminal? service generation = none →
      m.after.terminal? service generation = some terminal → m.Owed service generation) := by
  refine ⟨fun generation => World.hosting_iff run.sound, fun generation hosting =>
    ⟨hosting_latest hosting, hosting_awaited hosting⟩, ?_, ?_, ?_⟩
  · intro generation other hosting hosting'
    rw [hosting_latest hosting, hosting_latest hosting']
  · intro m member generation owed
    have lawful := lawful_of_mem member
    refine ⟨owed.brings lawful, ?_⟩
    rcases owed.met lawful.before with waiting | disposed
    · refine ⟨_, waiting, Or.inl rfl, fun terminal => ?_⟩
      simp [Phase.record?]
    · refine ⟨_, disposed, Or.inr rfl, fun terminal => ?_⟩
      simp [Phase.record?]
  · intro m member generation terminal unanswered handed
    exact owed_of_handed member unanswered handed

/-- A run in which a service is disposed while the host owes its answer. -/
def askedInVain : Run where
  actions :=
    [.addService "Lint" none (.fixed none), .delay 5 0, .call 0 (.show true), .poll 0, .dispose 0]

/-- The terminal that the host hands out at last is turned away, because somebody disposed the
service before. -/
theorem askedInVain_turns_away :
    (askedInVain.world.Hosting 0 1 ∧ ∃ m ∈ askedInVain.past, m.action = .dispose 0) ∧
      ∃ m ∈ ((askedInVain.step (.pass 5)).step (.poll 0)).past,
        m.Owed 0 1 ∧ m.met? 0 = some .disposed ∧ m.after.Answered 0 1 .disposed := by
  have hosting : askedInVain.world.Hosting 0 1 :=
    ((only_disposal_precedes_the_host askedInVain 0).1 1).mpr (by decide +kernel)
  have gone : askedInVain.world.phase? 0 = some .disposed := by decide +kernel
  refine ⟨⟨hosting, ?_⟩, ?_⟩
  · rcases ((only_disposal_precedes_the_host askedInVain 0).2.1 1 hosting).2 with
      creating | ⟨_, disposes⟩
    · cases gone.symm.trans creating
    · exact disposes
  · let m : Moment := ⟨(askedInVain.step (.pass 5)).world, .poll 0⟩
    have member : m ∈ ((askedInVain.step (.pass 5)).step (.poll 0)).past := by
      rw [past_step]
      exact List.mem_append_right _ (List.mem_singleton_self _)
    have handed : m.after.terminal? 0 1 = some 0 := by decide +kernel
    have met : m.met? 0 = some .disposed := by decide +kernel
    rcases only_disposal_precedes_the_host ((askedInVain.step (.pass 5)).step (.poll 0)) 0 with
      ⟨_, _, _, brings, owes⟩
    have owed := owes m member 1 0 (by decide +kernel) handed
    refine ⟨m, member, owed, met, ?_⟩
    cases (brings m member 1 owed).1 with
    | nothing hosting =>
        cases handed.symm.trans ((World.hosting_iff (lawful_of_mem member).after).mp hosting).2.1
    | disposal action => cases action
    | answer met' answered =>
        cases met.symm.trans met'
        exact answered

end Run

end Terminal
end Workbench
