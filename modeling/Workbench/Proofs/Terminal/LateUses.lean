import Workbench.Proofs.Terminal.Closing
import Workbench.Proofs.Terminal.Delivery
import Workbench.Proofs.Terminal.Disposal
import Workbench.Proofs.Terminal.Sharing

namespace Workbench
namespace Terminal

/-!
# Terminals that are used too late

A service that disposed a terminal, or heard that it was closed, does not look whether it still has
the terminal in two places.  A creation shows its terminal as soon as the environment is prepared,
and a call that waited for a creation uses the terminal with which the creation ended well, whatever
happened until it has its turn.  These are the only ways in which a terminal is used after its
service gave it up: creations that fail, new calls and all other services leave it alone.
-/

namespace Moment

/-- The environment of a creation's terminal is prepared. -/
def Completes (m : Moment) (service generation : Nat) : Prop :=
  ¬ m.before.Completed service generation ∧ m.after.Completed service generation

/-- A call has its turn that waited for a creation which ended well in the meantime. -/
structure Resumes (m : Moment) (service generation call : Nat) (c : Call) (active : Active) :
    Prop where
  turn : m.action = .poll call
  found : m.before.calls[call]? = some c
  about : c.service = service
  wanted : c.cancelled = false
  waiting : ∃ place, c.state = .waiting generation place
  settled : m.before.outcome? service generation = some (.ok active)

/-- A terminal is used although it may have been given up. -/
def UsesLate (m : Moment) (service generation : Nat) : Prop :=
  m.Completes service generation ∨ ∃ call c active, m.Resumes service generation call c active

/-- What leaves a creation alone does not use its terminal late. -/
theorem not_usesLate {m : Moment} {service generation : Nat}
    (same : m.after.creation? service generation = m.before.creation? service generation)
    (unresumed : ∀ call c active, ¬ m.Resumes service generation call c active) :
    ¬ m.UsesLate service generation := by
  rintro (⟨incomplete, creation, member, complete⟩ | ⟨call, c, active, resumes⟩)
  · exact incomplete ⟨creation, same.symm.trans member, complete⟩
  · exact unresumed call c active resumes

/-- What becomes of a terminal that was given up before. -/
inductive Lingers (m : Moment) (service generation terminal : Nat) : Prop
  | unused (same : m.after.uses terminal = m.before.uses terminal)
      (unused : ¬ m.UsesLate service generation)
  | shown {preserveFocus : Bool} (completes : m.Completes service generation)
      (unsettled : m.before.outcome? service generation = none)
      (uses : m.after.uses terminal = m.before.uses terminal ++ [.shown preserveFocus])
  | resumed {call : Nat} {c : Call} {active : Active}
      (resumes : m.Resumes service generation call c active)
      (completed : m.before.Completed service generation)
      (uses : m.after.uses terminal = m.before.uses terminal ++ c.request.uses active.shell)

/-- What was done with a terminal that was given up is not undone. -/
theorem Lingers.grows {m : Moment} {service generation terminal : Nat}
    (lingers : m.Lingers service generation terminal) :
    m.before.uses terminal <+: m.after.uses terminal := by
  cases lingers with
  | unused same => rw [same]
  | shown _ _ uses | resumed _ _ uses => rw [uses]; exact List.prefix_append _ _

theorem Lingers.uses_eq_iff {m : Moment} {service generation terminal : Nat}
    (lingers : m.Lingers service generation terminal) :
    m.after.uses terminal = m.before.uses terminal ↔ ¬ m.UsesLate service generation := by
  cases lingers with
  | unused same unused => exact iff_of_true same unused
  | shown completes _ uses =>
      refine iff_of_false ?_ (not_not.mpr (Or.inl completes))
      simp [uses]
  | @resumed call c active resumes _ uses =>
      refine iff_of_false ?_ (not_not.mpr (Or.inr ⟨call, c, active, resumes⟩))
      cases request : c.request <;> simp [uses, request, Request.uses]

end Moment

namespace World

variable {w w' : World} {service generation terminal : Nat}

/-! ## Creations whose terminal is another one -/

theorem Arrives.terminals {call : Nat} {c : Call} (arrives : Arrives call c generation w w') :
    w'.host.terminals = w.host.terminals := by
  cases arrives with
  | again => rfl
  | joined _ _ sits => exact congrArg Host.terminals sits.host
  | first _ _ begins sits => exact (congrArg Host.terminals sits.host).trans begins.terminals

theorem Advances.uses_of_ne (advances : Advances service generation w w') (sound : w.Sound)
    (inside : terminal < w.host.next)
    (different : w.terminal? service generation ≠ some terminal) :
    w'.uses terminal = w.uses terminal := by
  rcases advances with ⟨s, s', creation, creation', effect, replaces, revision, stretch, affects⟩
  have fits := (sound.each replaces.before).fits revision.old
  rw [terminal?_eq replaces.before, Service.terminal?, revision.old, Option.bind_some] at different
  have record := affects.terminals
  generalize s'.phase = phase' at stretch
  cases stretch with
  | refused | failedLate => exact uses_of_eq record terminal
  | lost | handed => rw [World.uses, World.uses, record_arrival_of_lt record inside]
  | prepared activating | failed activating =>
      rw [fits.handed activating] at different
      exact uses_use_of_ne record fun same => different (congrArg some same.symm)

/-- Terminals do not go away. -/
theorem Progress.next_le (progress : Progress service generation w w') :
    w.host.next ≤ w'.host.next := by
  induction progress with
  | refl => exact Nat.le_refl _
  | tail _ advances inductionHypothesis =>
      rcases advances with ⟨_, _, _, _, effect, _, _, _, affects⟩
      refine inductionHypothesis.trans ?_
      cases effect with
      | nothing => exact Nat.le_of_eq (congrArg List.length affects.terminals).symm
      | arrival => rw [next_arrival affects.terminals]; exact Nat.le_succ _
      | use => exact Nat.le_of_eq (next_use affects.terminals).symm

theorem Progress.uses_of_ne (progress : Progress service generation w w') (sound : w.Sound)
    (inside : terminal < w.host.next)
    (different : w'.terminal? service generation ≠ some terminal) :
    w'.uses terminal = w.uses terminal := by
  induction progress with
  | refl => rfl
  | @tail middle last earlier advances inductionHypothesis =>
      have before := (Progress.changes earlier sound).1
      have elsewhere : middle.terminal? service generation ≠ some terminal := fun handed =>
        different ((advances.treats before).terminal? handed)
      have there := Nat.lt_of_lt_of_le inside (Progress.next_le earlier)
      rw [advances.uses_of_ne before there elsewhere, inductionHypothesis elsewhere]

/-- The turn of a call uses the terminal of the creation that the call attends, and no other one. -/
theorem Attends.uses_of_ne {call : Nat} {c : Call} {w₁ w₂ : World}
    (attends : Attends call c generation w w₁ w₂ w') (sound : w.Sound)
    (inside : terminal < w.host.next)
    (different : w'.terminal? c.service generation ≠ some terminal) :
    w'.uses terminal = w.uses terminal := by
  have sound₂ := (Progress.changes attends.progress (attends.sound₁ sound)).1
  have different₂ : w₂.terminal? c.service generation ≠ some terminal := by
    rwa [World.terminal?, ← attends.sessions.1, ← World.terminal?]
  have arrived := attends.arrives.terminals
  have inside₁ : terminal < w₁.host.next := by rwa [Host.next, arrived]
  have progressed : w₂.uses terminal = w.uses terminal := by
    rw [Progress.uses_of_ne attends.progress (attends.sound₁ sound) inside₁ different₂,
      uses_of_eq arrived]
  rw [← progressed]
  cases attends.attended with
  | pending => rfl
  | @answered _ outcome settled answers =>
      have record := answers.terminals
      cases outcome with
      | error => exact uses_of_eq record terminal
      | ok active =>
          rw [(completed_of_ok sound₂ settled).2] at different₂
          exact uses_use_of_ne record fun same => different₂ (congrArg some same.symm)

/-! ## A creation whose terminal was given up -/

/-- A service that waits for a creation holds the terminal of the creation, if there is one. -/
theorem Current.held? (current : w.Current service generation) (sound : w.Sound) :
    w.held? service = w.terminal? service generation := by
  rcases current with ⟨slot, creating⟩
  rcases exists_session_of_phase creating with ⟨s, found, phase⟩
  have healthy := sound.each found
  rcases healthy.latest phase with ⟨latest, positive⟩
  rcases Service.exists_creation? positive
    (Nat.le_of_eq (latest.trans healthy.counted.symm)) with ⟨creation, member⟩
  have waiting := ((healthy.fits member).ofCurrent (Phase.isCurrent_iff.mpr ⟨slot, phase⟩)).1
  rw [held?_eq found, terminal?_eq found, Service.terminal?, member, waiting]
  rfl

/-- What the turn of a call that attends a creation does with the terminal of that creation, if the
service does not wait for it. -/
inductive Trails (call : Nat) (c : Call) (generation terminal : Nat) (w w' : World) : Prop
  /-- Nothing. -/
  | unused (same : w'.uses terminal = w.uses terminal)
      (incomplete : w'.Completed c.service generation → w.Completed c.service generation)
      (failed : ∀ active, w.outcome? c.service generation ≠ some (.ok active))
  /-- It is shown because its environment is prepared. -/
  | shown {preserveFocus : Bool} (incomplete : ¬ w.Completed c.service generation)
      (completed : w'.Completed c.service generation)
      (unsettled : w.outcome? c.service generation = none)
      (uses : w'.uses terminal = w.uses terminal ++ [.shown preserveFocus])
  /-- The call uses it because the creation had ended well. -/
  | resumed {active : Active} (completed : w.Completed c.service generation)
      (settled : w.outcome? c.service generation = some (.ok active))
      (uses : w'.uses terminal = w.uses terminal ++ c.request.uses active.shell)

/-- A creation that its service does not wait for has at most one stretch left. -/
theorem Advances.trails (advances : Advances service generation w w') (sound : w.Sound)
    (stale : ¬ w.Current service generation) (inside : terminal < w.host.next)
    (handed : w.terminal? service generation = some terminal) :
    w'.uses terminal = w.uses terminal ∧ ¬ w'.Completed service generation ∨
    ¬ w.Completed service generation ∧ w'.Completed service generation ∧
      ∃ preserveFocus, w'.uses terminal = w.uses terminal ++ [.shown preserveFocus] := by
  rcases advances with ⟨s, s', creation, creation', effect, replaces, revision, stretch, affects⟩
  have fits := (sound.each replaces.before).fits revision.old
  rw [terminal?_eq replaces.before, Service.terminal?, revision.old, Option.bind_some] at handed
  rw [current_iff replaces.before] at stale
  have record := affects.terminals
  have complete {c : Creation} {v : World} {t : Service} (found : v.session? service = some t)
      (member : t.creation? generation = some c) :
      v.Completed service generation ↔ c.terminal.isSome = true ∧ c.prepared = true := by
    rw [Completed, creation?_eq found, member]
    simp
  rw [complete replaces.before revision.old, complete replaces.after revision.new]
  generalize s'.phase = phase' at stretch
  cases stretch with
  | refused hosting | lost hosting | handed hosting =>
      rw [fits.unanswered hosting] at handed
      cases handed
  | prepared activating =>
      rw [fits.handed activating] at handed
      cases handed
      refine Or.inr ⟨fun completed => ?_, ⟨?_, rfl⟩, _, uses_use_self record inside⟩
      · rw [fits.unprepared activating] at completed
        cases completed.2
      · rw [fits.handed activating]
        rfl
  | failed activating held =>
      rcases (Phase.release?_eq_some_iff.mp held).1 with ⟨slot, creating⟩
      exact absurd (Phase.isCurrent_iff.mpr ⟨_, creating⟩) stale
  | failedLate activating =>
      refine Or.inl ⟨uses_of_eq record terminal, fun completed => ?_⟩
      rw [fits.unprepared activating] at completed
      cases completed.2

/-- A call that attends a creation for which its service does not wait was waiting for it before. -/
theorem Attends.again {call : Nat} {c : Call} {w₁ w₂ : World}
    (attends : Attends call c generation w w₁ w₂ w')
    (stale : ¬ w.AwaitsAt (.poll call) c.service generation) :
    w₁ = w ∧ ∃ place, c.state = .waiting generation place := by
  have arrived := attends.arrives.current_iff attends.found attends.wanted
  cases attends.arrives with
  | again waiting => exact ⟨rfl, _, waiting⟩
  | joined fresh creating => exact absurd (Or.inl ⟨_, creating⟩) stale
  | first fresh same begins sits =>
      subst same
      exact absurd (arrived.mp ((sits.sessions.current _ _).mpr begins.current)) stale

theorem Attends.trails {call : Nat} {c : Call} {w₁ w₂ : World}
    (attends : Attends call c generation w w₁ w₂ w') (sound : w.Sound)
    (stale : ¬ w.AwaitsAt (.poll call) c.service generation) (inside : terminal < w.host.next)
    (handed : w.terminal? c.service generation = some terminal) :
    Trails call c generation terminal w w' := by
  have same := attends.sessions.1
  have completed : w'.Completed c.service generation ↔ w₂.Completed c.service generation := by
    rw [Completed, Completed, same.creation?]
  have progress := attends.progress
  rw [(attends.again stale).1] at progress
  rcases Relation.ReflTransGen.cases_head progress with rfl | ⟨middle, advances, rest⟩
  · cases attends.attended with
    | pending unsettled =>
        refine .unused rfl id fun active => ?_
        rw [unsettled]
        exact nofun
    | @answered _ outcome settled answers =>
        have record := answers.terminals
        cases outcome with
        | error error =>
            refine .unused (uses_of_eq record terminal) completed.mp fun active => ?_
            rw [settled]
            exact nofun
        | ok active =>
            rcases completed_of_ok sound settled with ⟨before, given⟩
            rw [handed] at given
            cases given
            exact .resumed before settled (uses_use_self record inside)
  · have current : ¬ w.Current c.service generation := fun current => stale (Or.inl current)
    have unsettled := advances.unsettled
    rcases (advances.stale current).2 with ⟨error, failed⟩
    rw [Progress.eq_of_settled rest failed] at completed attends
    have answered : w'.uses terminal = middle.uses terminal := by
      cases attends.attended with
      | pending => rfl
      | answered settled answers =>
          rw [failed] at settled
          cases settled
          exact uses_of_eq answers.terminals terminal
    have last := advances.trails sound current inside handed
    rw [← completed, ← answered] at last
    rcases last with ⟨unused, incomplete⟩ | ⟨incomplete, complete, preserveFocus, shown⟩
    · refine .unused unused (fun complete => absurd complete incomplete) fun active => ?_
      rw [unsettled]
      exact nofun
    · exact .shown incomplete complete unsettled shown

/-! ## All other actions -/

/-- Whether an action is the turn of a call that attends a creation. -/
def AttendedAt (w : World) (action : Action) (w' : World) : Prop :=
  ∃ (call : Nat) (c : Call) (number : Nat) (w₁ w₂ : World), action = .poll call ∧
    Attends call c number w w₁ w₂ w'

/-- What an action does with a terminal. -/
inductive Touches (terminal : Nat) (w : World) (action : Action) (w' : World) : Prop
  | unused (same : w'.uses terminal = w.uses terminal)
  /-- The service that holds it is disposed. -/
  | disposed {service : Nat} (disposal : action = .dispose service)
      (held : w.held? service = some terminal)
      (uses : terminal < w.host.next → w'.uses terminal = w.uses terminal ++ [.disposed])
  /-- It is in use, and a call is served by it. -/
  | served {service : Nat} {active : Active} (ready : w.phase? service = some (.ready active))
      (same : active.terminal = terminal)
  | attended (attended : w.AttendedAt action w')

theorem Happens.touches {action : Action} (happens : Happens w action w') (terminal : Nat) :
    Touches terminal w action w' := by
  cases happens with
  | added adds => exact .unused (uses_of_eq adds.terminals terminal)
  | heard _ _ hears => exact .unused (uses_of_eq hears.terminals terminal)
  | unheard => exact .unused rfl
  | quiet _ _ quiet => exact .unused (uses_of_eq quiet.terminals terminal)
  | @disposed service s _ disposes =>
      have record := disposes.terminals
      have holds := held?_eq disposes.replaces.before
      cases held : s.phase.held? with
      | none =>
          rw [held] at record
          exact .unused (uses_of_eq record terminal)
      | some other =>
          rw [held] at record holds
          by_cases here : terminal = other
          · subst here
            exact .disposed rfl holds (uses_use_self record)
          · exact .unused (uses_use_of_ne record here)
  | @polled call _ polled =>
      cases polled with
      | nothing => exact .unused rfl
      | abandoned _ _ _ ends => exact .unused (uses_of_eq ends.terminals terminal)
      | refused _ _ _ _ answers => exact .unused (uses_of_eq answers.terminals terminal)
      | @served _ c active _ _ _ ready answers =>
          by_cases here : active.terminal = terminal
          · exact .served ready here
          · exact .unused (uses_use_of_ne answers.terminals fun same => here same.symm)
      | attended found wanted awaits arrives progress attended =>
          exact .attended
            ⟨call, _, _, _, _, rfl, found, wanted, awaits, arrives, progress, attended⟩

/-- Unless a call attends a creation, no terminal is used but one that its service holds. -/
theorem Happens.uses_of_free {action : Action} (happens : Happens w action w')
    (unattended : ¬ w.AttendedAt action w') (free : ∀ other, w.held? other ≠ some terminal) :
    w'.uses terminal = w.uses terminal := by
  cases happens.touches terminal with
  | unused same => exact same
  | disposed _ held => exact absurd held (free _)
  | attended attended => exact absurd attended unattended
  | @served service _ ready same =>
      rcases exists_session_of_phase ready with ⟨s, found, phase⟩
      refine absurd ?_ (free service)
      rw [held?_eq found, phase, ← same]
      rfl

end World

namespace Run

variable {run : Run} {service generation terminal : Nat}

/-- Whether the service to which a terminal was handed out gave it up: it was disposed, or it was
closed while it was held. -/
def GaveUp (run : Run) (terminal : Nat) : Prop :=
  run.Closed terminal ∨ run.world.disposals terminal ≠ 0

/-- Nobody waits for the creation of a terminal that was given up. -/
theorem GaveUp.not_awaitsAt (gaveUp : run.GaveUp terminal)
    (handed : run.world.terminal? service generation = some terminal) (action : Action) :
    ¬ run.world.AwaitsAt action service generation := by
  rintro (current | ⟨_, latest⟩)
  · refine run.not_held_of_released (Or.inr gaveUp) service ?_
    rw [current.held? run.sound, handed]
  · have counted := (counted_of_terminal? handed).2
    omega

/-- What a call that attends a creation does with a terminal that was given up. -/
theorem GaveUp.lingers_of_attends (gaveUp : run.GaveUp terminal)
    (handed : run.world.terminal? service generation = some terminal) {call number : Nat} {c : Call}
    {w₁ w₂ : World}
    (attends : World.Attends call c number run.world w₁ w₂ (run.world.perform (.poll call))) :
    Moment.Lingers ⟨run.world, .poll call⟩ service generation terminal := by
  have inside := run.ledger.within handed
  have handed' := terminal?_step handed (.poll call)
  by_cases here : service = c.service ∧ generation = number
  · rcases here with ⟨rfl, rfl⟩
    have stale := gaveUp.not_awaitsAt handed (.poll call)
    cases attends.trails run.sound stale inside handed with
    | unused same incomplete failed =>
        refine .unused same ?_
        rintro (⟨before, after⟩ | ⟨_, _, active, resumes⟩)
        · exact before (incomplete after)
        · exact failed active resumes.settled
    | shown incomplete completed unsettled uses =>
        exact .shown ⟨incomplete, completed⟩ unsettled uses
    | resumed completed settled uses =>
        exact .resumed ⟨rfl, attends.found, rfl, attends.wanted, (attends.again stale).2, settled⟩
          completed uses
  · refine .unused ?_ (Moment.not_usesLate ((attends.spares run.sound).creation? here) ?_)
    · refine attends.uses_of_ne run.sound inside fun given => here ?_
      rw [← world_step] at given
      exact (run.step (.poll call)).ledger.distinct handed' given
    · rintro other c' active resumes
      cases resumes.turn
      rcases resumes.waiting with ⟨place, waiting⟩
      cases attends.found.symm.trans resumes.found
      have awaits := attends.awaits
      simp only [World.awaited?, waiting, Option.some.injEq] at awaits
      exact here ⟨resumes.about.symm, awaits⟩

theorem GaveUp.lingers (gaveUp : run.GaveUp terminal)
    (handed : run.world.terminal? service generation = some terminal) (action : Action) :
    Moment.Lingers ⟨run.world, action⟩ service generation terminal := by
  have happens := run.happens action
  by_cases attended : run.world.AttendedAt action (run.world.perform action)
  · rcases attended with ⟨call, c, number, w₁, w₂, rfl, attends⟩
    exact gaveUp.lingers_of_attends handed attends
  · have free := run.not_held_of_released (Or.inr gaveUp)
    refine .unused (happens.uses_of_free attended free) (Moment.not_usesLate ?_ ?_)
    · rcases happens.affair.attends_or_keeps with attends | keeps
      · exact absurd attends attended
      · exact keeps service generation
    · rintro call c active resumes
      cases resumes.turn
      rcases resumes.waiting with ⟨place, waiting⟩
      have awaits : run.world.awaited? c = some generation := by
        simp only [World.awaited?, waiting]
      rcases happens.turn.attends resumes.found resumes.wanted awaits with ⟨w₁, w₂, attends⟩
      exact attended ⟨call, c, generation, w₁, w₂, rfl, attends⟩

theorem GaveUp.step (gaveUp : run.GaveUp terminal)
    (handed : run.world.terminal? service generation = some terminal) (action : Action) :
    (run.step action).GaveUp terminal := by
  have grows := (gaveUp.lingers handed action).grows
  rcases gaveUp with closed | disposed
  · exact Or.inl (closed_step.mpr (Or.inl closed))
  · refine Or.inr ?_
    rw [world_step, World.disposals_eq_count]
    rw [World.disposals_eq_count] at disposed
    exact Nat.ne_of_gt (Nat.lt_of_lt_of_le (Nat.pos_of_ne_zero disposed)
      (grows.sublist.count_le Use.disposed))

/-- It stays given up, and so does what was done with it. -/
theorem GaveUp.extend (gaveUp : run.GaveUp terminal)
    (handed : run.world.terminal? service generation = some terminal) (more : List Action) :
    (run.extend more).GaveUp terminal ∧
      run.world.uses terminal <+: (run.extend more).world.uses terminal := by
  induction more generalizing run with
  | nil => exact ⟨by rwa [extend_nil], by rw [extend_nil]⟩
  | cons action rest inductionHypothesis =>
      rw [extend_cons]
      rcases inductionHypothesis (gaveUp.step handed action) (terminal?_step handed action) with
        ⟨later, grows⟩
      refine ⟨later, List.IsPrefix.trans ?_ grows⟩
      rw [world_step]
      exact (gaveUp.lingers handed action).grows

theorem GaveUp.uses_extend (gaveUp : run.GaveUp terminal)
    (handed : run.world.terminal? service generation = some terminal) (more : List Action) :
    (run.extend more).world.uses terminal = run.world.uses terminal ↔
      ∀ m ∈ run.since more, ¬ m.UsesLate service generation := by
  induction more generalizing run with
  | nil => simp [extend_nil, since, World.history]
  | cons action rest inductionHypothesis =>
      have lingers := gaveUp.lingers handed action
      have gaveUp' := gaveUp.step handed action
      have handed' := terminal?_step handed action
      have later := inductionHypothesis gaveUp' handed'
      have grows := (gaveUp'.extend handed' rest).2
      rw [world_step] at later grows
      rw [since_cons, List.forall_mem_cons, ← later, ← lingers.uses_eq_iff, extend_cons]
      -- What was done with the terminal only grows.
      constructor
      · intro same
        rw [same] at grows
        have unchanged := grows.eq_of_length_le lingers.grows.length_le
        exact ⟨unchanged, same.trans unchanged.symm⟩
      · rintro ⟨first, second⟩
        exact second.trans first

/-- After a terminal was disposed by its service, or closed while the service held it, it is used
exactly when its creation, which goes on as long as some call waits for it, finds that the
environment is prepared, and when a call has its turn that had been waiting for the creation until
it ended well.  The first shows the terminal; the second does whatever the call asks. -/
theorem given_up_terminals_are_used_late (run : Run) {service generation terminal : Nat}
    (handed : run.world.terminal? service generation = some terminal)
    (gaveUp : run.GaveUp terminal) (more : List Action) :
    ((run.extend more).world.uses terminal = run.world.uses terminal ↔
      ∀ m ∈ run.since more, ¬ m.UsesLate service generation) ∧
    ∀ m ∈ run.since more,
      (m.Completes service generation → ∃ preserveFocus,
        m.after.uses terminal = m.before.uses terminal ++ [.shown preserveFocus]) ∧
      ∀ call c active, m.Resumes service generation call c active →
        m.after.uses terminal = m.before.uses terminal ++ c.request.uses active.shell := by
  refine ⟨gaveUp.uses_extend handed more, fun m member => ?_⟩
  rcases exists_of_mem_since member with ⟨first, _, before, _⟩
  have lingers :=
    (gaveUp.extend handed first).1.lingers (run.terminal?_extend handed first) m.action
  rw [← before] at lingers
  cases lingers with
  | unused _ unused =>
      exact ⟨fun completes => absurd (Or.inl completes) unused,
        fun call c active resumes => absurd (Or.inr ⟨call, c, active, resumes⟩) unused⟩
  | shown completes unsettled uses =>
      refine ⟨fun _ => ⟨_, uses⟩, fun call c active resumes => ?_⟩
      rw [resumes.settled] at unsettled
      cases unsettled
  | resumed resumes completed uses =>
      refine ⟨fun completes => absurd completed completes.1, fun call c active resumes' => ?_⟩
      rcases resumes with ⟨turn, found, _, _, _, settled⟩
      cases turn.symm.trans resumes'.turn
      cases found.symm.trans resumes'.found
      cases settled.symm.trans resumes'.settled
      exact uses

/-- A run in which a service is disposed while the environment of its terminal is being prepared. -/
def disposedEarly : Run where
  actions :=
    [.addService "Lint" none (.fixed none), .delay 0 5, .call 0 (.show true), .poll 0, .dispose 0]

/-- A run in which two calls wait for a creation that ends well, and only the first of them had its
turn since. -/
def halfServed : Run where
  actions :=
    [.addService "Lint" none (.fixed none), .delay 0 5, .call 0 (.show true),
      .call 0 (.sendText "make"), .poll 0, .poll 1, .pass 5, .poll 0]

theorem halfServed_gaveUp : (halfServed.step (.close 0)).GaveUp 0 :=
  Or.inl (closed_step.mpr (Or.inr ⟨0, rfl, by decide +kernel, by decide +kernel⟩))

/-- The second call sends its text to the terminal that was closed in the meantime. -/
theorem halfServed_resumes :
    ∃ m ∈ (halfServed.step (.close 0)).since [.poll 1], m.UsesLate 0 1 := by
  have handed : (halfServed.step (.close 0)).world.terminal? 0 1 = some 0 := by decide +kernel
  have used := (given_up_terminals_are_used_late _ handed halfServed_gaveUp [.poll 1]).1
  by_contra none
  have unused : ∀ m ∈ (halfServed.step (.close 0)).since [.poll 1], ¬ m.UsesLate 0 1 :=
    fun m member late => none ⟨m, member, late⟩
  have different : ((halfServed.step (.close 0)).extend [.poll 1]).world.uses 0 ≠
      (halfServed.step (.close 0)).world.uses 0 := by
    decide +kernel
  exact different (used.mpr unused)

/-- The terminal of a disposed service is shown after it was disposed, and a closed terminal is
shown and gets a text after its service heard that it was closed. -/
theorem disposed_and_closed_terminals_are_used :
    disposedEarly.GaveUp 0 ∧ disposedEarly.world.uses 0 = [.disposed] ∧
      (disposedEarly.extend [.pass 5, .poll 0]).world.uses 0 = [.disposed, .shown true] ∧
    (halfServed.step (.close 0)).GaveUp 0 ∧
      (halfServed.step (.close 0)).world.uses 0 = [.shown true, .shown true] ∧
      ((halfServed.step (.close 0)).extend [.poll 1]).world.uses 0 =
        [.shown true, .shown true, .shown true, .sent "make" false] :=
  ⟨Or.inr (by decide +kernel), by decide +kernel, by decide +kernel, halfServed_gaveUp,
    by decide +kernel, by decide +kernel⟩

end Run

end Terminal
end Workbench
