import Workbench.Proofs.Terminal.Turn

namespace Workbench
namespace Terminal

/-!
# How creations end

A creation that its service waits for goes on being waited for until it is over; then the service
has its terminal in use, or none.  One that nobody waits for ends with an error as soon as it goes
on, and nothing else of the session changes.  One that is over does not go on at all.
-/

namespace World

variable {w w' w'' : World} {service generation : Nat}

/-- Whether a service waits for a creation. -/
def Current (w : World) (service generation : Nat) : Prop :=
  ∃ slot, w.phase? service = some (.creating generation slot)

/-- Whether the host handed a terminal out for a creation and the environment was prepared in it. -/
def Completed (w : World) (service generation : Nat) : Prop :=
  ∃ creation, w.creation? service generation = some creation ∧
    creation.terminal.isSome = true ∧ creation.prepared = true

theorem current_iff {s : Service} (found : w.session? service = some s) :
    w.Current service generation ↔ s.phase.isCurrent generation = true := by
  rw [Current, phase?_eq found, Phase.isCurrent_iff]
  simp

/-- A service waits for its latest creation only. -/
theorem Current.latest (current : w.Current service generation) (sound : w.Sound) :
    generation = w.generation service ∧ 0 < generation := by
  rcases current with ⟨slot, creating⟩
  rcases exists_session_of_phase creating with ⟨s, found, phase⟩
  rw [generation_eq found]
  exact (sound.each found).latest phase

/-- A creation that is waited for is not over. -/
theorem Current.unsettled (current : w.Current service generation) (sound : w.Sound) :
    w.outcome? service generation = none := by
  refine outcome?_eq_none_iff.mpr fun creation member outcome => ?_
  rcases current with ⟨slot, creating⟩
  rcases exists_session_of_phase creating with ⟨s, found, phase⟩
  rw [creation?_eq found] at member
  exact (((sound.each found).fits member).ofCurrent
    (Phase.isCurrent_iff.mpr ⟨slot, phase⟩)).2 outcome

/-- The terminal of a creation that ended well. -/
theorem completed_of_ok (sound : w.Sound) {active : Active}
    (settled : w.outcome? service generation = some (.ok active)) :
    w.Completed service generation ∧ w.terminal? service generation = some active.terminal := by
  rcases outcome?_eq_some_iff.mp settled with ⟨creation, member, stage⟩
  rcases Option.bind_eq_some_iff.mp member with ⟨s, found, present⟩
  rcases ((sound.each found).fits present).usable stage with ⟨terminal, prepared, _⟩
  refine ⟨⟨creation, member, by rw [terminal]; rfl, prepared⟩, ?_⟩
  rw [terminal?_eq found, Service.terminal?, present, Option.bind_some, terminal]

/-- A terminal in use is that of a creation that ended well. -/
theorem outcome?_of_ready (sound : w.Sound) {active : Active}
    (ready : w.phase? service = some (.ready active)) :
    w.outcome? service (w.generation service) = some (.ok active) := by
  rcases exists_session_of_phase ready with ⟨s, found, phase⟩
  rcases (sound.each found).ready phase with ⟨creation, member, stage⟩
  rw [generation_eq found]
  exact outcome?_eq_some_iff.mpr ⟨creation, (creation?_eq found _).trans member, stage⟩

/-! ## What a creation leaves alone -/

/-- Of all sessions only one changes, and of its creations only one. -/
structure Spares (service generation : Nat) (w w' : World) : Prop where
  others : ∀ other, other ≠ service → w'.session? other = w.session? other
  numbers : ∀ number, number ≠ generation →
    w'.creation? service number = w.creation? service number

namespace Spares

theorem ofSame (same : SameSessions w w') : Spares service generation w w' :=
  ⟨fun other _ => same other, fun number _ => same.creation? service number⟩

theorem trans (first : Spares service generation w w')
    (second : Spares service generation w' w'') : Spares service generation w w'' where
  others := fun other different =>
    (second.others other different).trans (first.others other different)
  numbers := fun number different =>
    (second.numbers number different).trans (first.numbers number different)

theorem creation? (spares : Spares service generation w w') {other number : Nat}
    (different : ¬ (other = service ∧ number = generation)) :
    w'.creation? other number = w.creation? other number := by
  by_cases here : other = service
  · subst here
    exact spares.numbers number fun same => different ⟨rfl, same⟩
  · rw [World.creation?, World.creation?, spares.others other here]

theorem outcome? (spares : Spares service generation w w') {other number : Nat}
    (different : ¬ (other = service ∧ number = generation)) :
    w'.outcome? other number = w.outcome? other number := by
  apply Option.ext
  intro outcome
  rw [outcome?_eq_some_iff, outcome?_eq_some_iff, spares.creation? different]

end Spares

/-- Nothing is begun, asked of the host or told to a call. -/
structure Confined (service generation : Nat) (w w' : World) : Prop
    extends Spares service generation w w' where
  counts : ∀ other, w'.generation other = w.generation other
  requests : w'.host.requests = w.host.requests
  calls : w'.calls = w.calls

theorem Confined.trans (first : Confined service generation w w')
    (second : Confined service generation w' w'') : Confined service generation w w'' where
  toSpares := first.toSpares.trans second.toSpares
  counts := fun other => (second.counts other).trans (first.counts other)
  requests := second.requests.trans first.requests
  calls := second.calls.trans first.calls

theorem Advances.confined (advances : Advances service generation w w') :
    Confined service generation w w' := by
  rcases advances with ⟨s, s', creation, creation', effect, replaces, revision, stretch, affects⟩
  exact
    { others := replaces.others
      numbers := fun number different => by
        rw [creation?_eq replaces.before, creation?_eq replaces.after,
          revision.others number different]
      counts := fun other => by
        by_cases here : other = service
        · subst here
          rw [generation_eq replaces.before, generation_eq replaces.after, revision.count]
        · rw [World.generation, World.generation, replaces.others other here]
      requests := affects.requests
      calls := affects.calls }

theorem Progress.confined (progress : Progress service generation w w') :
    Confined service generation w w' := by
  induction progress with
  | refl => exact ⟨.ofSame (.refl w), fun _ => rfl, rfl, rfl⟩
  | tail _ advances inductionHypothesis => exact inductionHypothesis.trans advances.confined

/-! ## One stretch -/

/-- Only a creation that is not over goes on. -/
theorem Advances.unsettled (advances : Advances service generation w w') :
    w.outcome? service generation = none := by
  rcases advances with ⟨s, s', creation, creation', effect, replaces, revision, stretch, affects⟩
  refine outcome?_eq_none_iff.mpr fun found member outcome => ?_
  rw [creation?_eq replaces.before, revision.old] at member
  cases member
  exact stretch.unsettled outcome

private theorem outcome?_of_stage {s : Service} {creation : Creation} {outcome : Outcome}
    (found : w.session? service = some s) (member : s.creation? generation = some creation)
    (stage : creation.stage = .settled outcome) :
    w.outcome? service generation = some outcome :=
  outcome?_eq_some_iff.mpr ⟨creation, (creation?_eq found generation).trans member, stage⟩

/-- A creation that nobody waits for ends with an error when it goes on. -/
theorem Advances.stale (advances : Advances service generation w w')
    (stale : ¬ w.Current service generation) :
    w'.phase? service = w.phase? service ∧
      ∃ error, w'.outcome? service generation = some (.error error) := by
  rcases advances with ⟨s, s', creation, creation', effect, replaces, revision, stretch, affects⟩
  rw [current_iff replaces.before, Bool.not_eq_true] at stale
  have settled {error : Error} (stage : creation'.stage = .settled (.error error)) :
      ∃ error, w'.outcome? service generation = some (.error error) :=
    ⟨error, outcome?_of_stage replaces.after revision.new stage⟩
  refine ⟨?_, ?_⟩
  · rw [phase?_eq replaces.before, phase?_eq replaces.after]
    rcases stretch.phases with ⟨_, same⟩ | ⟨current, _⟩
    · rw [same]
    · rw [stale] at current
      cases current
  · generalize s'.phase = phase' at stretch
    cases stretch with
    | refused | lost | failed | failedLate => exact settled rfl
    | prepared activating =>
        rcases @Phase.verdict_of_not_current s.phase generation _ stale with ⟨error, failed⟩
        exact settled (congrArg Stage.settled failed)
    | handed hosting recorded due =>
        rw [(Phase.record?_eq_some_iff.mp recorded).1] at stale
        cases stale

/-- What a creation can come to that its service waits for. -/
inductive Comes (service generation : Nat) (w : World) : Prop
  | waiting (current : w.Current service generation)
  | failed {error : Error} (settled : w.outcome? service generation = some (.error error))
      (idle : w.phase? service = some .idle) (incomplete : ¬ w.Completed service generation)
  | usable {active : Active} (settled : w.outcome? service generation = some (.ok active))
      (ready : w.phase? service = some (.ready active))

theorem Advances.current (advances : Advances service generation w w') (sound : w.Sound)
    (current : w.Current service generation) : Comes service generation w' := by
  rcases advances with ⟨s, s', creation, creation', effect, replaces, revision, stretch, affects⟩
  rw [current_iff replaces.before] at current
  have fits := (sound.each replaces.before).fits revision.old
  have waiting := (fits.ofCurrent current).1
  have phase : w'.phase? service = some s'.phase := phase?_eq replaces.after
  have incomplete (missing : creation'.terminal = none ∨ creation'.prepared = false) :
      ¬ w'.Completed service generation := by
    rintro ⟨found, member, handed, prepared⟩
    rw [creation?_eq replaces.after, revision.new] at member
    cases member
    rcases missing with none | unprepared
    · rw [none] at handed
      cases handed
    · rw [unprepared] at prepared
      cases prepared
  generalize s'.phase = phase' at stretch phase
  cases stretch with
  | refused hosting error =>
      rw [Phase.settle_of_current current] at phase
      exact .failed (outcome?_of_stage replaces.after revision.new rfl) phase
        (incomplete (Or.inl (fits.unanswered hosting)))
  | lost hosting stale =>
      rw [Phase.record?_eq_none_iff.mp stale] at current
      cases current
  | handed hosting recorded due =>
      rw [(Phase.record?_eq_some_iff.mp recorded).2] at phase
      exact .waiting ⟨_, phase⟩
  | prepared activating =>
      rw [Phase.settle_of_current current] at phase
      refine .usable (outcome?_of_stage replaces.after revision.new ?_) phase
      exact congrArg Stage.settled (Phase.verdict_of_current current)
  | @failed terminal due activating released held error =>
      rw [(Phase.release?_eq_some_iff.mp held).2,
        Phase.settle_of_current (Phase.isCurrent_iff.mpr ⟨none, rfl⟩)] at phase
      exact .failed (outcome?_of_stage replaces.after revision.new rfl) phase
        (incomplete (Or.inr (fits.unprepared activating)))
  | failedLate activating stale error =>
      rw [fits.handed activating] at waiting
      exact absurd waiting (Phase.release?_eq_none_iff.mp stale _)

/-! ## All stretches of a turn -/

/-- A creation that is over stays as it is. -/
theorem Progress.eq_of_settled (progress : Progress service generation w w') {outcome : Outcome}
    (settled : w.outcome? service generation = some outcome) : w' = w := by
  rcases Relation.ReflTransGen.cases_head progress with same | ⟨_, advances, _⟩
  · exact same.symm
  · rw [advances.unsettled] at settled
    cases settled

/-- A creation that nobody waits for changes nothing of the session. -/
theorem Progress.stale (progress : Progress service generation w w')
    (stale : ¬ w.Current service generation) :
    w'.phase? service = w.phase? service ∧
      (w' = w ∨ ∃ error, w'.outcome? service generation = some (.error error)) := by
  rcases Relation.ReflTransGen.cases_head progress with same | ⟨middle, advances, rest⟩
  · exact ⟨by rw [same], Or.inl same.symm⟩
  · rcases advances.stale stale with ⟨phase, error, settled⟩
    rw [Progress.eq_of_settled rest settled]
    exact ⟨phase, Or.inr ⟨error, settled⟩⟩

/-- A creation that its service waits for is waited for or over at the end of a turn. -/
theorem Progress.current (progress : Progress service generation w w') (sound : w.Sound)
    (current : w.Current service generation) : Comes service generation w' := by
  induction progress using Relation.ReflTransGen.head_induction_on with
  | refl => exact .waiting current
  | head advances rest inductionHypothesis =>
      have next := advances.current sound current
      cases next with
      | waiting current =>
          exact inductionHypothesis (advances.sound sound) current
      | failed settled idle incomplete =>
          rw [Progress.eq_of_settled rest settled]
          exact .failed settled idle incomplete
      | usable settled ready =>
          rw [Progress.eq_of_settled rest settled]
          exact .usable settled ready

end World
end Terminal
end Workbench
