import Workbench.Terminal.Host
import Workbench.Terminal.Service

namespace Workbench
namespace Terminal

/-!
# What is always true of a service

A service and its creations fit together: only the latest creation can be the one that the service
waits for, a creation that still waits for the host has no terminal, and only disposal makes a
service lose interest in it; one whose environment is being prepared has the terminal that the
service holds for it, unless the service does not wait for it any more; one that is over is not
waited for.  `Service.Sound` says all this, and each change that a service can undergo keeps it.
-/

namespace Service

/-! ## Creations by their numbers -/

theorem creation?_succ (s : Service) (n : Nat) : s.creation? (n + 1) = s.creations[n]? := rfl

theorem creation?_pos {s : Service} {generation : Nat} {creation : Creation}
    (found : s.creation? generation = some creation) : 0 < generation := by
  cases generation with
  | zero => cases found
  | succ n => exact Nat.succ_pos n

theorem creation?_le {s : Service} {generation : Nat} {creation : Creation}
    (found : s.creation? generation = some creation) : generation ≤ s.creations.length := by
  cases generation with
  | zero => cases found
  | succ n =>
      rw [creation?_succ] at found
      exact (List.getElem?_eq_some_iff.mp found).1

theorem exists_creation? {s : Service} {generation : Nat} (positive : 0 < generation)
    (le : generation ≤ s.creations.length) :
    ∃ creation, s.creation? generation = some creation := by
  cases generation with
  | zero => exact absurd positive (Nat.lt_irrefl 0)
  | succ n => exact ⟨s.creations[n], List.getElem?_eq_getElem le⟩

theorem creation?_modifyCreation {s : Service} {generation : Nat} (positive : 0 < generation)
    (f : Creation → Creation) (other : Nat) :
    (s.modifyCreation generation f).creation? other =
      if other = generation then (s.creation? other).map f else s.creation? other := by
  cases other with
  | zero =>
      have different : ¬ 0 = generation := by omega
      simp only [creation?, different, if_false]
  | succ n =>
      simp only [creation?_succ, modifyCreation, List.getElem?_modify]
      by_cases same : n + 1 = generation
      · have index : generation - 1 = n := by omega
        simp only [index, if_true, same, Option.map_eq_map]
      · have index : ¬ generation - 1 = n := by omega
        simp only [index, if_false, same, Option.map_eq_map, Option.map_id']

@[simp]
theorem length_modifyCreation (s : Service) (generation : Nat) (f : Creation → Creation) :
    (s.modifyCreation generation f).creations.length = s.creations.length := by
  simp only [modifyCreation, List.length_modify]

@[simp]
theorem creation?_withPhase (s : Service) (phase : Phase) (generation : Nat) :
    ({ s with phase } : Service).creation? generation = s.creation? generation := rfl

/-- The terminal that the host handed out for a creation. -/
def terminal? (s : Service) (generation : Nat) : Option Nat :=
  (s.creation? generation).bind Creation.terminal

def begun (s : Service) (creation : Creation) : Service :=
  { s with
    generation := s.generation + 1
    phase := .creating (s.generation + 1) none
    creations := s.creations ++ [creation] }

theorem creation?_begun {s : Service} (counted : s.creations.length = s.generation)
    (creation : Creation) (other : Nat) :
    (s.begun creation).creation? other =
      if other = s.generation + 1 then some creation else s.creation? other := by
  cases other with
  | zero => rfl
  | succ n =>
      simp only [creation?_succ, begun, Nat.add_right_cancel_iff]
      by_cases same : n = s.generation
      · rw [if_pos same, same, ← counted, List.getElem?_concat_length]
      · rw [if_neg same]
        by_cases before : n < s.creations.length
        · exact List.getElem?_append_left before
        · have beyond : (s.creations ++ [creation]).length ≤ n := by
            simp only [List.length_append, List.length_singleton]
            omega
          rw [List.getElem?_eq_none beyond, List.getElem?_eq_none (by omega)]

/-- A service of which only the phase and one creation are not as before.  What the host was told
for that creation stays as well. -/
structure Revision (s s' : Service) (generation : Nat) (creation creation' : Creation) : Prop where
  title : s'.title = s.title
  resource : s'.resource = s.resource
  helper : s'.helper = s.helper
  count : s'.generation = s.generation
  length : s'.creations.length = s.creations.length
  old : s.creation? generation = some creation
  new : s'.creation? generation = some creation'
  others : ∀ other, other ≠ generation → s'.creation? other = s.creation? other
  options : creation'.options = creation.options
  shell : creation'.shell = creation.shell
  focus : creation'.preserveFocus = creation.preserveFocus

namespace Revision

variable {s s' s'' : Service} {generation : Nat} {creation creation' creation'' : Creation}

theorem trans (first : Revision s s' generation creation creation')
    (second : Revision s' s'' generation creation' creation'') :
    Revision s s'' generation creation creation'' where
  title := second.title.trans first.title
  resource := second.resource.trans first.resource
  helper := second.helper.trans first.helper
  count := second.count.trans first.count
  length := second.length.trans first.length
  old := first.old
  new := second.new
  others := fun other different =>
    (second.others other different).trans (first.others other different)
  options := second.options.trans first.options
  shell := second.shell.trans first.shell
  focus := second.focus.trans first.focus

/-- A new phase is a revision of any creation. -/
theorem ofPhase (old : s.creation? generation = some creation) (phase : Phase) :
    Revision s { s with phase } generation creation creation where
  title := rfl
  resource := rfl
  helper := rfl
  count := rfl
  length := rfl
  old := old
  new := old
  others := fun _ _ => rfl
  options := rfl
  shell := rfl
  focus := rfl

/-- Changing a creation is a revision if what the host was told stays. -/
theorem ofModify (old : s.creation? generation = some creation) {f : Creation → Creation}
    (options : (f creation).options = creation.options)
    (shell : (f creation).shell = creation.shell)
    (focus : (f creation).preserveFocus = creation.preserveFocus) :
    Revision s (s.modifyCreation generation f) generation creation (f creation) where
  title := rfl
  resource := rfl
  helper := rfl
  count := rfl
  length := length_modifyCreation s generation f
  old := old
  new := by rw [creation?_modifyCreation (creation?_pos old), if_pos rfl, old, Option.map_some]
  others := fun other different => by
    rw [creation?_modifyCreation (creation?_pos old), if_neg different]
  options := options
  shell := shell
  focus := focus

end Revision

end Service

/-! ## One creation and the phase of its service -/

namespace Phase

theorem isCurrent_iff {phase : Phase} {generation : Nat} :
    phase.isCurrent generation = true ↔ ∃ slot, phase = .creating generation slot := by
  cases phase with
  | creating current slot =>
      simp only [isCurrent, beq_iff_eq, creating.injEq]
      constructor
      · intro same
        exact ⟨slot, same, rfl⟩
      · rintro ⟨_, same, _⟩
        exact same
  | idle | ready | disposed => simp [isCurrent]

/-- A terminal is recorded for a creation exactly if the service waits for it. -/
theorem record?_eq_some_iff {phase recorded : Phase} {generation terminal : Nat} :
    phase.record? generation terminal = some recorded ↔
      phase.isCurrent generation = true ∧ recorded = .creating generation (some terminal) := by
  cases phase with
  | creating current slot =>
      simp only [record?, isCurrent, beq_iff_eq, Option.ite_none_right_eq_some, Option.some.injEq]
      constructor
      · rintro ⟨rfl, rfl⟩
        exact ⟨rfl, rfl⟩
      · rintro ⟨rfl, rfl⟩
        exact ⟨rfl, rfl⟩
  | idle | ready | disposed => simp [record?, isCurrent]

theorem record?_eq_none_iff {phase : Phase} {generation terminal : Nat} :
    phase.record? generation terminal = none ↔ phase.isCurrent generation = false := by
  cases phase with
  | creating current slot => simp [record?, isCurrent]
  | idle | ready | disposed => simp [record?, isCurrent]

/-- A terminal is given back exactly if the service waits for its creation and has it. -/
theorem release?_eq_some_iff {phase released : Phase} {generation : Nat} :
    phase.release? generation = some released ↔
      (∃ terminal, phase = .creating generation (some terminal)) ∧
        released = .creating generation none := by
  cases phase with
  | creating current slot =>
      cases slot with
      | none => simp [release?]
      | some terminal =>
          simp only [release?, Option.ite_none_right_eq_some, Option.some.injEq, creating.injEq]
          constructor
          · rintro ⟨rfl, rfl⟩
            exact ⟨⟨terminal, rfl, rfl⟩, rfl⟩
          · rintro ⟨⟨_, rfl, _⟩, rfl⟩
            exact ⟨rfl, rfl⟩
  | idle | ready | disposed => simp [release?]

theorem release?_eq_none_iff {phase : Phase} {generation : Nat} :
    phase.release? generation = none ↔
      ∀ terminal, phase ≠ .creating generation (some terminal) := by
  cases phase with
  | creating current slot => cases slot <;> simp [release?]
  | idle | ready | disposed => simp [release?]

@[simp]
theorem verdict_error (phase : Phase) (generation : Nat) (error : Error) :
    phase.verdict generation (.error error) = .error error := by
  simp [verdict]

theorem settle_of_current {phase : Phase} {generation : Nat} {outcome : Outcome}
    (current : phase.isCurrent generation = true) :
    phase.settle generation outcome = after outcome := by
  simp [settle, current]

/-- Once it is settled, nobody waits for a creation any more. -/
theorem settle_isCurrent (phase : Phase) (generation : Nat) (outcome : Outcome) :
    (phase.settle generation outcome).isCurrent generation = false := by
  cases current : phase.isCurrent generation with
  | true =>
      rw [settle_of_current current]
      cases outcome <;> rfl
  | false => rw [settle_of_not_current current, current]

theorem verdict_of_current {phase : Phase} {generation : Nat} {outcome : Outcome}
    (current : phase.isCurrent generation = true) :
    phase.verdict generation outcome = outcome := by
  simp [verdict, current]

/-- Whoever is handed a terminal waited for a creation that counted. -/
theorem verdict_eq_ok {phase : Phase} {generation : Nat} {outcome : Outcome} {active : Active}
    (usable : phase.verdict generation outcome = .ok active) :
    phase.isCurrent generation = true ∧ outcome = .ok active := by
  cases current : phase.isCurrent generation with
  | true => exact ⟨rfl, (verdict_of_current current).symm.trans usable⟩
  | false =>
      rcases @verdict_of_not_current phase generation outcome current with ⟨error, failed⟩
      rw [failed] at usable
      cases usable

end Phase

/-- What becomes of the host's terminals when a creation goes on. -/
inductive Effect where
  | nothing
  /-- There is one more, whose activation begins, or which is disposed at once. -/
  | arrival (options : Options) (activation : Option Activation)
  | use (terminal : Nat) (uses : List Use)

/-- What is done to a creation and to the phase of its service when the creation goes on from one
wait to the next.  The number `next` is the name of the terminal that the host would create. -/
inductive Stretch (generation next : Nat) (resource : Option Url) (phase : Phase)
    (creation : Creation) : Phase → Creation → Effect → Prop
  /-- The host does not create a terminal. -/
  | refused {due : Nat} (hosting : creation.stage = .hosting due) (error : Error) :
      Stretch generation next resource phase creation (phase.settle generation (.error error))
        { creation with stage := .settled (.error error) } .nothing
  /-- The host creates a terminal that nobody waits for any more. -/
  | lost {due : Nat} (hosting : creation.stage = .hosting due)
      (stale : phase.record? generation next = none) :
      Stretch generation next resource phase creation
        (phase.settle generation (.error .terminalDisposed))
        { creation with terminal := some next, stage := .settled (.error .terminalDisposed) }
        (.arrival creation.options none)
  /-- The host creates a terminal, and the environment is to be prepared in it. -/
  | handed {due : Nat} (hosting : creation.stage = .hosting due) {recorded : Phase}
      (current : phase.record? generation next = some recorded) (due' : Nat) :
      Stretch generation next resource phase creation recorded
        { creation with terminal := some next, stage := .activating next due' }
        (.arrival creation.options (some ⟨next, resource, creation.preserveFocus⟩))
  /-- The environment is prepared. -/
  | prepared {terminal due : Nat} (activating : creation.stage = .activating terminal due) :
      Stretch generation next resource phase creation
        (phase.settle generation (.ok ⟨terminal, creation.shell⟩))
        { creation with
          prepared := true
          stage := .settled (phase.verdict generation (.ok ⟨terminal, creation.shell⟩)) }
        (.use terminal [.shown creation.preserveFocus])
  /-- The environment cannot be prepared, and the terminal is disposed. -/
  | failed {terminal due : Nat} (activating : creation.stage = .activating terminal due)
      {released : Phase} (held : phase.release? generation = some released) (error : Error) :
      Stretch generation next resource phase creation (released.settle generation (.error error))
        { creation with stage := .settled (.error error) } (.use terminal [.disposed])
  /-- The environment cannot be prepared in a terminal that is not held any more. -/
  | failedLate {terminal due : Nat} (activating : creation.stage = .activating terminal due)
      (stale : phase.release? generation = none) (error : Error) :
      Stretch generation next resource phase creation (phase.settle generation (.error error))
        { creation with stage := .settled (.error error) } .nothing

/-- A creation that nobody waits for leaves the phase alone; one that somebody waits for leads to
its terminal, to no terminal, or to one in use. -/
theorem Stretch.phases {generation next : Nat} {resource : Option Url} {phase phase' : Phase}
    {creation creation' : Creation} {effect : Effect}
    (stretch : Stretch generation next resource phase creation phase' creation' effect) :
    phase.isCurrent generation = false ∧ phase' = phase ∨
    phase.isCurrent generation = true ∧
      (phase' = .creating generation (some next) ∨ phase' = .idle ∨
        ∃ active, phase' = .ready active ∧ creation'.stage = .settled (.ok active)) := by
  cases current : phase.isCurrent generation with
  | false =>
      refine Or.inl ⟨rfl, ?_⟩
      cases stretch with
      | refused | lost | prepared | failedLate => exact Phase.settle_of_not_current current
      | handed hosting recorded =>
          rw [(Phase.record?_eq_some_iff.mp recorded).1] at current
          cases current
      | failed activating held =>
          rcases (Phase.release?_eq_some_iff.mp held).1 with ⟨terminal, creating⟩
          rw [Phase.isCurrent_iff.mpr ⟨_, creating⟩] at current
          cases current
  | true =>
      refine Or.inr ⟨rfl, ?_⟩
      cases stretch with
      | refused hosting error =>
          exact Or.inr (Or.inl (Phase.settle_of_current current))
      | lost hosting stale =>
          rw [Phase.record?_eq_none_iff.mp stale] at current
          cases current
      | handed hosting recorded => exact Or.inl (Phase.record?_eq_some_iff.mp recorded).2
      | prepared activating =>
          refine Or.inr (Or.inr ⟨_, Phase.settle_of_current current, ?_⟩)
          simp only [Phase.verdict_of_current current]
      | failed activating held error =>
          refine Or.inr (Or.inl ?_)
          rw [(Phase.release?_eq_some_iff.mp held).2]
          exact Phase.settle_of_current (Phase.isCurrent_iff.mpr ⟨none, rfl⟩)
      | failedLate activating stale error =>
          exact Or.inr (Or.inl (Phase.settle_of_current current))

/-- A creation that goes on was not over. -/
theorem Stretch.unsettled {generation next : Nat} {resource : Option Url} {phase phase' : Phase}
    {creation creation' : Creation} {effect : Effect}
    (stretch : Stretch generation next resource phase creation phase' creation' effect)
    (outcome : Outcome) : creation.stage ≠ .settled outcome := by
  intro settled
  cases stretch with
  | refused stage | lost stage | handed stage | prepared stage | failed stage | failedLate stage =>
      rw [stage] at settled
      cases settled

/-- How far a creation has come, given the phase of its service. -/
inductive Creation.Fits (phase : Phase) (generation : Nat) (creation : Creation) : Prop
  /-- It waits for the host, and only disposal makes the service lose interest. -/
  | hosting {due : Nat} (stage : creation.stage = .hosting due)
      (unanswered : creation.terminal = none) (prepared : creation.prepared = false)
      (awaited : phase = .creating generation none ∨ phase = .disposed)
  /-- Its environment is being prepared, in a terminal that the service holds if it waits. -/
  | activating {terminal due : Nat} (stage : creation.stage = .activating terminal due)
      (handed : creation.terminal = some terminal) (prepared : creation.prepared = false)
      (held : phase.isCurrent generation = true → phase = .creating generation (some terminal))
  /-- It is over, and nobody waits for it. -/
  | settled {outcome : Outcome} (stage : creation.stage = .settled outcome)
      (past : phase.isCurrent generation = false)
      (usable : ∀ active, outcome = .ok active → creation.terminal = some active.terminal ∧
        creation.prepared = true ∧ active.shell = creation.shell)

namespace Creation.Fits

variable {phase phase' : Phase} {generation : Nat} {creation : Creation}

/-- A creation that does not wait for the host fits any phase in which nobody waits for it. -/
theorem elsewhere (fits : creation.Fits phase generation)
    (notAwaited : phase ≠ .creating generation none) (notDisposed : phase ≠ .disposed)
    (later : phase'.isCurrent generation = false) : creation.Fits phase' generation := by
  cases fits with
  | hosting stage unanswered prepared awaited =>
      rcases awaited with awaited | disposed
      · exact absurd awaited notAwaited
      · exact absurd disposed notDisposed
  | activating stage handed prepared held =>
      refine .activating stage handed prepared fun current => ?_
      rw [later] at current
      cases current
  | settled stage past usable => exact .settled stage later usable

/-- Every creation fits a disposed service. -/
theorem ofDisposed (fits : creation.Fits phase generation) :
    creation.Fits .disposed generation := by
  cases fits with
  | hosting stage unanswered prepared awaited =>
      exact .hosting stage unanswered prepared (Or.inr rfl)
  | activating stage handed prepared held =>
      exact .activating stage handed prepared nofun
  | settled stage past usable => exact .settled stage rfl usable

/-- Who waits for a creation does not matter. -/
theorem seated (fits : creation.Fits phase generation) (seats : Seats) :
    ({ creation with seats } : Creation).Fits phase generation := by
  cases fits with
  | hosting stage unanswered prepared awaited => exact .hosting stage unanswered prepared awaited
  | activating stage handed prepared held => exact .activating stage handed prepared held
  | settled stage past usable => exact .settled stage past usable

/-- A service that waits for a creation has its terminal as soon as there is one, and the creation
is not over. -/
theorem ofCurrent (fits : creation.Fits phase generation)
    (current : phase.isCurrent generation = true) :
    phase = .creating generation creation.terminal ∧
      ∀ outcome, creation.stage ≠ .settled outcome := by
  rcases Phase.isCurrent_iff.mp current with ⟨slot, creating⟩
  cases fits with
  | hosting stage unanswered prepared awaited =>
      rcases awaited with awaited | disposed
      · exact ⟨by rw [unanswered, awaited], by rw [stage]; exact nofun⟩
      · rw [disposed] at creating
        cases creating
  | activating stage handed prepared held =>
      exact ⟨by rw [handed, held current], by rw [stage]; exact nofun⟩
  | settled stage past usable =>
      rw [past] at current
      cases current

/-- A creation that waits for the host has no terminal. -/
theorem unanswered (fits : creation.Fits phase generation) {due : Nat}
    (hosting : creation.stage = .hosting due) : creation.terminal = none := by
  cases fits with
  | hosting _ unanswered => exact unanswered
  | activating stage => rw [stage] at hosting; cases hosting
  | settled stage => rw [stage] at hosting; cases hosting

/-- A creation whose environment is being prepared has the terminal in which that happens. -/
theorem handed (fits : creation.Fits phase generation) {terminal due : Nat}
    (activating : creation.stage = .activating terminal due) :
    creation.terminal = some terminal := by
  cases fits with
  | hosting stage => rw [stage] at activating; cases activating
  | activating stage handed => rw [stage] at activating; cases activating; exact handed
  | settled stage => rw [stage] at activating; cases activating

theorem unprepared (fits : creation.Fits phase generation) {terminal due : Nat}
    (activating : creation.stage = .activating terminal due) : creation.prepared = false := by
  cases fits with
  | hosting stage => rw [stage] at activating; cases activating
  | activating _ _ prepared => exact prepared
  | settled stage => rw [stage] at activating; cases activating

/-- A creation that ended well has the terminal that it ended with. -/
theorem usable (fits : creation.Fits phase generation) {active : Active}
    (settled : creation.stage = .settled (.ok active)) :
    creation.terminal = some active.terminal ∧ creation.prepared = true ∧
      active.shell = creation.shell := by
  cases fits with
  | hosting stage => rw [stage] at settled; cases settled
  | activating stage => rw [stage] at settled; cases settled
  | settled stage _ usable =>
      rw [stage] at settled
      cases settled
      exact usable active rfl

/-- A creation goes on fitting as it goes on. -/
theorem stretch {next : Nat} {resource : Option Url} {creation' : Creation} {effect : Effect}
    (fits : creation.Fits phase generation)
    (stretch : Stretch generation next resource phase creation phase' creation' effect) :
    creation'.Fits phase' generation := by
  cases stretch with
  | refused hosting error =>
      exact .settled rfl (Phase.settle_isCurrent _ _ _) nofun
  | lost hosting stale =>
      exact .settled rfl (Phase.settle_isCurrent _ _ _) nofun
  | handed hosting current due' =>
      cases fits with
      | hosting stage unanswered prepared awaited =>
          exact .activating rfl rfl prepared fun _ => (Phase.record?_eq_some_iff.mp current).2
      | activating stage => rw [stage] at hosting; cases hosting
      | settled stage => rw [stage] at hosting; cases hosting
  | prepared activating =>
      refine .settled rfl (Phase.settle_isCurrent _ _ _) fun active usable => ?_
      rcases Phase.verdict_eq_ok usable with ⟨_, same⟩
      cases same
      exact ⟨fits.handed activating, rfl, rfl⟩
  | failed activating held error =>
      exact .settled rfl (Phase.settle_isCurrent _ _ _) nofun
  | failedLate activating stale error =>
      exact .settled rfl (Phase.settle_isCurrent _ _ _) nofun

end Creation.Fits

/-! ## Sound services -/

/-- What is always true of a service. -/
structure Service.Sound (s : Service) : Prop where
  /-- Creations are counted. -/
  counted : s.creations.length = s.generation
  /-- Only the latest creation can be waited for. -/
  latest : ∀ {generation slot}, s.phase = .creating generation slot →
    generation = s.generation ∧ 0 < generation
  /-- The terminal in use is that of the latest creation. -/
  ready : ∀ {active}, s.phase = .ready active →
    ∃ creation, s.creation? s.generation = some creation ∧ creation.stage = .settled (.ok active)
  /-- Every creation fits the phase. -/
  fits : ∀ {generation creation}, s.creation? generation = some creation →
    creation.Fits s.phase generation
  /-- The kind of shell is that of the path that the host is told. -/
  told : ∀ {generation creation}, s.creation? generation = some creation →
    creation.shell = Shell.identify? creation.options.shellPath

namespace Service.Sound

variable {s s' : Service}

theorem ofNew (title : String) (resource : Option Url) (helper : Helper) :
    ({ title, resource, helper } : Service).Sound where
  counted := rfl
  latest := nofun
  ready := nofun
  fits := fun {generation _} found => by cases generation <;> cases found
  told := fun {generation _} found => by cases generation <;> cases found

/-- The terminal that a service holds is that of its latest creation. -/
theorem held (sound : s.Sound) {terminal : Nat} (held : s.phase.held? = some terminal) :
    s.terminal? s.generation = some terminal := by
  cases phase : s.phase with
  | creating generation slot =>
      rcases sound.latest phase with ⟨same, positive⟩
      subst same
      rcases exists_creation? positive (Nat.le_of_eq sound.counted.symm) with ⟨creation, found⟩
      have current : s.phase.isCurrent s.generation = true := Phase.isCurrent_iff.mpr ⟨slot, phase⟩
      have waiting := ((sound.fits found).ofCurrent current).1
      rw [phase] at waiting held
      cases waiting
      rw [terminal?, found, Option.bind_some]
      exact held
  | ready active =>
      rcases sound.ready phase with ⟨creation, found, stage⟩
      rw [phase] at held
      rw [terminal?, found, Option.bind_some, ((sound.fits found).usable stage).1]
      exact held
  | idle | disposed => rw [phase] at held; cases held

/-- A revision is sound if its creation and its phase fit all that is there. -/
theorem revise (sound : s.Sound) {generation : Nat} {creation creation' : Creation}
    (revision : Revision s s' generation creation creation')
    (latest : ∀ {other slot}, s'.phase = .creating other slot → s.phase.isCurrent other = true)
    (ready : ∀ {active}, s'.phase = .ready active →
      s.phase = .ready active ∧ s.generation ≠ generation ∨
      generation = s.generation ∧ creation'.stage = .settled (.ok active))
    (fits : creation'.Fits s'.phase generation)
    (others : ∀ {other found}, other ≠ generation → s.creation? other = some found →
      found.Fits s'.phase other) : s'.Sound where
  counted := by rw [revision.length, revision.count, sound.counted]
  latest := fun {other _} creating => by
    rcases Phase.isCurrent_iff.mp (latest creating) with ⟨slot, before⟩
    rw [revision.count]
    exact sound.latest before
  ready := fun {active} usable => by
    rw [revision.count]
    rcases ready usable with ⟨before, different⟩ | ⟨same, stage⟩
    · rcases sound.ready before with ⟨found, member, stage⟩
      exact ⟨found, (revision.others _ different).trans member, stage⟩
    · rw [← same]
      exact ⟨creation', revision.new, stage⟩
  fits := fun {other found} member => by
    by_cases same : other = generation
    · subst same
      rw [revision.new] at member
      cases member
      exact fits
    · rw [revision.others other same] at member
      exact others same member
  told := fun {other found} member => by
    by_cases same : other = generation
    · subst same
      rw [revision.new] at member
      cases member
      rw [revision.shell, revision.options]
      exact sound.told revision.old
    · rw [revision.others other same] at member
      exact sound.told member

/-- A creation that goes on keeps its service sound. -/
theorem stretch (sound : s.Sound) {generation next : Nat} {creation creation' : Creation}
    {effect : Effect} (revision : Revision s s' generation creation creation')
    (stretch : Stretch generation next s.resource s.phase creation s'.phase creation' effect) :
    s'.Sound := by
  have fits := (sound.fits revision.old).stretch stretch
  rcases stretch.phases with ⟨_, same⟩ | ⟨current, later⟩
  · refine sound.revise revision ?_ ?_ fits ?_
    · intro other slot creating
      rw [same] at creating
      exact Phase.isCurrent_iff.mpr ⟨slot, creating⟩
    · intro active usable
      rw [same] at usable
      refine Or.inl ⟨usable, fun latest => ?_⟩
      rcases sound.ready usable with ⟨found, member, stage⟩
      rw [latest, revision.old] at member
      cases member
      exact stretch.unsettled _ stage
    · intro other found _ member
      rw [same]
      exact sound.fits member
  · rcases Phase.isCurrent_iff.mp current with ⟨slot, creating⟩
    have latest := (sound.latest creating).1
    refine sound.revise revision ?_ ?_ fits ?_
    · intro other slot' creating'
      rcases later with next | idle | ⟨active, ready, _⟩
      · rw [next] at creating'
        cases creating'
        exact current
      · rw [idle] at creating'
        cases creating'
      · rw [ready] at creating'
        cases creating'
    · intro active usable
      rcases later with next | idle | ⟨_, ready, stage⟩
      · rw [next] at usable
        cases usable
      · rw [idle] at usable
        cases usable
      · rw [ready] at usable
        cases usable
        exact Or.inr ⟨latest, stage⟩
    · intro other found different member
      refine (sound.fits member).elsewhere ?_ ?_ ?_
      · rw [creating]
        intro same
        cases same
        exact different rfl
      · rw [creating]
        exact nofun
      · rcases later with next | idle | ⟨_, ready, _⟩
        · rw [next]
          simpa [Phase.isCurrent] using different.symm
        · rw [idle]
          rfl
        · rw [ready]
          rfl

/-- A creation begins in a service that has no terminal. -/
theorem begun (sound : s.Sound) (idle : s.phase = .idle) {creation : Creation} {due : Nat}
    (hosting : creation.stage = .hosting due) (unanswered : creation.terminal = none)
    (unprepared : creation.prepared = false)
    (told : creation.shell = Shell.identify? creation.options.shellPath) :
    (s.begun creation).Sound where
  counted := by
    show (s.creations ++ [creation]).length = s.generation + 1
    rw [List.length_append, sound.counted, List.length_singleton]
  latest := fun creating => by
    cases creating
    exact ⟨rfl, Nat.succ_pos _⟩
  ready := nofun
  fits := fun {other found} member => by
    rw [creation?_begun sound.counted] at member
    by_cases same : other = s.generation + 1
    · rw [if_pos same] at member
      cases member
      subst same
      exact .hosting hosting unanswered unprepared (Or.inl rfl)
    · rw [if_neg same] at member
      refine (sound.fits member).elsewhere ?_ ?_ ?_
      · rw [idle]
        exact nofun
      · rw [idle]
        exact nofun
      · simpa [Service.begun, Phase.isCurrent] using Ne.symm same
  told := fun {other found} member => by
    rw [creation?_begun sound.counted] at member
    by_cases same : other = s.generation + 1
    · rw [if_pos same] at member
      cases member
      exact told
    · rw [if_neg same] at member
      exact sound.told member

/-- A service whose terminal was closed is sound. -/
theorem closed (sound : s.Sound) {terminal : Nat} (held : s.phase.held? = some terminal) :
    ({ s with phase := .idle } : Service).Sound where
  counted := sound.counted
  latest := nofun
  ready := nofun
  fits := fun {_ _} member => by
    refine (sound.fits member).elsewhere ?_ ?_ rfl
    · intro waiting
      rw [waiting] at held
      cases held
    · intro disposed
      rw [disposed] at held
      cases held
  told := sound.told

theorem disposed (sound : s.Sound) : ({ s with phase := .disposed } : Service).Sound where
  counted := sound.counted
  latest := nofun
  ready := nofun
  fits := fun member => (sound.fits member).ofDisposed
  told := sound.told

end Service.Sound

end Terminal
end Workbench
