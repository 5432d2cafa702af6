import Workbench.Proofs.Terminal.Sound
import Workbench.Terminal.World

namespace Workbench
namespace Terminal

/-!
# Sessions

What a service does with its terminals depends neither on who refers to it nor on who waits for its
creations.  Without these a service is a `session`: its title and resource, its phase, and its
creations one after the other.  The questions about a world that later statements are about are
asked of its sessions and of the host's record.
-/

/-- A creation as far as it does not matter who waits for it. -/
def Creation.bare (creation : Creation) : Creation :=
  { creation with seats := {} }

namespace Creation.Fits

/-- Whether a creation fits has nothing to do with who waits for it. -/
theorem bare_iff {phase : Phase} {generation : Nat} {creation : Creation} :
    creation.bare.Fits phase generation ↔ creation.Fits phase generation :=
  ⟨fun fits => fits.seated creation.seats, fun fits => fits.seated {}⟩

end Creation.Fits

theorem Stretch.bare {generation next : Nat} {resource : Option Url} {phase phase' : Phase}
    {creation creation' : Creation} {effect : Effect}
    (stretch : Stretch generation next resource phase creation phase' creation' effect) :
    Stretch generation next resource phase creation.bare phase' creation'.bare effect := by
  have same : creation.bare.stage = creation.stage := rfl
  cases stretch with
  | refused hosting error => exact .refused (same.trans hosting) error
  | lost hosting stale => exact .lost (same.trans hosting) stale
  | handed hosting current due => exact .handed (same.trans hosting) current due
  | prepared activating => exact .prepared (same.trans activating)
  | failed activating held error => exact .failed (same.trans activating) held error
  | failedLate activating stale error => exact .failedLate (same.trans activating) stale error

namespace Service

/-- A service as far as it does not matter who refers to it and who waits for its creations. -/
def session (s : Service) : Service :=
  { s with owners := 1, dropped := false, creations := s.creations.map Creation.bare }

@[simp]
theorem phase_session (s : Service) : s.session.phase = s.phase := rfl

@[simp]
theorem generation_session (s : Service) : s.session.generation = s.generation := rfl

@[simp]
theorem creation?_session (s : Service) (generation : Nat) :
    s.session.creation? generation = (s.creation? generation).map Creation.bare := by
  cases generation with
  | zero => rfl
  | succ n => exact List.getElem?_map

theorem session_begun (s : Service) (creation : Creation) :
    (s.begun creation).session = s.session.begun creation.bare := by
  simp only [session, begun, List.map_append, List.map_singleton]

/-- What a change of a creation leaves alone but for those who wait for it is the same session. -/
theorem session_modifyCreation (s : Service) (generation : Nat) {f : Creation → Creation}
    (same : ∀ creation, (f creation).bare = creation.bare) :
    (s.modifyCreation generation f).session = s.session := by
  have creations : (s.creations.modify (generation - 1) f).map Creation.bare =
      s.creations.map Creation.bare := by
    apply List.ext_getElem?
    intro other
    rw [List.getElem?_map, List.getElem?_map, List.getElem?_modify]
    cases s.creations[other]? with
    | none => rfl
    | some creation =>
        by_cases here : generation - 1 = other
        · simp [here, same]
        · simp [here]
  simp only [session, modifyCreation, creations]

theorem Revision.session {s s' : Service} {generation : Nat} {creation creation' : Creation}
    (revision : Revision s s' generation creation creation') :
    Revision s.session s'.session generation creation.bare creation'.bare where
  title := revision.title
  resource := revision.resource
  helper := revision.helper
  count := revision.count
  length := by
    simp only [Service.session, List.length_map]
    exact revision.length
  old := by rw [creation?_session, revision.old, Option.map_some]
  new := by rw [creation?_session, revision.new, Option.map_some]
  others := fun other different => by
    rw [creation?_session, creation?_session, revision.others other different]
  options := revision.options
  shell := revision.shell
  focus := revision.focus

/-- Soundness is a matter of the session. -/
theorem sound_session_iff {s : Service} : s.session.Sound ↔ s.Sound := by
  have counts : s.session.creations.length = s.creations.length := List.length_map _
  constructor
  · intro sound
    exact {
      counted := counts.symm.trans sound.counted
      latest := sound.latest
      ready := fun usable => by
        rcases sound.ready usable with ⟨found, member, stage⟩
        rw [creation?_session, Option.map_eq_some_iff] at member
        rcases member with ⟨creation, member, rfl⟩
        exact ⟨creation, member, stage⟩
      fits := fun {generation creation} member => by
        have bare : s.session.creation? generation = some creation.bare := by
          rw [creation?_session, member, Option.map_some]
        exact Creation.Fits.bare_iff.mp (sound.fits bare)
      told := fun {generation creation} member => by
        have bare : s.session.creation? generation = some creation.bare := by
          rw [creation?_session, member, Option.map_some]
        have told := sound.told bare
        exact told }
  · intro sound
    exact {
      counted := counts.trans sound.counted
      latest := sound.latest
      ready := fun usable => by
        rcases sound.ready usable with ⟨creation, member, stage⟩
        exact ⟨creation.bare, by rw [creation?_session, generation_session, member,
          Option.map_some], stage⟩
      fits := fun {generation found} member => by
        rw [creation?_session, Option.map_eq_some_iff] at member
        rcases member with ⟨creation, member, rfl⟩
        exact Creation.Fits.bare_iff.mpr (sound.fits member)
      told := fun {generation found} member => by
        rw [creation?_session, Option.map_eq_some_iff] at member
        rcases member with ⟨creation, member, rfl⟩
        have told := sound.told member
        exact told }

end Service

namespace World

/-! ## Questions about a world -/

def session? (w : World) (service : Nat) : Option Service :=
  (w.services[service]?).map Service.session

def phase? (w : World) (service : Nat) : Option Phase :=
  (w.session? service).map Service.phase

/-- How many creations a service began. -/
def generation (w : World) (service : Nat) : Nat :=
  ((w.session? service).map Service.generation).getD 0

def creation? (w : World) (service generation : Nat) : Option Creation :=
  (w.session? service).bind (·.creation? generation)

/-- The terminal that the host handed out for a creation. -/
def terminal? (w : World) (service generation : Nat) : Option Nat :=
  (w.session? service).bind (·.terminal? generation)

/-- The terminal that a service holds: the one in use, or the one handed out for the creation under
way. -/
def held? (w : World) (service : Nat) : Option Nat :=
  (w.session? service).bind (·.phase.held?)

/-- Whether the host handed a terminal out for some creation of a service. -/
def Handed (w : World) (service terminal : Nat) : Prop :=
  ∃ generation, w.terminal? service generation = some terminal

/-- What was done with a terminal, in order. -/
def uses (w : World) (terminal : Nat) : List Use :=
  ((w.host.terminals[terminal]?).map Record.uses).getD []

/-- How often a terminal was disposed. -/
def disposals (w : World) (terminal : Nat) : Nat :=
  ((w.host.terminals[terminal]?).map Record.disposals).getD 0

/-- The texts sent to a terminal, in order. -/
def sent (w : World) (terminal : Nat) : List (String × Bool) :=
  ((w.host.terminals[terminal]?).map Record.sent).getD []

variable {w w' w'' : World} {s : Service}

section Questions

variable {service generation : Nat}

theorem session?_eq (found : w.services[service]? = some s) :
    w.session? service = some s.session := by
  rw [session?, found, Option.map_some]

theorem creation?_eq (found : w.session? service = some s) (generation : Nat) :
    w.creation? service generation = s.creation? generation := by
  rw [creation?, found, Option.bind_some]

theorem phase?_eq (found : w.session? service = some s) : w.phase? service = some s.phase := by
  rw [phase?, found, Option.map_some]

theorem generation_eq (found : w.session? service = some s) :
    w.generation service = s.generation := by
  rw [World.generation, found, Option.map_some, Option.getD_some]

theorem terminal?_eq (found : w.session? service = some s) (generation : Nat) :
    w.terminal? service generation = s.terminal? generation := by
  rw [terminal?, found, Option.bind_some]

theorem held?_eq (found : w.session? service = some s) : w.held? service = s.phase.held? := by
  rw [held?, found, Option.bind_some]

theorem disposals_eq_count (w : World) (terminal : Nat) :
    w.disposals terminal = (w.uses terminal).count .disposed := by
  rw [disposals, uses]
  cases w.host.terminals[terminal]? <;> rfl

/-- The session of a service that has a creation, a terminal or a phase. -/
theorem exists_session_of_phase {phase : Phase} (found : w.phase? service = some phase) :
    ∃ s, w.session? service = some s ∧ s.phase = phase :=
  Option.map_eq_some_iff.mp found

theorem exists_session_of_terminal {terminal : Nat}
    (handed : w.terminal? service generation = some terminal) :
    ∃ s, w.session? service = some s ∧ s.terminal? generation = some terminal :=
  Option.bind_eq_some_iff.mp handed

theorem exists_session_of_held {terminal : Nat} (held : w.held? service = some terminal) :
    ∃ s, w.session? service = some s ∧ s.phase.held? = some terminal :=
  Option.bind_eq_some_iff.mp held

/-- The outcome of a creation is what its stage says. -/
theorem outcome?_eq_some_iff {outcome : Outcome} :
    w.outcome? service generation = some outcome ↔
      ∃ creation, w.creation? service generation = some creation ∧
        creation.stage = .settled outcome := by
  unfold outcome? World.creation? session?
  cases w.services[service]? with
  | none => simp
  | some s =>
      cases member : s.creation? generation with
      | none => simp [member]
      | some creation =>
          cases stage : creation.stage <;> simp [member, stage, Creation.bare]

theorem outcome?_eq_none_iff :
    w.outcome? service generation = none ↔
      ∀ creation, w.creation? service generation = some creation →
        ∀ outcome, creation.stage ≠ .settled outcome := by
  rw [Option.eq_none_iff_forall_ne_some]
  constructor
  · intro unsettled creation member outcome stage
    exact unsettled outcome (outcome?_eq_some_iff.mpr ⟨creation, member, stage⟩)
  · intro unsettled outcome settled
    rcases outcome?_eq_some_iff.mp settled with ⟨creation, member, stage⟩
    exact unsettled creation member outcome stage

end Questions

/-! ## Changes of sessions -/

def SameSessions (w w' : World) : Prop :=
  ∀ service, w'.session? service = w.session? service

namespace SameSessions

theorem refl (w : World) : SameSessions w w := fun _ => rfl

theorem trans (first : SameSessions w w') (second : SameSessions w' w'') : SameSessions w w'' :=
  fun service => (second service).trans (first service)

theorem ofServices (services : w'.services = w.services) : SameSessions w w' := by
  intro service
  rw [session?, session?, services]

/-- A change of one service that its session does not show. -/
theorem ofModify (w : World) (service : Nat) {f : Service → Service}
    (same : ∀ s, (f s).session = s.session) : SameSessions w (w.modifyService service f) := by
  intro other
  simp only [session?, modifyService, List.getElem?_modify]
  cases w.services[other]? with
  | none => rfl
  | some s =>
      by_cases here : service = other
      · simp [here, same]
      · simp [here]

theorem creation? (same : SameSessions w w') (service generation : Nat) :
    w'.creation? service generation = w.creation? service generation := by
  rw [World.creation?, World.creation?, same]

theorem phase? (same : SameSessions w w') (service : Nat) :
    w'.phase? service = w.phase? service := by
  rw [World.phase?, World.phase?, same]

theorem generation (same : SameSessions w w') (service : Nat) :
    w'.generation service = w.generation service := by
  rw [World.generation, World.generation, same]

theorem held? (same : SameSessions w w') (service : Nat) : w'.held? service = w.held? service := by
  rw [World.held?, World.held?, same]

theorem outcome? (same : SameSessions w w') (service generation : Nat) :
    w'.outcome? service generation = w.outcome? service generation := by
  apply Option.ext
  intro outcome
  rw [outcome?_eq_some_iff, outcome?_eq_some_iff, same.creation?]

end SameSessions

/-- One session is not as before. -/
structure Replaces (w w' : World) (service : Nat) (s s' : Service) : Prop where
  before : w.session? service = some s
  after : w'.session? service = some s'
  others : ∀ other, other ≠ service → w'.session? other = w.session? other

namespace Replaces

variable {service : Nat} {s' s'' : Service}

theorem trans (first : Replaces w w' service s s') (second : Replaces w' w'' service s' s'') :
    Replaces w w'' service s s'' where
  before := first.before
  after := second.after
  others := fun other different =>
    (second.others other different).trans (first.others other different)

/-- What happens to the sessions afterwards does not matter if they stay as they are. -/
theorem same (replaces : Replaces w w' service s s') (same : SameSessions w' w'') :
    Replaces w w'' service s s' where
  before := replaces.before
  after := (same service).trans replaces.after
  others := fun other different => (same other).trans (replaces.others other different)

end Replaces

structure Sound (w : World) : Prop where
  each : ∀ {service : Nat} {s : Service}, w.session? service = some s → s.Sound

namespace Sound

theorem of_services (sound : w.Sound) {service : Nat} (found : w.services[service]? = some s) :
    s.Sound := by
  exact Service.sound_session_iff.mp (sound.each (session?_eq found))

theorem same (sound : w.Sound) (same : SameSessions w w') : w'.Sound where
  each := fun {service _} found => sound.each ((same service).symm.trans found)

theorem replace {service : Nat} {s' : Service} (sound : w.Sound)
    (replaces : Replaces w w' service s s')
    (new : s'.Sound) : w'.Sound where
  each := fun {other _} member => by
    by_cases here : other = service
    · subst here
      rw [replaces.after] at member
      cases member
      exact new
    · rw [replaces.others other here] at member
      exact sound.each member

/-- The terminal that a service holds was handed out for its latest creation. -/
theorem held (sound : w.Sound) {service terminal : Nat} (held : w.held? service = some terminal) :
    w.terminal? service (w.generation service) = some terminal := by
  rcases exists_session_of_held held with ⟨s, found, held⟩
  rw [terminal?_eq found, generation_eq found]
  exact (sound.each found).held held

end Sound

end World
end Terminal
end Workbench
