import Mathlib.Logic.Relation
import Workbench.Proofs.Terminal.Session

namespace Workbench
namespace Terminal

/-!
# How creations go on in a world

Between two waits a creation goes on by stretches: the host answers, the activation ends, and the
creation with them.  Each of them replaces one session, revises one creation in it and has one
effect on the host's terminals (`Advances`).  All functions that drive a creation do a number of
stretches and nothing else but to log, to wake calls and to start timers, which `Alike` worlds do
not show.
-/

namespace World

def put (w : World) (service : Nat) (s : Service) : World :=
  { w with services := w.services.set service s }

variable {w : World} {service : Nat} {s : Service}

theorem modifyService_eq_put (found : w.services[service]? = some s) (f : Service → Service) :
    w.modifyService service f = w.put service (f s) := by
  have same : w.services.modify service f = w.services.set service (f s) := by
    apply List.ext_getElem?
    intro other
    rw [List.getElem?_modify, List.getElem?_set]
    by_cases here : service = other
    · subst here
      have inside : service < w.services.length := (List.getElem?_eq_some_iff.mp found).1
      rw [found, if_pos rfl, if_pos inside]
      simp
    · simp [here]
  simp only [modifyService, put, same]

theorem services_modifyService (found : w.services[service]? = some s) (f : Service → Service) :
    (w.modifyService service f).services = (w.put service (f s)).services :=
  congrArg World.services (modifyService_eq_put found f)

theorem services_put (found : w.services[service]? = some s) (s' : Service) :
    (w.put service s').services[service]? = some s' :=
  List.getElem?_set_self (List.getElem?_eq_some_iff.mp found).1

theorem services_put_of_ne (w : World) (service : Nat) (s' : Service) {other : Nat}
    (different : other ≠ service) :
    (w.put service s').services[other]? = w.services[other]? :=
  List.getElem?_set_ne different.symm

/-- Putting a service where it is changes nothing. -/
theorem put_self (found : w.services[service]? = some s) : w.put service s = w := by
  rcases List.getElem?_eq_some_iff.mp found with ⟨inside, rfl⟩
  rw [put, List.set_getElem_self inside]

theorem put_put (w : World) (service : Nat) (first second : Service) :
    (w.put service first).put service second = w.put service second := by
  simp only [put, List.set_set]

/-- Two worlds that differ in nothing but the log and what the executor is about to do. -/
structure Alike (w w' : World) : Prop where
  host : w'.host = w.host
  activator : w'.activator = w.activator
  services : w'.services = w.services
  calls : w'.calls = w.calls
  listeners : w'.listeners = w.listeners
  env : w'.env = w.env

namespace Alike

variable {w w' w'' : World}

theorem refl (w : World) : Alike w w := ⟨rfl, rfl, rfl, rfl, rfl, rfl⟩

theorem trans (first : Alike w w') (second : Alike w' w'') : Alike w w'' :=
  ⟨second.host.trans first.host, second.activator.trans first.activator,
    second.services.trans first.services, second.calls.trans first.calls,
    second.listeners.trans first.listeners, second.env.trans first.env⟩

theorem write (w : World) (line : Log.Line) : Alike w (w.write line) :=
  ⟨rfl, rfl, rfl, rfl, rfl, rfl⟩

theorem wake (w : World) (call : Nat) : Alike w (w.wake call) := by
  unfold World.wake
  split
  · exact refl w
  · exact ⟨rfl, rfl, rfl, rfl, rfl, rfl⟩

theorem wakeAll (w : World) (calls : List Nat) : Alike w (w.wakeAll calls) := by
  induction calls generalizing w with
  | nil => exact refl w
  | cons call rest inductionHypothesis => exact (wake w call).trans (inductionHypothesis _)

theorem startTimer (w : World) (service generation delay : Nat) :
    Alike w (w.startTimer service generation delay) := by
  unfold World.startTimer
  split
  · exact refl w
  · exact ⟨rfl, rfl, rfl, rfl, rfl, rfl⟩

theorem modifyService (alike : Alike w w') (service : Nat) (f : Service → Service) :
    Alike (w.modifyService service f) (w'.modifyService service f) :=
  ⟨alike.host, alike.activator, congrArg (List.modify · service f) alike.services, alike.calls,
    alike.listeners, alike.env⟩

end Alike

/-- The service after the end of a creation. -/
def ended (s : Service) (generation : Nat) (outcome : Outcome) : Service :=
  ({ s with phase := s.phase.settle generation outcome } : Service).modifyCreation generation
    ({ · with stage := .settled (s.phase.verdict generation outcome) })

theorem ended_revision {generation : Nat} {creation : Creation}
    (found : s.creation? generation = some creation) (outcome : Outcome) :
    Service.Revision s (ended s generation outcome) generation creation
      { creation with stage := .settled (s.phase.verdict generation outcome) } :=
  (Service.Revision.ofPhase found (s.phase.settle generation outcome)).trans
    (Service.Revision.ofModify (s := { s with phase := s.phase.settle generation outcome })
      (f := fun c => { c with stage := .settled (s.phase.verdict generation outcome) })
      found rfl rfl rfl)

theorem settle_alike (found : w.services[service]? = some s) (generation : Nat)
    (outcome : Outcome) :
    Alike (w.put service (ended s generation outcome)) (w.settle service generation outcome) := by
  have noted : ∀ told, Alike w told →
      Alike (w.put service (ended s generation outcome))
        ((told.setPhase service (s.phase.settle generation outcome)).setStage service generation
          (.settled (s.phase.verdict generation outcome))) := by
    intro told alike
    let stage : Stage := .settled (s.phase.verdict generation outcome)
    have first := alike.modifyService service
      ({ · with phase := s.phase.settle generation outcome })
    have second := first.modifyService service (·.modifyCreation generation ({ · with stage }))
    rw [modifyService_eq_put found, modifyService_eq_put (services_put found _), put_put] at second
    exact second
  simp only [settle, found]
  refine (noted _ ?_).trans (Alike.wakeAll _ _)
  split
  · cases outcome <;> exact Alike.write _ _
  · exact Alike.refl w

end World

namespace Effect

def terminals : Effect → List Record → List Record
  | nothing, records => records
  | arrival options activation, records =>
    records ++ [{ options, uses := if activation.isSome then [] else [.disposed] }]
  | use terminal uses, records =>
    records.modify terminal fun record => { record with uses := record.uses ++ uses }

/-- The activations begun afterwards. -/
def activations : Effect → List Activation → List Activation
  | arrival _ (some activation), begun => begun ++ [activation]
  | _, begun => begun

end Effect

namespace World

/-- An effect on the host's terminals and on the activations, and on nothing that calls have to do
with. -/
structure Affects (effect : Effect) (w w' : World) : Prop where
  terminals : w'.host.terminals = effect.terminals w.host.terminals
  activations : w'.activator.activations = effect.activations w.activator.activations
  requests : w'.host.requests = w.host.requests
  calls : w'.calls = w.calls

theorem Affects.alike {effect : Effect} {w w' w'' : World} (affects : Affects effect w w')
    (alike : Alike w' w'') : Affects effect w w'' where
  terminals := by rw [alike.host, affects.terminals]
  activations := by rw [alike.activator, affects.activations]
  requests := by rw [alike.host, affects.requests]
  calls := alike.calls.trans affects.calls

theorem Alike.sessions {w w' : World} (alike : Alike w w') : SameSessions w w' :=
  .ofServices alike.services

theorem Replaces.ofPut {w w' : World} {service : Nat} {s s' : Service}
    (found : w.services[service]? = some s) (services : w'.services = (w.put service s').services) :
    Replaces w w' service s.session s'.session where
  before := session?_eq found
  after := by rw [session?, services, services_put found, Option.map_some]
  others := fun other different => by
    rw [session?, session?, services, services_put_of_ne _ _ _ different]

theorem Replaces.ofModify {w w' : World} {service : Nat} {s : Service} {f : Service → Service}
    (found : w.services[service]? = some s)
    (services : w'.services = (w.modifyService service f).services) :
    Replaces w w' service s.session (f s).session :=
  .ofPut found (by rw [services, modifyService_eq_put found])

/-- One creation goes on from one wait to the next, and nothing else happens. -/
def Advances (service generation : Nat) (w w' : World) : Prop :=
  ∃ s s' creation creation' effect, Replaces w w' service s s' ∧
    Service.Revision s s' generation creation creation' ∧
    Stretch generation w.host.next s.resource s.phase creation s'.phase creation' effect ∧
    Affects effect w w'

/-- Neither the log nor the executor matter. -/
theorem Advances.alike {service generation : Nat} {w w' w'' : World}
    (advances : Advances service generation w w') (alike : Alike w' w'') :
    Advances service generation w w'' := by
  rcases advances with ⟨s, s', creation, creation', effect, replaces, revision, stretch, affects⟩
  exact ⟨s, s', creation, creation', effect, replaces.same alike.sessions, revision, stretch,
    affects.alike alike⟩

/-- Services stay sound when their creations go on. -/
theorem Advances.sound {service generation : Nat} {w w' : World}
    (advances : Advances service generation w w') (sound : w.Sound) : w'.Sound := by
  rcases advances with ⟨s, s', creation, creation', effect, replaces, revision, stretch, affects⟩
  exact sound.replace replaces ((sound.each replaces.before).stretch revision stretch)

variable {w : World} {service generation : Nat} {s : Service} {creation : Creation}

theorem settle_advances {w' : World} {s' : Service} {creation' : Creation} {outcome : Outcome}
    {effect : Effect} (found : w.services[service]? = some s)
    (services : w'.services = (w.put service s').services)
    (revision : Service.Revision s s' generation creation creation')
    (stretch : Stretch generation w.host.next s.resource s.phase creation
      (s'.phase.settle generation outcome)
      { creation' with stage := .settled (s'.phase.verdict generation outcome) } effect)
    (affects : Affects effect w w') :
    Advances service generation w (w'.settle service generation outcome) := by
  have present : w'.services[service]? = some s' := by rw [services, services_put found]
  have alike := settle_alike present generation outcome
  refine ⟨s.session, (ended s' generation outcome).session, creation.bare, _, effect, ?_,
    (revision.trans (ended_revision revision.new outcome)).session, stretch.bare, ?_⟩
  · refine .ofPut found ?_
    rw [alike.services]
    simp only [put, services, List.set_set]
  · have put : Affects effect w (w'.put service (ended s' generation outcome)) :=
      ⟨affects.terminals, affects.activations, affects.requests, affects.calls⟩
    exact put.alike alike

/-- The end of an activation is one stretch.  Only the focus and the shell of the creation that was
begun matter, which are those of the creation as it stands now. -/
theorem finishActivation_advances (found : w.services[service]? = some s)
    (member : s.creation? generation = some creation) {terminal due : Nat}
    (activating : creation.stage = .activating terminal due) {begun : Creation}
    (shell : creation.shell = begun.shell) (focus : creation.preserveFocus = begun.preserveFocus) :
    Advances service generation w (w.finishActivation service generation terminal begun) := by
  unfold finishActivation
  rw [← shell, ← focus]
  cases failing : w.activator.failNext with
  | none =>
      have prepared := Service.Revision.ofModify (f := fun c => { c with prepared := true })
        member rfl rfl rfl
      refine settle_advances found ?_ prepared (.prepared activating) ?_
      · exact services_modifyService found
          (·.modifyCreation generation fun c => { c with prepared := true })
      · exact ⟨rfl, rfl, rfl, rfl⟩
  | some error =>
      simp only [found]
      cases released : s.phase.release? generation with
      | none =>
          have stretch : Stretch generation w.host.next s.resource s.phase creation
              (s.phase.settle generation (.error error))
              { creation with stage := .settled (s.phase.verdict generation (.error error)) }
              .nothing := by
            rw [Phase.verdict_error]
            exact .failedLate activating released error
          refine settle_advances found ?_ (.ofPhase member s.phase) stretch ?_
          · show w.services = (w.put service s).services
            rw [put_self found]
          · exact ⟨rfl, rfl, rfl, rfl⟩
      | some phase =>
          have stretch : Stretch generation w.host.next s.resource s.phase creation
              (phase.settle generation (.error error))
              { creation with stage := .settled (phase.verdict generation (.error error)) }
              (.use terminal [.disposed]) := by
            rw [Phase.verdict_error]
            exact .failed activating released error
          refine settle_advances found ?_ (.ofPhase member phase) stretch ?_
          · exact services_modifyService found ({ · with phase })
          · exact ⟨rfl, rfl, rfl, rfl⟩

/-- One creation goes on for any number of stretches. -/
abbrev Progress (service generation : Nat) : World → World → Prop :=
  Relation.ReflTransGen (Advances service generation)

/-- A stretch that leads to an activation, and the end of the activation if that takes no time. -/
theorem startActivation_progress {w' : World} {s' : Service} {creation' : Creation}
    {effect : Effect} {terminal : Nat} {resource : Option Url}
    (found : w.services[service]? = some s)
    (services : w'.services = (w.put service s').services)
    (revision : Service.Revision s s' generation creation creation')
    (stretch : Stretch generation w.host.next s.resource s.phase creation s'.phase
      { creation' with stage := .activating terminal (w'.now + w'.activator.delay) } effect)
    (affects : Affects effect w
      { w' with
        activator := { w'.activator with
          activations := w'.activator.activations ++
            [⟨terminal, resource, creation.preserveFocus⟩] } }) :
    Progress service generation w
      (w'.startActivation service generation terminal creation resource) := by
  let stage : Stage := .activating terminal (w'.now + w'.activator.delay)
  let activator : Activator := { w'.activator with
    activations := w'.activator.activations ++ [⟨terminal, resource, creation.preserveFocus⟩] }
  let begun : World := { w' with activator }.setStage service generation stage
  have staged : Service.Revision s' (s'.modifyCreation generation ({ · with stage })) generation
      creation' { creation' with stage } :=
    .ofModify (f := fun c => { c with stage }) revision.new rfl rfl rfl
  have present : w'.services[service]? = some s' := by rw [services, services_put found]
  have placed : begun.services =
      (w.put service (s'.modifyCreation generation ({ · with stage }))).services := by
    have first := services_modifyService (w := { w' with activator }) present
      (·.modifyCreation generation ({ · with stage }))
    refine first.trans ?_
    simp only [put, services, List.set_set]
  have first : Advances service generation w begun :=
    ⟨s.session, _, creation.bare, _, effect, .ofPut found placed,
      (revision.trans staged).session, stretch.bare,
      ⟨affects.terminals, affects.activations, affects.requests, affects.calls⟩⟩
  have there : begun.services[service]? =
      some (s'.modifyCreation generation ({ · with stage })) := by
    rw [placed, services_put found]
  unfold startActivation
  split
  · refine (Relation.ReflTransGen.single first).tail ?_
    exact finishActivation_advances there staged.new rfl revision.shell revision.focus
  · exact .single (first.alike (Alike.startTimer _ _ _ _))

private theorem modify_concat_length {α : Type} (l : List α) (a : α) (f : α → α) :
    (l ++ [a]).modify l.length f = l ++ [f a] := by
  induction l with
  | nil => rfl
  | cons head rest inductionHypothesis =>
      simp only [List.cons_append, List.length_cons, List.modify_succ_cons, inductionHypothesis]

/-- The host's answer is one stretch, and the end of an activation that takes no time is another. -/
theorem answer_progress (found : w.services[service]? = some s)
    (member : s.creation? generation = some creation) {due : Nat}
    (hosting : creation.stage = .hosting due) :
    Progress service generation w (w.answer service generation creation) := by
  unfold answer
  cases failing : w.host.failNext with
  | some error =>
      have stretch : Stretch generation w.host.next s.resource s.phase creation
          (s.phase.settle generation (.error error))
          { creation with stage := .settled (s.phase.verdict generation (.error error)) }
          .nothing := by
        rw [Phase.verdict_error]
        exact .refused hosting error
      refine .single (settle_advances found ?_ (.ofPhase member s.phase) stretch ?_)
      · show w.services = (w.put service s).services
        rw [put_self found]
      · exact ⟨rfl, rfl, rfl, rfl⟩
  | none =>
      let given : Service := s.modifyCreation generation ({ · with terminal := some w.host.next })
      have handed : Service.Revision s given generation creation
          { creation with terminal := some w.host.next } :=
        .ofModify (f := fun c => { c with terminal := some w.host.next }) member rfl rfl rfl
      have services : ({ w with host := w.host.create creation.options }.modifyCreation service
          generation ({ · with terminal := some w.host.next })).services =
            (w.put service given).services :=
        services_modifyService (w := { w with host := w.host.create creation.options }) found
          (·.modifyCreation generation ({ · with terminal := some w.host.next }))
      have present : ({ w with host := w.host.create creation.options }.modifyCreation service
          generation ({ · with terminal := some w.host.next })).services[service]? =
            some given := by
        rw [services, services_put found]
      simp only [present]
      cases recorded : given.phase.record? generation w.host.next with
      | none =>
          have stretch : Stretch generation w.host.next s.resource s.phase creation
              (given.phase.settle generation (.error .terminalDisposed))
              { creation with
                terminal := some w.host.next
                stage := .settled (given.phase.verdict generation (.error .terminalDisposed)) }
              (.arrival creation.options none) := by
            rw [Phase.verdict_error]
            exact .lost hosting recorded
          refine .single (settle_advances found services handed stretch ?_)
          exact ⟨modify_concat_length _ _ _, rfl, rfl, rfl⟩
      | some phase =>
          have current : s.phase.record? generation w.host.next = some phase := recorded
          have stretch := @Stretch.handed generation w.host.next s.resource s.phase creation due
            hosting phase current (w.now + w.activator.delay)
          refine startActivation_progress found ?_
            (handed.trans (.ofPhase handed.new phase)) stretch ?_
          · refine (services_modifyService present ({ · with phase })).trans ?_
            simp only [put, services, List.set_set]
          · exact ⟨rfl, rfl, rfl, rfl⟩

/-- Whatever a creation can do at once is a number of stretches. -/
theorem progress_advances (w : World) (service generation : Nat) :
    Progress service generation w (w.progress service generation) := by
  unfold progress
  cases found : w.services[service]? with
  | none => exact .refl
  | some s =>
      cases member : s.creation? generation with
      | none =>
          simp only [Option.bind_some, member]
          exact .refl
      | some creation =>
          simp only [Option.bind_some, member]
          cases stage : creation.stage with
          | hosting due =>
              simp only
              split
              · exact .refl
              · exact answer_progress found member stage
          | activating terminal due =>
              simp only
              split
              · exact .refl
              · exact .single (finishActivation_advances found member stage rfl rfl)
          | settled outcome => exact .refl

end World
end Terminal
end Workbench
