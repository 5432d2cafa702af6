import Mathlib.Data.List.Nodup
import Workbench.Proofs.Terminal.Everyday

namespace Workbench
namespace Terminal

/-!
# Who hears of closed terminals

A service is registered at the host, once, as long as it is neither dropped nor disposed
(`Registered`).  What calls do leaves the registrations in this order and notifies nobody
(`Silently`); registrations change only when a service is made, dropped or disposed.
-/

namespace Service

/-- Whether a service wants to know of closed terminals. -/
def isListening (s : Service) : Bool :=
  !s.dropped && !s.isDisposed

theorem isListening_iff {s : Service} :
    s.isListening = true ↔ s.dropped = false ∧ s.phase ≠ .disposed := by
  simp [isListening, isDisposed]

end Service

namespace World

variable {w w' w'' : World}

/-- The host's registrations: one for every service that is neither dropped nor disposed. -/
structure Registered (w : World) : Prop where
  once : w.host.closeListeners.Nodup
  listening : ∀ service, service ∈ w.host.closeListeners ↔
    (w.services[service]?).map Service.isListening = some true

theorem Registered.mem_iff (registered : w.Registered) {service : Nat} {s : Service}
    (found : w.services[service]? = some s) :
    service ∈ w.host.closeListeners ↔ s.dropped = false ∧ s.phase ≠ .disposed := by
  rw [registered.listening, found, Option.map_some, Option.some.injEq, Service.isListening_iff]

/-- A service that is registered is there. -/
theorem Registered.exists_of_mem (registered : w.Registered) {service : Nat}
    (listening : service ∈ w.host.closeListeners) :
    ∃ s, w.services[service]? = some s ∧ s.dropped = false ∧ s.phase ≠ .disposed := by
  rcases Option.map_eq_some_iff.mp ((registered.listening service).mp listening) with
    ⟨s, found, wanted⟩
  exact ⟨s, found, Service.isListening_iff.mp wanted⟩

/-- Registrations are in order if they are the same and the same services want to be registered. -/
theorem Registered.same (registered : w.Registered)
    (closeListeners : w'.host.closeListeners = w.host.closeListeners)
    (wanted : ∀ service : Nat, (w'.services[service]?).map Service.isListening =
      (w.services[service]?).map Service.isListening) : w'.Registered :=
  ⟨closeListeners ▸ registered.once, fun service => by
    rw [closeListeners, wanted, registered.listening]⟩

/-- A change by which nobody is notified and the registrations stay in order. -/
structure Silently (w w' : World) : Prop where
  registered : w.Registered → w'.Registered
  listeners : w'.listeners = w.listeners

namespace Silently

theorem refl (w : World) : Silently w w :=
  ⟨id, rfl⟩

theorem trans (first : Silently w w') (second : Silently w' w'') : Silently w w'' :=
  ⟨fun registered => second.registered (first.registered registered),
    second.listeners.trans first.listeners⟩

theorem of_same (closeListeners : w'.host.closeListeners = w.host.closeListeners)
    (wanted : ∀ service : Nat, (w'.services[service]?).map Service.isListening =
      (w.services[service]?).map Service.isListening)
    (listeners : w'.listeners = w.listeners) : Silently w w' :=
  ⟨fun registered => registered.same closeListeners wanted, listeners⟩

theorem of_eq (closeListeners : w'.host.closeListeners = w.host.closeListeners)
    (services : w'.services = w.services) (listeners : w'.listeners = w.listeners) :
    Silently w w' :=
  .of_same closeListeners (fun service => by rw [services]) listeners

theorem ofAlike (alike : Alike w w') : Silently w w' :=
  .of_eq (congrArg Host.closeListeners alike.host) alike.services alike.listeners

theorem modifyService (w : World) (service : Nat) {f : Service → Service}
    (wanted : ∀ s, w.services[service]? = some s → (f s).isListening = s.isListening) :
    Silently w (w.modifyService service f) := by
  refine .of_same rfl (fun other => ?_) rfl
  simp only [World.modifyService, List.getElem?_modify]
  cases found : w.services[other]? with
  | none => rfl
  | some s =>
      by_cases here : service = other
      · subst here
        simp [wanted s found]
      · simp [here]

theorem everyday : Everyday Silently where
  trans := trans
  aside := fun services _ listeners closeListeners _ => .of_eq closeListeners services listeners
  changes := fun w service _ standing => modifyService w service fun s found => by
    have same := standing s found
    rw [Bool.eq_iff_iff, Service.isListening_iff, Service.isListening_iff, same.dropped]
    exact and_congr_right fun _ => not_congr same.disposed

/-- A service that is dropped is not registered any more. -/
theorem sweep (w : World) (service : Nat) : Silently w (w.sweep service) := by
  unfold World.sweep
  cases found : w.services[service]? with
  | none => exact refl w
  | some s =>
      dsimp only
      split
      · refine ⟨fun registered => ⟨registered.once.erase service, fun other => ?_⟩, rfl⟩
        rw [Host.unlisten, registered.once.mem_erase_iff, registered.listening]
        by_cases here : other = service
        · subst here
          simp [World.modifyService, found, Service.isListening]
        · simp [World.modifyService, here, Ne.symm here]
      · exact refl w

theorem customary : Customary Silently where
  toEveryday := everyday
  calling := fun services listeners host _ =>
    .of_eq (congrArg Host.closeListeners host) services listeners
  sweep := sweep

end Silently

theorem release_silently (w : World) (service : Nat) : Silently w (w.release service) := by
  have released : Silently w (w.modifyService service fun s => { s with owners := s.owners - 1 }) :=
    .modifyService w service fun _ _ => rfl
  exact released.trans (.sweep _ _)

/-! ## What is done to services -/

theorem addService_registered (registered : w.Registered) (title : String) (resource : Option Url)
    (helper : Helper) : (w.addService title resource helper).Registered := by
  have outside : w.services.length ∉ w.host.closeListeners := by
    intro listening
    rcases registered.exists_of_mem listening with ⟨s, found, _⟩
    exact absurd (List.getElem?_eq_some_iff.mp found).1 (Nat.lt_irrefl _)
  refine ⟨?_, fun service => ?_⟩
  · rw [addService, Host.listen, List.nodup_append]
    refine ⟨registered.once, List.nodup_singleton _, fun earlier member last same => ?_⟩
    rw [List.mem_singleton] at same
    rintro rfl
    exact outside (same ▸ member)
  · rw [addService, Host.listen, List.mem_append, List.mem_singleton, registered.listening]
    rcases Nat.lt_trichotomy service w.services.length with inside | rfl | beyond
    · rw [List.getElem?_append_left inside]
      exact or_iff_left (Nat.ne_of_lt inside)
    · simp [Service.isListening, Service.isDisposed]
    · have longer : (w.services ++ [({ title, resource, helper } : Service)]).length ≤ service := by
        rw [List.length_append, List.length_singleton]
        exact beyond
      rw [List.getElem?_eq_none longer, List.getElem?_eq_none (Nat.le_of_lt beyond)]
      exact or_iff_left (Nat.ne_of_gt beyond)

/-- A service that is disposed is not registered any more. -/
theorem dispose_silently (w : World) (service : Nat) : Silently w (w.dispose service) := by
  cases found : w.services[service]? with
  | none =>
      rw [dispose_of_absent found]
      exact .refl w
  | some s =>
      refine ⟨fun registered => ?_, (dispose_disposes found).listeners⟩
      have left : Registered
          { w.setPhase service .disposed with host := w.host.unlisten service } := by
        refine ⟨registered.once.erase service, fun other => ?_⟩
        rw [Host.unlisten, registered.once.mem_erase_iff, registered.listening]
        by_cases here : other = service
        · subst here
          simp [setPhase, modifyService, found, Service.isListening, Service.isDisposed]
        · simp [setPhase, modifyService, here, Ne.symm here]
      unfold dispose
      simp only [found]
      cases s.phase with
      | ready | idle | disposed => exact left.same rfl fun _ => rfl
      | creating generation slot => cases slot <;> exact left.same rfl fun _ => rfl

/-- Disposing a service again changes nothing. -/
theorem dispose_of_disposed (registered : w.Registered) {service : Nat}
    (disposed : w.phase? service = some .disposed) : w.dispose service = w := by
  rcases exists_session_of_phase disposed with ⟨session, found, phase⟩
  rcases Option.map_eq_some_iff.mp found with ⟨s, present, rfl⟩
  rw [Service.phase_session] at phase
  have unlisted : service ∉ w.host.closeListeners := by
    rw [registered.mem_iff present]
    exact fun wanted => wanted.2 phase
  have same : w.setPhase service .disposed = w := by
    rw [setPhase, modifyService_eq_put present, ← phase]
    exact put_self present
  simp only [dispose, present, phase, same, Host.unlisten, List.erase_of_not_mem unlisted]

theorem notify_registered (registered : w.Registered) (listener : Nat) :
    (w.notify listener).Registered := by
  unfold notify
  cases w.listeners[listener]? with
  | none => exact registered
  | some l =>
      have counted : Registered { w with
          listeners := w.listeners.modify listener fun l => { l with fired := l.fired + 1 } } :=
        registered.same rfl fun _ => rfl
      dsimp only
      cases l.reaction with
      | none => exact counted
      | dispose => exact (dispose_silently _ _).registered counted
      | «show» => exact (Silently.customary.addCall _ _ _).registered counted

theorem hearClosed_registered (registered : w.Registered) (service terminal : Nat) :
    (w.hearClosed service terminal).Registered := by
  unfold hearClosed
  cases found : w.services[service]? with
  | none => exact registered
  | some s =>
      dsimp only
      split
      · rename_i held
        have idle : Phase.idle = .disposed ↔ s.phase = .disposed := by
          cases phase : s.phase with
          | disposed =>
              rw [phase] at held
              cases held
          | idle | creating | ready => simp
        have told : (w.setPhase service .idle).Registered :=
          (Silently.everyday.setPhase found idle).registered registered
        exact List.foldlRecOn (motive := Registered) _ _ (told.same rfl fun _ => rfl)
          fun v kept listener _ => notify_registered kept listener
      · exact registered

theorem perform_registered (registered : w.Registered) (action : Action) :
    (w.perform action).Registered := by
  cases action with
  | addService title resource helper => exact addService_registered registered title resource helper
  | retain service =>
      have retained : Silently w (w.retain service) := .modifyService w service fun _ _ => rfl
      exact retained.registered registered
  | release service => exact (release_silently w service).registered registered
  | dispose service => exact (dispose_silently w service).registered registered
  | call service request => exact (Silently.customary.addCall w service request).registered registered
  | poll call => exact (Silently.customary.poll w call).registered registered
  | abort call => exact (Silently.customary.abort w call).registered registered
  | close terminal =>
      exact List.foldlRecOn (motive := Registered) _ _ registered
        fun v kept service _ => hearClosed_registered kept service terminal
  | listen | unlisten | failCreation | failActivation | delay | pass | arrange =>
      exact registered.same rfl fun _ => rfl

end World

namespace Run

/-- The registrations at the host are in order at every moment of a run. -/
theorem registered (run : Run) : run.world.Registered := by
  induction run using Run.induction with
  | start env => exact ⟨List.nodup_nil, fun service => by simp [world]⟩
  | step run action inductionHypothesis =>
      rw [world_step]
      exact World.perform_registered inductionHypothesis action

end Run

end Terminal
end Workbench
