import Workbench.Proofs.Terminal.Perform

namespace Workbench
namespace Terminal

/-!
# What creations do on the way

A call that begins a creation or takes one further writes into the creation and into the phase of
its service, uses terminals and starts timers.  It disposes no service and brings none back, and it
changes neither references nor registrations nor any call.  A relation between worlds that holds of
such changes one by one (`Everyday`) holds of all that creations do.  If it holds as well of changes
of calls and of the sweep at the end of a call (`Customary`), it holds of all that calls do.
-/

namespace Phase

variable {phase : Phase} {generation : Nat}

/-- No creation disposes its service, or brings it back. -/
theorem settle_eq_disposed_iff {outcome : Outcome} :
    phase.settle generation outcome = .disposed ↔ phase = .disposed := by
  cases current : phase.isCurrent generation with
  | false => rw [settle_of_not_current current]
  | true =>
      rw [settle_of_current current]
      constructor
      · intro disposed
        cases outcome <;> cases disposed
      · rintro rfl
        cases current

end Phase

namespace Service

/-- The same references to a service, which is disposed if it was before. -/
structure SameStanding (s s' : Service) : Prop where
  owners : s'.owners = s.owners
  dropped : s'.dropped = s.dropped
  disposed : s'.phase = .disposed ↔ s.phase = .disposed

end Service

namespace World

/-- A relation that holds whenever one service changes and keeps its standing, and whenever neither
services nor calls nor those who listen change, nor the environment. -/
structure Everyday (R : World → World → Prop) : Prop where
  trans : ∀ {w w' w'' : World}, R w w' → R w' w'' → R w w''
  aside : ∀ {w w' : World}, w'.services = w.services → w'.calls = w.calls →
    w'.listeners = w.listeners → w'.host.closeListeners = w.host.closeListeners →
    w'.env = w.env → R w w'
  changes : ∀ (w : World) (service : Nat) {f : Service → Service},
    (∀ s, w.services[service]? = some s → s.SameStanding (f s)) → R w (w.modifyService service f)

namespace Everyday

variable {R : World → World → Prop} (everyday : Everyday R)

include everyday

theorem refl (w : World) : R w w :=
  everyday.aside rfl rfl rfl rfl rfl

theorem ofAlike {w w' : World} (alike : Alike w w') : R w w' :=
  everyday.aside alike.services alike.calls alike.listeners
    (congrArg Host.closeListeners alike.host) alike.env

theorem write (w : World) (line : Log.Line) : R w (w.write line) :=
  everyday.ofAlike (.write w line)

theorem use (w : World) (terminal : Nat) (what : Use) : R w (w.use terminal what) :=
  everyday.aside rfl rfl rfl rfl rfl

theorem modifyCreation (w : World) (service generation : Nat) (f : Creation → Creation) :
    R w (w.modifyCreation service generation f) :=
  everyday.changes w service fun _ _ => ⟨rfl, rfl, Iff.rfl⟩

theorem setPhase {w : World} {service : Nat} {s : Service} {phase : Phase}
    (found : w.services[service]? = some s) (same : phase = .disposed ↔ s.phase = .disposed) :
    R w (w.setPhase service phase) := by
  apply everyday.changes
  intro other there
  rw [found] at there
  cases there
  exact ⟨rfl, rfl, same⟩

theorem settle (w : World) (service generation : Nat) (outcome : Outcome) :
    R w (w.settle service generation outcome) := by
  cases found : w.services[service]? with
  | none =>
      simp only [World.settle, found]
      exact everyday.refl w
  | some s =>
      have ends : R w (w.put service (ended s generation outcome)) := by
        rw [← modifyService_eq_put found fun s => ended s generation outcome]
        apply everyday.changes
        intro other there
        exact ⟨rfl, rfl, Phase.settle_eq_disposed_iff⟩
      exact everyday.trans ends (everyday.ofAlike (settle_alike found generation outcome))

theorem finishActivation (w : World) (service generation terminal : Nat) (creation : Creation) :
    R w (w.finishActivation service generation terminal creation) := by
  unfold World.finishActivation
  cases w.activator.failNext with
  | none =>
      have prepared := everyday.modifyCreation w service generation ({ · with prepared := true })
      exact everyday.trans (everyday.trans prepared (everyday.use _ _ _))
        (everyday.settle _ _ _ _)
  | some error =>
      let taken : World := { w with activator := { w.activator with failNext := none } }
      have takes : R w taken := everyday.aside rfl rfl rfl rfl rfl
      dsimp only
      cases found : w.services[service]? with
      | none => exact takes
      | some s =>
          refine everyday.trans takes (everyday.trans ?_ (everyday.settle _ _ _ _))
          cases released : s.phase.release? generation with
          | none => exact everyday.refl taken
          | some phase =>
              rcases Phase.release?_eq_some_iff.mp released with ⟨⟨held, creating⟩, rfl⟩
              have free : R taken (taken.setPhase service (.creating generation none)) :=
                everyday.setPhase found (by rw [creating]; simp)
              exact everyday.trans (everyday.trans free (everyday.write _ _)) (everyday.use _ _ _)

theorem startActivation (w : World) (service generation terminal : Nat) (creation : Creation)
    (resource : Option Url) :
    R w (w.startActivation service generation terminal creation resource) := by
  let activator : Activator := { w.activator with
    activations := w.activator.activations ++ [⟨terminal, resource, creation.preserveFocus⟩] }
  have asked : R w { w with activator } := everyday.aside rfl rfl rfl rfl rfl
  have begun := everyday.trans asked (everyday.modifyCreation { w with activator } service
    generation ({ · with stage := .activating terminal (w.now + w.activator.delay) }))
  unfold World.startActivation
  split
  · exact everyday.trans begun (everyday.finishActivation _ _ _ _ _)
  · exact everyday.trans begun (everyday.ofAlike (.startTimer _ _ _ _))

theorem answer (w : World) (service generation : Nat) (creation : Creation) :
    R w (w.answer service generation creation) := by
  unfold World.answer
  cases w.host.failNext with
  | some error =>
      have cleared : R w { w with host := { w.host with failNext := none } } :=
        everyday.aside rfl rfl rfl rfl rfl
      exact everyday.trans cleared (everyday.settle _ _ _ _)
  | none =>
      have created : R w { w with host := w.host.create creation.options } :=
        everyday.aside rfl rfl rfl rfl rfl
      refine everyday.trans (everyday.trans created (everyday.modifyCreation _ service generation
        ({ · with terminal := some w.host.next }))) ?_
      dsimp only
      split
      · exact everyday.refl _
      · rename_i s present
        split
        · rename_i phase recorded
          rcases Phase.record?_eq_some_iff.mp recorded with ⟨current, rfl⟩
          rcases Phase.isCurrent_iff.mp current with ⟨slot, creating⟩
          refine everyday.trans (everyday.setPhase present ?_) (everyday.startActivation _ _ _ _ _ _)
          rw [creating]
          simp
        · exact everyday.trans (everyday.trans (everyday.write _ _) (everyday.use _ _ _))
            (everyday.settle _ _ _ _)

theorem progress (w : World) (service generation : Nat) : R w (w.progress service generation) := by
  unfold World.progress
  split
  · exact everyday.refl w
  · split
    · split
      · exact everyday.refl w
      · exact everyday.answer _ _ _ _
    · split
      · exact everyday.refl w
      · exact everyday.finishActivation _ _ _ _ _
    · exact everyday.refl w

theorem beginCreation {w : World} {service : Nat} {s : Service}
    (found : w.services[service]? = some s) (idle : s.phase = .idle) (preserveFocus : Bool) :
    R w (w.beginCreation service preserveFocus) := by
  unfold World.beginCreation
  simp only [found]
  refine everyday.trans ?_
    (everyday.trans (everyday.write _ _) (everyday.ofAlike (.startTimer _ _ _ _)))
  refine everyday.trans
    (show R w { w with host := w.host.request _ } from everyday.aside rfl rfl rfl rfl rfl)
    (everyday.changes _ _ fun other there => ?_)
  have same : other = s := Option.some.inj (there.symm.trans found)
  subst same
  refine ⟨rfl, rfl, ?_⟩
  rw [idle]
  simp

theorem deliver (w : World) (title : String) (active : Active) (request : Request) :
    R w (w.deliver title active request) := by
  cases request <;> exact everyday.aside rfl rfl rfl rfl rfl

end Everyday

/-! ## Turns of calls -/

/-- An everyday relation that holds also whenever only calls change, and whenever a service is
dropped because there is no reference to it any more. -/
structure Customary (R : World → World → Prop) : Prop extends Everyday R where
  calling : ∀ {w w' : World}, w'.services = w.services → w'.listeners = w.listeners →
    w'.host = w.host → w'.env = w.env → R w w'
  sweep : ∀ (w : World) (service : Nat), R w (w.sweep service)

namespace Customary

variable {R : World → World → Prop} (customary : Customary R)

include customary

theorem modifyCall (w : World) (call : Nat) (f : Call → Call) : R w (w.modifyCall call f) :=
  customary.calling rfl rfl rfl rfl

theorem endCall (w : World) (call service : Nat) (state : CallState) :
    R w (w.endCall call service state) :=
  customary.trans (customary.modifyCall _ _ _) (customary.sweep _ _)

theorem conclude (w : World) (call service : Nat) (title : String) (request : Request)
    (outcome : Outcome) : R w (w.conclude call service title request outcome) := by
  cases outcome with
  | error error => exact customary.endCall _ _ _ _
  | ok active =>
      exact customary.trans (customary.deliver w title active request) (customary.endCall _ _ _ _)

theorem attend (w : World) (call : Nat) (c : Call) (title : String) (generation : Nat) :
    R w (w.attend call c title generation) := by
  unfold World.attend
  dsimp only
  have progressed := customary.progress w c.service generation
  split
  · exact customary.trans progressed (customary.conclude _ _ _ _ _ _)
  · exact progressed

theorem join (w : World) (call : Nat) (c : Call) (title : String) (generation : Nat) :
    R w (w.join call c title generation) := by
  unfold World.join
  split
  · exact customary.refl w
  · split
    · exact customary.conclude _ _ _ _ _ _
    · rename_i creation _ _ _
      rcases creation.seats.sit call with ⟨seats, place⟩
      have seated := customary.modifyCreation w c.service generation ({ · with seats })
      exact customary.trans (customary.trans seated (customary.modifyCall _ _ _))
        (customary.attend _ _ _ _ _)

theorem start (w : World) (call : Nat) (c : Call) : R w (w.start call c) := by
  unfold World.start
  cases found : w.services[c.service]? with
  | none => exact customary.refl w
  | some s =>
      dsimp only
      cases phase : s.phase with
      | ready | disposed => exact customary.conclude _ _ _ _ _ _
      | creating => exact customary.trans (customary.write _ _) (customary.join _ _ _ _ _)
      | idle =>
          exact customary.trans (customary.beginCreation found phase _) (customary.join _ _ _ _ _)

theorem poll (w : World) (call : Nat) : R w (w.poll call) := by
  unfold World.poll
  split
  · exact customary.refl w
  · split
    · exact customary.refl w
    · split
      · unfold abandon
        split
        · exact customary.trans (customary.modifyCreation _ _ _ _) (customary.endCall _ _ _ _)
        · exact customary.endCall _ _ _ _
      · split
        · exact customary.attend _ _ _ _ _
        · exact customary.start _ _ _

theorem addCall (w : World) (service : Nat) (request : Request) :
    R w (w.addCall service request) := by
  have added : R w { w with calls := w.calls ++ [({ service, request } : Call)] } :=
    customary.calling rfl rfl rfl rfl
  exact customary.trans added (customary.ofAlike (.wake _ _))

theorem abort (w : World) (call : Nat) : R w (w.abort call) := by
  unfold World.abort
  split
  · exact customary.refl w
  · split
    · exact customary.refl w
    · exact customary.trans (customary.modifyCall _ _ _) (customary.ofAlike (.wake _ _))

end Customary

end World
end Terminal
end Workbench
