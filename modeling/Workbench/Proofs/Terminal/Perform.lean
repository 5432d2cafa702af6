import Workbench.Proofs.Terminal.Run
import Workbench.Proofs.Terminal.Turn

namespace Workbench
namespace Terminal

/-!
# What an action can do

An action is the turn of a call, or it makes or disposes a service, or the host reports a terminal
closed that some service holds, or nothing happens to any session at all.  `Happens` says this of
all actions.  That a closed terminal concerns one service at most is an assumption here; it follows
from the fact that every terminal was handed out once.
-/

namespace World

variable {w w' w'' : World} {service terminal : Nat} {s : Service}

/-- Calls stay where they are, and new ones had no turn yet. -/
structure KeepsCalls (w w' : World) : Prop where
  kept : ∀ {call : Nat} {c : Call}, w.calls[call]? = some c →
    ∃ c' : Call, w'.calls[call]? = some c' ∧
      c'.service = c.service ∧ c'.request = c.request ∧ c'.state = c.state
  new : ∀ {call : Nat} {c' : Call}, w'.calls[call]? = some c' → w.calls[call]? = none →
    c'.state = .fresh
  /-- A call that is to be ended stays so. -/
  cancelled : ∀ {call : Nat} {c c' : Call}, w.calls[call]? = some c → w'.calls[call]? = some c' →
    c.cancelled = true → c'.cancelled = true

namespace KeepsCalls

theorem of_eq (calls : w'.calls = w.calls) : KeepsCalls w w' where
  kept := fun {_ c} found => ⟨c, calls ▸ found, rfl, rfl, rfl⟩
  new := fun {call c'} found absent => by
    rw [calls, absent] at found
    cases found
  cancelled := fun found found' ending => by
    rw [calls, found] at found'
    cases found'
    exact ending

theorem trans (first : KeepsCalls w w') (second : KeepsCalls w' w'') : KeepsCalls w w'' where
  kept := fun found => by
    rcases first.kept found with ⟨c', found', service', request', state'⟩
    rcases second.kept found' with ⟨c'', found'', service'', request'', state''⟩
    exact ⟨c'', found'', service''.trans service', request''.trans request',
      state''.trans state'⟩
  new := fun {call c''} found absent => by
    cases middle : w'.calls[call]? with
    | none => exact second.new found middle
    | some c' =>
        rcases second.kept middle with ⟨other, found', _, _, state⟩
        rw [found] at found'
        cases found'
        exact state.trans (first.new middle absent)
  cancelled := fun found found'' ending => by
    rcases first.kept found with ⟨c', found', _⟩
    exact second.cancelled found' found'' (first.cancelled found found' ending)

theorem concat (w : World) (service : Nat) (request : Request) :
    KeepsCalls w { w with calls := w.calls ++ [{ service, request }] } where
  kept := fun {call c} found => by
    have inside := (List.getElem?_eq_some_iff.mp found).1
    refine ⟨c, ?_, rfl, rfl, rfl⟩
    rw [List.getElem?_append_left inside]
    exact found
  new := fun {call c'} found absent => by
    have outside := List.getElem?_eq_none_iff.mp absent
    rw [List.getElem?_append_right outside, List.getElem?_singleton] at found
    split at found <;> cases found
    rfl
  cancelled := fun found found' ending => by
    have inside := (List.getElem?_eq_some_iff.mp found).1
    rw [List.getElem?_append_left inside, found] at found'
    cases found'
    exact ending

theorem addCall (w : World) (service : Nat) (request : Request) :
    KeepsCalls w (w.addCall service request) :=
  (concat w service request).trans (.of_eq (Alike.wake _ _).calls)

/-- Changing what does not matter here. -/
theorem modify (w : World) (call : Nat) {f : Call → Call}
    (same : ∀ c, (f c).service = c.service ∧ (f c).request = c.request ∧ (f c).state = c.state)
    (ending : ∀ c, c.cancelled = true → (f c).cancelled = true) :
    KeepsCalls w (w.modifyCall call f) where
  kept := fun {other c} found => by
    by_cases here : call = other
    · refine ⟨f c, ?_, same c⟩
      simp [modifyCall, here, found]
    · refine ⟨c, ?_, rfl, rfl, rfl⟩
      simp [modifyCall, here, found]
  new := fun {other c'} found absent => by
    simp [modifyCall, List.getElem?_modify, absent] at found
  cancelled := fun {other c c'} found found' before => by
    rw [modifyCall, List.getElem?_modify, found, Option.map_eq_map, Option.map_some,
      Option.some.injEq] at found'
    rw [← found']
    split
    · exact ending c before
    · exact before

end KeepsCalls

/-- Nothing happens to any session or to the host's terminals. -/
structure Quiet (w w' : World) : Prop where
  sessions : SameSessions w w'
  terminals : w'.host.terminals = w.host.terminals
  requests : w'.host.requests = w.host.requests
  activations : w'.activator.activations = w.activator.activations
  calls : KeepsCalls w w'

theorem Quiet.refl (w : World) : Quiet w w := ⟨.refl w, rfl, rfl, rfl, .of_eq rfl⟩

/-- Neither the log nor the executor matter. -/
theorem Quiet.alike (quiet : Quiet w w') (alike : Alike w' w'') : Quiet w w'' where
  sessions := quiet.sessions.trans alike.sessions
  terminals := (congrArg Host.terminals alike.host).trans quiet.terminals
  requests := (congrArg Host.requests alike.host).trans quiet.requests
  activations := (congrArg Activator.activations alike.activator).trans quiet.activations
  calls := quiet.calls.trans (.of_eq alike.calls)

/-- A service that has no terminal is made. -/
structure Adds (title : String) (resource : Option Url) (helper : Helper) (service : Nat)
    (w w' : World) : Prop where
  absent : w.session? service = none
  present : w'.session? service = some { title, resource, helper }
  others : ∀ other, other ≠ service → w'.session? other = w.session? other
  terminals : w'.host.terminals = w.host.terminals
  requests : w'.host.requests = w.host.requests
  activations : w'.activator.activations = w.activator.activations
  calls : w'.calls = w.calls

theorem addService_adds (w : World) (title : String) (resource : Option Url) (helper : Helper) :
    Adds title resource helper w.services.length w (w.addService title resource helper) where
  absent := by rw [session?, List.getElem?_eq_none (Nat.le_refl _), Option.map_none]
  present := by
    rw [session?, addService, List.getElem?_concat_length, Option.map_some]
    rfl
  others := fun other different => by
    have services : (w.services ++ [({ title, resource, helper } : Service)])[other]? =
        w.services[other]? := by
      by_cases inside : other < w.services.length
      · exact List.getElem?_append_left inside
      · have beyond : (w.services ++ [({ title, resource, helper } : Service)]).length ≤ other := by
          rw [List.length_append, List.length_singleton]
          omega
        rw [List.getElem?_eq_none beyond, List.getElem?_eq_none (by omega)]
    rw [session?, session?, addService, services]
  terminals := rfl
  requests := rfl
  activations := rfl
  calls := rfl

/-! ## Disposal -/

/-- What becomes of the terminal that a service holds when the service is disposed. -/
def disposal : Option Nat → Effect
  | some terminal => .use terminal [.disposed]
  | none => .nothing

structure Disposes (service : Nat) (w w' : World) (s : Service) : Prop where
  replaces : Replaces w w' service s { s with phase := .disposed }
  terminals : w'.host.terminals = (disposal s.phase.held?).terminals w.host.terminals
  requests : w'.host.requests = w.host.requests
  activations : w'.activator.activations = w.activator.activations
  calls : w'.calls = w.calls
  listeners : w'.listeners = w.listeners

theorem dispose_disposes (found : w.services[service]? = some s) :
    Disposes service w (w.dispose service) s.session := by
  have replaces {w' : World}
      (services :
        w'.services = (w.modifyService service ({ · with phase := .disposed })).services) :
      Replaces w w' service s.session { s.session with phase := .disposed } :=
    .ofModify (f := ({ · with phase := .disposed })) found services
  unfold dispose
  simp only [found]
  cases phase : s.phase with
  | ready active =>
      exact ⟨replaces rfl, by rw [Service.phase_session, phase]; rfl, rfl, rfl, rfl, rfl⟩
  | creating generation slot =>
      cases slot with
      | some terminal =>
          exact ⟨replaces rfl, by rw [Service.phase_session, phase]; rfl, rfl, rfl, rfl, rfl⟩
      | none => exact ⟨replaces rfl, by rw [Service.phase_session, phase]; rfl, rfl, rfl, rfl, rfl⟩
  | idle | disposed =>
      exact ⟨replaces rfl, by rw [Service.phase_session, phase]; rfl, rfl, rfl, rfl, rfl⟩

theorem dispose_of_absent (absent : w.services[service]? = none) : w.dispose service = w := by
  simp only [dispose, absent]

/-! ## Closed terminals -/

/-- A service hears that the terminal which it holds was closed.  Its listeners may dispose it or
show its terminal again, which is a new call. -/
structure Hears (service : Nat) (w w' : World) (s : Service) : Prop where
  replaces : ∃ phase, (phase = .idle ∨ phase = .disposed) ∧
    Replaces w w' service s { s with phase }
  terminals : w'.host.terminals = w.host.terminals
  requests : w'.host.requests = w.host.requests
  activations : w'.activator.activations = w.activator.activations
  calls : KeepsCalls w w'
  listeners : ∀ listener : Nat, (w'.listeners[listener]?).map CloseListener.service =
    (w.listeners[listener]?).map CloseListener.service

/-- A service that heard that its terminal was closed has nothing left to dispose. -/
theorem Hears.dispose (hears : Hears service w w' s) :
    Hears service w (w'.dispose service) s := by
  cases present : w'.services[service]? with
  | none =>
      rw [dispose_of_absent present]
      exact hears
  | some s' =>
      have disposes := dispose_disposes present
      rcases hears.replaces with ⟨phase, quiet, replaces⟩
      have there := disposes.replaces.before
      rw [replaces.after] at there
      rw [← Option.some.inj there] at disposes
      have nothing : disposal phase.held? = .nothing := by
        rcases quiet with rfl | rfl <;> rfl
      have terminals := disposes.terminals
      rw [nothing] at terminals
      exact
        { replaces := ⟨.disposed, Or.inr rfl, replaces.trans disposes.replaces⟩
          terminals := terminals.trans hears.terminals
          requests := disposes.requests.trans hears.requests
          activations := disposes.activations.trans hears.activations
          calls := hears.calls.trans (.of_eq disposes.calls)
          listeners := fun other => by
            rw [disposes.listeners]
            exact hears.listeners other }

/-- Calls can be made as soon as a service heard that its terminal was closed. -/
theorem Hears.addCall (hears : Hears service w w' s) (about : Nat) (request : Request) :
    Hears service w (w'.addCall about request) s := by
  have alike := Alike.wake { w' with
    calls := w'.calls ++ [({ service := about, request } : Call)] } w'.calls.length
  rcases hears.replaces with ⟨phase, quiet, replaces⟩
  exact
    { replaces := ⟨phase, quiet, replaces.same (.ofServices alike.services)⟩
      terminals := (congrArg Host.terminals alike.host).trans hears.terminals
      requests := (congrArg Host.requests alike.host).trans hears.requests
      activations := (congrArg Activator.activations alike.activator).trans hears.activations
      calls := hears.calls.trans (.addCall w' about request)
      listeners := fun other => by
        rw [World.addCall, alike.listeners]
        exact hears.listeners other }

/-- It is counted how often a listener was notified. -/
theorem Hears.fire (hears : Hears service w w' s) (listener : Nat) :
    Hears service w { w' with
      listeners := w'.listeners.modify listener fun l => { l with fired := l.fired + 1 } } s := by
  rcases hears.replaces with ⟨phase, quiet, replaces⟩
  exact
    { replaces := ⟨phase, quiet, replaces.same (.ofServices rfl)⟩
      terminals := hears.terminals
      requests := hears.requests
      activations := hears.activations
      calls := hears.calls.trans (.of_eq rfl)
      listeners := fun other => by
        rw [← hears.listeners other, List.getElem?_modify]
        cases w'.listeners[other]? with
        | none => rfl
        | some l => by_cases here : listener = other <;> simp [here] }

/-- Notifying a listener of the service is part of it. -/
theorem Hears.notify (hears : Hears service w w' s) {listener : Nat} {l : CloseListener}
    (member : w.listeners[listener]? = some l) (about : l.service = service) :
    Hears service w (w'.notify listener) s := by
  unfold World.notify
  cases found : w'.listeners[listener]? with
  | none => exact hears
  | some l' =>
      have counted := hears.fire listener
      dsimp only
      cases l'.reaction with
      | none => exact counted
      | dispose =>
          have about' : l'.service = service := by
            have kept := hears.listeners listener
            rw [found, member, Option.map_some, Option.map_some] at kept
            exact (Option.some.inj kept).trans about
          rw [about']
          exact counted.dispose
      | «show» => exact counted.addCall l'.service (.show true)

theorem Hears.notifyAll (listeners : List Nat)
    (about : ∀ listener ∈ listeners, ∃ l : CloseListener, w.listeners[listener]? = some l ∧
      l.service = service) (hears : Hears service w w' s) :
    Hears service w (listeners.foldl World.notify w') s := by
  induction listeners generalizing w' with
  | nil => exact hears
  | cons listener rest inductionHypothesis =>
      rcases about listener (List.mem_cons_self) with ⟨l, member, here⟩
      exact inductionHypothesis (fun other there => about other (List.mem_cons_of_mem _ there))
        (hears.notify member here)

theorem mem_listenersOf {listener : Nat} (member : listener ∈ w.listenersOf service) :
    ∃ l : CloseListener, w.listeners[listener]? = some l ∧ l.service = service := by
  have chosen := (List.mem_filter.mp member).2
  cases found : w.listeners[listener]? with
  | none => simp [found] at chosen
  | some l =>
      simp only [found, Bool.and_eq_true, beq_iff_eq] at chosen
      exact ⟨l, rfl, chosen.2⟩

theorem hearClosed_hears (found : w.services[service]? = some s)
    (held : s.phase.held? = some terminal) :
    Hears service w (w.hearClosed service terminal) s.session := by
  unfold hearClosed
  simp only [found, held, if_true]
  refine Hears.notifyAll _ (fun listener member => mem_listenersOf member) ?_
  exact
    { replaces := ⟨.idle, Or.inl rfl, .ofModify (f := ({ · with phase := .idle })) found rfl⟩
      terminals := rfl
      requests := rfl
      activations := rfl
      calls := .of_eq rfl
      listeners := fun _ => rfl }

theorem held?_eq_of_services (found : w.services[service]? = some s) :
    w.held? service = s.phase.held? := by
  rw [held?, session?, found, Option.map_some, Option.bind_some, Service.phase_session]

/-- A service does not mind a closed terminal that it does not hold. -/
theorem hearClosed_of_not_held (notHeld : w.held? service ≠ some terminal) :
    w.hearClosed service terminal = w := by
  unfold hearClosed
  cases found : w.services[service]? with
  | none => rfl
  | some s =>
      rw [held?_eq_of_services found] at notHeld
      simp only [notHeld, if_false]

theorem hearClosed_of_nobody {services : List Nat}
    (nobody : ∀ service ∈ services, w.held? service ≠ some terminal) :
    services.foldl (fun w service => w.hearClosed service terminal) w = w := by
  induction services with
  | nil => rfl
  | cons service rest inductionHypothesis =>
      rw [List.foldl_cons, hearClosed_of_not_held (nobody service List.mem_cons_self)]
      exact inductionHypothesis fun other member => nobody other (List.mem_cons_of_mem _ member)

/-- What the host reports of a terminal reaches no one, or the one service that holds it. -/
theorem close_cases (only : ∀ {service other : Nat}, w.held? service = some terminal →
      w.held? other = some terminal → service = other) :
    (∀ service ∈ w.host.closeListeners, w.held? service ≠ some terminal) ∧ w.close terminal = w ∨
    ∃ service s, service ∈ w.host.closeListeners ∧ w.held? service = some terminal ∧
      Hears service w (w.close terminal) s := by
  have hearing : ∀ services : List Nat,
      (∀ service ∈ services, w.held? service ≠ some terminal) ∧
        services.foldl (fun w service => w.hearClosed service terminal) w = w ∨
      ∃ service s, service ∈ services ∧ w.held? service = some terminal ∧
        Hears service w
          (services.foldl (fun w service => w.hearClosed service terminal) w) s := by
    intro services
    induction services with
    | nil => exact Or.inl ⟨nofun, rfl⟩
    | cons service rest inductionHypothesis =>
        rw [List.foldl_cons]
        by_cases here : w.held? service = some terminal
        · cases found : w.services[service]? with
          | none =>
              rw [held?, session?, found] at here
              cases here
          | some s =>
              have hears := hearClosed_hears found (held?_eq_of_services found ▸ here)
              rcases hears.replaces with ⟨phase, quiet, replaces⟩
              have released : phase.held? = none := by rcases quiet with rfl | rfl <;> rfl
              have nobody : ∀ other ∈ rest,
                  (w.hearClosed service terminal).held? other ≠ some terminal := by
                intro other _ held
                by_cases same : other = service
                · subst same
                  rw [held?_eq replaces.after, released] at held
                  cases held
                · rw [held?, replaces.others other same] at held
                  exact same (only held here)
              rw [hearClosed_of_nobody nobody]
              exact Or.inr ⟨service, s.session, List.mem_cons_self, here, hears⟩
        · rw [hearClosed_of_not_held here]
          rcases inductionHypothesis with ⟨nobody, same⟩ | ⟨other, s, member, held, hears⟩
          · refine Or.inl ⟨fun other member => ?_, same⟩
            rcases List.mem_cons.mp member with rfl | later
            · exact here
            · exact nobody other later
          · exact Or.inr ⟨other, s, List.mem_cons_of_mem _ member, held, hears⟩
  exact hearing w.host.closeListeners

/-! ## All actions -/

/-- What an action can do. -/
inductive Happens (w : World) : Action → World → Prop
  | polled {call : Nat} {w' : World} (polled : Polled call w w') : Happens w (.poll call) w'
  | added {title : String} {resource : Option Url} {helper : Helper} {service : Nat} {w' : World}
      (adds : Adds title resource helper service w w') :
      Happens w (.addService title resource helper) w'
  | disposed {service : Nat} {s : Service} {w' : World} (disposes : Disposes service w w' s) :
      Happens w (.dispose service) w'
  /-- The service that holds a terminal hears that it was closed. -/
  | heard {service terminal : Nat} {s : Service} {w' : World}
      (listening : service ∈ w.host.closeListeners) (held : w.held? service = some terminal)
      (hears : Hears service w w' s) : Happens w (.close terminal) w'
  | unheard {terminal : Nat}
      (nobody : ∀ service ∈ w.host.closeListeners, w.held? service ≠ some terminal) :
      Happens w (.close terminal) w
  | quiet {action : Action} {w' : World} (noTurn : ∀ call, action ≠ .poll call)
      (noReport : ∀ terminal, action ≠ .close terminal) (quiet : Quiet w w') :
      Happens w action w'

theorem Happens.turn {call : Nat} (happens : Happens w (.poll call) w') : Polled call w w' := by
  cases happens with
  | polled polled => exact polled
  | quiet noTurn => exact absurd rfl (noTurn call)

theorem perform_happens (sound : w.Sound)
    (only : ∀ {terminal service other : Nat}, w.held? service = some terminal →
      w.held? other = some terminal → service = other) (action : Action) :
    Happens w action (w.perform action) := by
  cases action with
  | poll call => exact .polled (poll_polled sound call)
  | addService title resource helper => exact .added (addService_adds w title resource helper)
  | dispose service =>
      cases found : w.services[service]? with
      | none =>
          have unchanged : w.perform (.dispose service) = w := dispose_of_absent found
          rw [unchanged]
          exact .quiet nofun nofun (.refl w)
      | some s => exact .disposed (dispose_disposes found)
  | close terminal =>
      rcases close_cases only with ⟨nobody, unchanged⟩ | ⟨service, s, listening, held, hears⟩
      · have same : w.perform (.close terminal) = w := unchanged
        rw [same]
        exact .unheard nobody
      · exact .heard listening held hears
  | retain service =>
      exact .quiet nofun nofun
        ⟨.ofModify w service fun _ => rfl, rfl, rfl, rfl, .of_eq rfl⟩
  | release service =>
      let released := w.modifyService service fun s => { s with owners := s.owners - 1 }
      have first : SameSessions w released := .ofModify w service fun _ => rfl
      rcases sweep_frame released service with ⟨calls, activator, terminals, requests⟩
      exact .quiet nofun nofun
        { sessions := first.trans (sweep_sessions released service)
          terminals := terminals
          requests := requests
          activations := congrArg Activator.activations activator
          calls := .of_eq calls }
  | call service request =>
      have called : Quiet w { w with calls := w.calls ++ [{ service, request }] } :=
        ⟨.ofServices rfl, rfl, rfl, rfl, .concat w service request⟩
      exact .quiet nofun nofun (called.alike (.wake _ w.calls.length))
  | abort call =>
      refine .quiet nofun nofun ?_
      show Quiet w (w.abort call)
      unfold abort
      split
      · exact .refl w
      · split
        · exact .refl w
        · have cancelled : Quiet w (w.modifyCall call ({ · with cancelled := true })) :=
            ⟨.ofServices rfl, rfl, rfl, rfl,
              .modify w call (fun _ => ⟨rfl, rfl, rfl⟩) fun _ _ => rfl⟩
          exact cancelled.alike (.wake _ call)
  | listen | unlisten | failCreation | failActivation | delay | pass | arrange =>
      exact .quiet nofun nofun ⟨.ofServices rfl, rfl, rfl, rfl, .of_eq rfl⟩

end World
end Terminal
end Workbench
