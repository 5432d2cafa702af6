import Workbench.Proofs.Terminal.Ownership
import Workbench.Proofs.Terminal.Registration

namespace Workbench
namespace Terminal

/-!
# Closed terminals are reported once

When the host reports a terminal closed, the one service that holds it is left without a terminal
and notifies its listeners, each of them once; if no service holds it, nothing happens at all.  A
terminal is closed while it is held at most once, so that a listener that stays registered is
notified as often as there are such terminals.
-/

namespace Moment

/-- The host reports a terminal closed that is held by a service which is not dropped. -/
def ClosesHeld (m : Moment) (service terminal : Nat) : Prop :=
  m.action = .close terminal ∧ ∃ s, m.before.services[service]? = some s ∧ s.dropped = false ∧
    s.phase.held? = some terminal

/-- What a moment means for a listener: it is notified, once, if it is registered and its service
loses the terminal that it holds, and it is not notified otherwise. -/
structure Notifies (m : Moment) (listener : Nat) (l l' : CloseListener) : Prop where
  after : m.after.listeners[listener]? = some l'
  service : l'.service = l.service
  reaction : l'.reaction = l.reaction
  active : m.action ≠ .unlisten listener → l'.active = l.active
  once : l.active = true → (∃ terminal, m.ClosesHeld l.service terminal) → l'.fired = l.fired + 1
  silent : l.active = false ∨ (∀ terminal, ¬ m.ClosesHeld l.service terminal) →
    l'.fired = l.fired

/-- What becomes of the services when a terminal is closed that one of them holds: this one has no
terminal any more, and then its listeners that are registered are notified, which may dispose it;
all others stay as they are. -/
structure Reports (m : Moment) (service terminal : Nat) : Prop where
  only : ∀ other, m.ClosesHeld other terminal → other = service
  others : ∀ other, other ≠ service → m.after.session? other = m.before.session? other
  idle : ∃ s idle, World.Replaces m.before idle service s { s with phase := .idle } ∧
    m.after = (m.before.listenersOf service).foldl World.notify idle
  phase : m.after.phase? service = some
    (if ∃ l ∈ m.before.listeners, l.service = service ∧ l.active = true ∧ l.reaction = .dispose then
      .disposed else .idle)

end Moment

namespace World

variable {w w' : World} {service terminal : Nat}

/-! ## Notifications -/

theorem notify_listeners (w : World) (listener : Nat) :
    (w.notify listener).listeners =
      w.listeners.modify listener fun l => { l with fired := l.fired + 1 } := by
  unfold notify
  cases found : w.listeners[listener]? with
  | none => exact (List.modify_eq_self (List.getElem?_eq_none_iff.mp found)).symm
  | some l =>
      dsimp only
      cases l.reaction with
      | none => rfl
      | dispose => exact (dispose_silently _ _).listeners
      | «show» => exact (Silently.customary.addCall _ _ _).listeners

/-- Whoever is notified several times is notified once for each time. -/
theorem notifyAll_listeners (listeners : List Nat) (w : World) (listener : Nat) :
    (listeners.foldl notify w).listeners[listener]? = (w.listeners[listener]?).map fun l =>
      { l with fired := l.fired + listeners.count listener } := by
  induction listeners generalizing w with
  | nil => simp
  | cons first rest inductionHypothesis =>
      rw [List.foldl_cons, inductionHypothesis, notify_listeners, List.getElem?_modify]
      cases w.listeners[listener]? with
      | none => rfl
      | some l =>
          by_cases here : first = listener
          · simp [here, Nat.add_assoc, Nat.add_comm 1]
          · simp [here]

/-- A listener disposes its service or leaves the phase as it is. -/
theorem notify_phase {listener : Nat} {l : CloseListener} (found : w.listeners[listener]? = some l)
    (about : l.service = service) {phase : Phase} (there : w.phase? service = some phase) :
    (w.notify listener).phase? service =
      some (if l.reaction = .dispose then .disposed else phase) := by
  subst about
  let counted : World := { w with
    listeners := w.listeners.modify listener fun l => { l with fired := l.fired + 1 } }
  have standing : counted.phase? l.service = some phase := there
  unfold notify
  simp only [found]
  cases l.reaction with
  | none => exact standing
  | dispose =>
      rcases exists_session_of_phase standing with ⟨session, present, _⟩
      rcases Option.map_eq_some_iff.mp present with ⟨s, present, _⟩
      exact phase?_eq (dispose_disposes (w := counted) present).replaces.after
  | «show» =>
      have added : SameSessions counted { counted with
          calls := counted.calls ++ [({ service := l.service, request := .show true } : Call)] } :=
        .ofServices rfl
      have same : SameSessions counted (counted.addCall l.service (.show true)) :=
        added.trans (Alike.wake _ _).sessions
      exact (same.phase? l.service).trans standing

/-- A service is disposed by its listeners if one of them does so. -/
theorem notifyAll_phase {listeners : List Nat} {phase : Phase}
    (about : ∀ listener ∈ listeners, ∃ l : CloseListener, w.listeners[listener]? = some l ∧
      l.service = service) (there : w.phase? service = some phase) :
    (listeners.foldl notify w).phase? service = some
      (if ∃ listener ∈ listeners, (w.listeners[listener]?).map CloseListener.reaction =
        some .dispose then .disposed else phase) := by
  induction listeners generalizing w phase with
  | nil => simp [there]
  | cons first rest inductionHypothesis =>
      rcases about first List.mem_cons_self with ⟨l, found, here⟩
      have kept (listener : Nat) : ∃ fired : Nat → Nat, (w.notify first).listeners[listener]? =
          (w.listeners[listener]?).map fun l => { l with fired := fired l.fired } := by
        rw [notify_listeners, List.getElem?_modify]
        by_cases same : first = listener
        · exact ⟨(· + 1), by simp [same]⟩
        · exact ⟨id, by simp [same]⟩
      have reactions (listener : Nat) :
          ((w.notify first).listeners[listener]?).map CloseListener.reaction =
            (w.listeners[listener]?).map CloseListener.reaction := by
        rcases kept listener with ⟨fired, same⟩
        rw [same, Option.map_map]
        rfl
      have later : ∀ listener ∈ rest, ∃ l : CloseListener,
          (w.notify first).listeners[listener]? = some l ∧ l.service = service := by
        intro listener member
        rcases about listener (List.mem_cons_of_mem _ member) with ⟨l, found, here⟩
        rcases kept listener with ⟨fired, same⟩
        exact ⟨{ l with fired := fired l.fired }, by rw [same, found, Option.map_some], here⟩
      rw [List.foldl_cons, inductionHypothesis later (notify_phase found here there)]
      simp only [reactions, List.exists_mem_cons_iff, found, Option.map_some, Option.some.injEq]
      by_cases disposes : l.reaction = .dispose <;> simp [disposes]

/-- The listeners of a service that are registered are notified once each, and no others. -/
theorem count_listenersOf {listener : Nat} {l : CloseListener}
    (found : w.listeners[listener]? = some l) :
    (w.listenersOf service).count listener =
      if l.active = true ∧ l.service = service then 1 else 0 := by
  rcases List.getElem?_eq_some_iff.mp found with ⟨inside, rfl⟩
  have once : (w.listenersOf service).Nodup := List.nodup_range.filter _
  rw [once.count]
  simp [listenersOf, inside]

theorem exists_listenersOf_iff :
    (∃ listener ∈ w.listenersOf service,
      (w.listeners[listener]?).map CloseListener.reaction = some .dispose) ↔
    ∃ l ∈ w.listeners, l.service = service ∧ l.active = true ∧ l.reaction = .dispose := by
  constructor
  · rintro ⟨listener, member, disposes⟩
    rcases Option.map_eq_some_iff.mp disposes with ⟨l, found, disposes⟩
    have chosen := (List.mem_filter.mp member).2
    simp only [found, Bool.and_eq_true, beq_iff_eq] at chosen
    exact ⟨l, List.mem_of_getElem? found, chosen.2, chosen.1, disposes⟩
  · rintro ⟨l, member, about, active, disposes⟩
    rcases List.getElem?_of_mem member with ⟨listener, found⟩
    refine ⟨listener, ?_, by rw [found, Option.map_some, disposes]⟩
    have once : (w.listenersOf service).count listener = 1 := by
      rw [count_listenersOf found, if_pos ⟨active, about⟩]
    exact List.count_pos_iff.mp (once ▸ Nat.one_pos)

/-! ## The service that holds a closed terminal -/

/-- A service that holds a closed terminal has none any more when its listeners are notified. -/
theorem hearClosed_eq {s : Service} (found : w.services[service]? = some s)
    (held : s.phase.held? = some terminal) :
    ∃ idle : World, Replaces w idle service s.session { s.session with phase := .idle } ∧
      idle.listeners = w.listeners ∧
      w.hearClosed service terminal = (w.listenersOf service).foldl notify idle := by
  refine ⟨(w.setPhase service .idle).write (.info ("Terminal closed: title='" ++ s.title ++
    "', id=" ++ idText terminal)), ?_, rfl, ?_⟩
  · exact .ofModify (f := ({ · with phase := .idle })) found rfl
  · unfold hearClosed
    simp only [found, held, if_true]

/-- A closed terminal concerns the service that holds it and no other. -/
theorem close_eq_hearClosed (registered : w.Registered)
    (only : ∀ {service other : Nat}, w.held? service = some terminal →
      w.held? other = some terminal → service = other)
    (listening : service ∈ w.host.closeListeners) (held : w.held? service = some terminal) :
    w.close terminal = w.hearClosed service terminal := by
  rcases List.append_of_mem listening with ⟨before, after, split⟩
  have once := registered.once
  rw [split, List.nodup_append] at once
  have elsewhere : ∀ other, other ≠ service → w.held? other ≠ some terminal :=
    fun other different held' => different (only held' held)
  have nobodyBefore : ∀ other ∈ before, w.held? other ≠ some terminal :=
    fun other member => elsewhere other (once.2.2 other member service List.mem_cons_self)
  have nobodyAfter : ∀ other ∈ after,
      (w.hearClosed service terminal).held? other ≠ some terminal := by
    intro other member
    have different : other ≠ service := by
      rintro rfl
      exact (List.nodup_cons.mp once.2.1).1 member
    rcases registered.exists_of_mem listening with ⟨s, found, _⟩
    rcases (hearClosed_hears found (held?_eq_of_services found ▸ held)).replaces with
      ⟨phase, _, replaces⟩
    rw [held?_others replaces other different]
    exact elsewhere other different
  rw [close, split, List.foldl_append, hearClosed_of_nobody nobodyBefore, List.foldl_cons,
    hearClosed_of_nobody nobodyAfter]

end World

namespace Moment

variable {m : Moment} {service terminal : Nat}

/-- Whoever holds a terminal is registered unless it is dropped. -/
theorem closesHeld_iff (registered : m.before.Registered) :
    m.ClosesHeld service terminal ↔ m.HearsClosed service terminal := by
  constructor
  · rintro ⟨turn, s, found, kept, held⟩
    refine ⟨turn, (registered.mem_iff found).mpr ⟨kept, ?_⟩,
      (World.held?_eq_of_services found).trans held⟩
    intro disposed
    rw [disposed] at held
    cases held
  · rintro ⟨turn, listening, held⟩
    rcases registered.exists_of_mem listening with ⟨s, found, kept, _⟩
    exact ⟨turn, s, found, kept, (World.held?_eq_of_services found).symm.trans held⟩

section

variable (registered : m.before.Registered)
  (only : ∀ {terminal service other : Nat}, m.before.held? service = some terminal →
    m.before.held? other = some terminal → service = other)

include registered only

/-- A terminal is closed that a service holds. -/
theorem ClosesHeld.after (closes : m.ClosesHeld service terminal) :
    m.after = m.before.hearClosed service terminal := by
  rcases (closesHeld_iff registered).mp closes with ⟨turn, listening, held⟩
  rw [Moment.after, turn]
  exact World.close_eq_hearClosed registered only listening held

theorem ClosesHeld.reports (closes : m.ClosesHeld service terminal) :
    m.Reports service terminal := by
  have after := closes.after registered only
  rcases closes with ⟨turn, s, found, kept, held⟩
  rcases World.hearClosed_eq found held with ⟨idle, replaces, listeners, same⟩
  have holding := (World.held?_eq_of_services found).trans held
  rcases (World.hearClosed_hears found held).replaces with ⟨_, _, replaces'⟩
  refine
    { only := fun other closes' => ?_
      others := fun other different => ?_
      idle := ⟨_, idle, replaces, after.trans same⟩
      phase := ?_ }
  · rcases closes' with ⟨_, s', found', _, held'⟩
    exact only ((World.held?_eq_of_services found').trans held') holding
  · rw [after]
    exact replaces'.others other different
  · rw [after, same, World.notifyAll_phase ?_ (World.phase?_eq replaces.after)]
    · simp only [listeners, World.exists_listenersOf_iff]
    · intro listener member
      rw [listeners]
      exact World.mem_listenersOf member

/-- Nobody minds a closed terminal that nobody holds. -/
theorem after_of_not_closesHeld (turn : m.action = .close terminal)
    (nobody : ∀ service, ¬ m.ClosesHeld service terminal) : m.after = m.before := by
  rw [Moment.after, turn]
  rcases World.close_cases only with
    ⟨_, unchanged⟩ | ⟨service, _, listening, held, _⟩
  · exact unchanged
  · exact absurd ((closesHeld_iff registered).mpr ⟨turn, listening, held⟩) (nobody service)

/-- A moment in which no terminal is closed that a service holds notifies nobody. -/
theorem exists_of_not_closesHeld {listener : Nat} {l : CloseListener}
    (found : m.before.listeners[listener]? = some l)
    (nobody : ∀ service terminal, ¬ m.ClosesHeld service terminal) :
    ∃ l', m.after.listeners[listener]? = some l' ∧ l'.service = l.service ∧
      l'.reaction = l.reaction ∧ l'.fired = l.fired ∧
      (m.action ≠ .unlisten listener → l'.active = l.active) := by
  have same (listeners : m.after.listeners = m.before.listeners) :
      ∃ l', m.after.listeners[listener]? = some l' ∧ l'.service = l.service ∧
        l'.reaction = l.reaction ∧ l'.fired = l.fired ∧
        (m.action ≠ .unlisten listener → l'.active = l.active) :=
    ⟨l, by rw [listeners, found], rfl, rfl, rfl, fun _ => rfl⟩
  rcases m with ⟨w, action⟩
  cases action with
  | addService | retain | failCreation | failActivation | delay | pass | arrange => exact same rfl
  | release service => exact same (World.release_silently w service).listeners
  | dispose service => exact same (World.dispose_silently w service).listeners
  | call service request => exact same (World.Silently.customary.addCall w service request).listeners
  | poll call => exact same (World.Silently.customary.poll w call).listeners
  | abort call => exact same (World.Silently.customary.abort w call).listeners
  | close terminal =>
      exact same (congrArg World.listeners
        (after_of_not_closesHeld registered only rfl fun service => nobody service terminal))
  | listen service reaction =>
      refine ⟨l, ?_, rfl, rfl, rfl, fun _ => rfl⟩
      exact (List.getElem?_append_left (List.getElem?_eq_some_iff.mp found).1).trans found
  | unlisten other =>
      by_cases here : other = listener
      · subst here
        exact ⟨{ l with active := false }, by simp [Moment.after, World.perform, World.unlisten,
          show w.listeners[other]? = some l from found], rfl, rfl, rfl, fun kept => absurd rfl kept⟩
      · exact ⟨l, by simp [Moment.after, World.perform, World.unlisten, here,
          show w.listeners[listener]? = some l from found], rfl, rfl, rfl, fun _ => rfl⟩

theorem exists_notifies {listener : Nat} {l : CloseListener}
    (found : m.before.listeners[listener]? = some l) : ∃ l', m.Notifies listener l l' := by
  by_cases heard : ∃ service terminal, m.ClosesHeld service terminal
  · rcases heard with ⟨service, terminal, closes⟩
    have after := closes.after registered only
    rcases closes with ⟨turn, s, present, kept, held⟩
    rcases World.hearClosed_eq present held with ⟨idle, _, listeners, same⟩
    have notified : m.after.listeners[listener]? = some { l with
        fired := l.fired + if l.active = true ∧ l.service = service then 1 else 0 } := by
      rw [after, same, World.notifyAll_listeners, listeners, found, Option.map_some,
        World.count_listenersOf found]
    have others {other : Nat} (closes' : m.ClosesHeld l.service other) : l.service = service := by
      rcases closes' with ⟨turn', s', present', _, held'⟩
      rw [turn] at turn'
      cases turn'
      exact only ((World.held?_eq_of_services present').trans held')
        ((World.held?_eq_of_services present).trans held)
    refine ⟨_, notified, rfl, rfl, fun _ => rfl, fun active told => ?_, fun silent => ?_⟩
    · rcases told with ⟨other, closes'⟩
      exact congrArg (l.fired + ·) (if_pos ⟨active, others closes'⟩)
    · refine congrArg (l.fired + ·) (if_neg ?_)
      rintro ⟨active, rfl⟩
      rcases silent with inactive | nobody
      · rw [active] at inactive
        cases inactive
      · exact nobody terminal ⟨turn, s, present, kept, held⟩
  · have nobody : ∀ service terminal, ¬ m.ClosesHeld service terminal :=
      fun service terminal closes => heard ⟨service, terminal, closes⟩
    rcases exists_of_not_closesHeld registered only found nobody with
      ⟨l', after, service, reaction, fired, active⟩
    refine ⟨l', after, service, reaction, active, fun _ told => ?_, fun _ => fired⟩
    rcases told with ⟨terminal, closes⟩
    exact absurd closes (nobody l.service terminal)

end

end Moment

namespace Run

/-- A terminal that was closed while it was held, or disposed, or that there is not, is not held. -/
theorem not_held_of_released (run : Run) {terminal : Nat}
    (released : run.world.host.next ≤ terminal ∨ run.Closed terminal ∨
      run.world.disposals terminal ≠ 0) (service : Nat) :
    run.world.held? service ≠ some terminal := by
  intro held
  have handed := run.sound.held held
  rcases run.ledger.accounted handed with ⟨_, opened, none⟩ | ⟨free, _⟩ | ⟨free, _⟩
  · rcases released with beyond | closed | disposed
    · exact absurd (run.ledger.within handed) (Nat.not_lt.mpr beyond)
    · exact opened closed
    · exact disposed none
  · exact free held
  · exact free held

/-- A terminal that was closed while it was held is not held any more. -/
theorem not_held_of_closesHeld (run : Run) {m : Moment} {earlier : List Action}
    (member : m ∈ run.since earlier) {service terminal : Nat}
    (closes : m.ClosesHeld service terminal) (other : Nat) :
    (run.extend earlier).world.held? other ≠ some terminal := by
  have past : m ∈ (run.extend earlier).past := by
    rw [past_extend]
    exact List.mem_append_right _ member
  have registered : m.before.Registered := by
    rcases exists_of_mem_past past with ⟨before, _, moment, _⟩
    rw [moment]
    exact before.registered
  have shut : (run.extend earlier).Closed terminal :=
    ⟨m, past, service, (Moment.closesHeld_iff registered).mp closes⟩
  exact (run.extend earlier).not_held_of_released (Or.inr (Or.inl shut)) other

/-- A listener that stays registered is notified once for each terminal that its service loses. -/
theorem exists_closed (run : Run) {listener : Nat} {l : CloseListener}
    (found : run.world.listeners[listener]? = some l) (active : l.active = true)
    {more : List Action} (kept : Action.unlisten listener ∉ more) :
    ∃ (closed : List Nat) (l' : CloseListener), closed.Nodup ∧
      (∀ terminal, terminal ∈ closed ↔ ∃ m ∈ run.since more, m.ClosesHeld l.service terminal) ∧
      (run.extend more).world.listeners[listener]? = some l' ∧ l'.service = l.service ∧
      l'.active = true ∧ l'.fired = l.fired + closed.length := by
  induction more using List.reverseRecOn with
  | nil =>
      refine ⟨[], l, List.nodup_nil, fun terminal => ⟨nofun, ?_⟩, ?_, rfl, active, rfl⟩
      · rintro ⟨m, member, _⟩
        cases member
      · rwa [extend_nil]
  | append_singleton earlier action inductionHypothesis =>
      rcases inductionHypothesis fun member => kept (List.mem_append_left _ member) with
        ⟨closed, l', once, each, found', service, active', fired⟩
      let m : Moment := ⟨(run.extend earlier).world, action⟩
      have registered : m.before.Registered := (run.extend earlier).registered
      rcases Moment.exists_notifies registered
        ((run.extend earlier).ledger.holder (run.extend earlier).sound) found' with ⟨l'', notifies⟩
      have after : (run.extend (earlier ++ [action])).world.listeners[listener]? = some l'' := by
        rw [extend_concat, world_step]
        exact notifies.after
      have stays : l''.active = true := by
        rw [notifies.active, active']
        rintro rfl
        exact kept (List.mem_append_right _ List.mem_cons_self)
      have counts := notifies.once active'
      have silent := notifies.silent
      rw [since_concat]
      rw [service] at counts silent
      by_cases heard : ∃ terminal, m.ClosesHeld l.service terminal
      · rcases heard with ⟨terminal, closes⟩
        have new : terminal ∉ closed := by
          intro member
          rcases (each terminal).mp member with ⟨m', member', closes'⟩
          exact run.not_held_of_closesHeld member' closes' l.service
            ((Moment.closesHeld_iff registered).mp closes).2.2
        refine ⟨closed ++ [terminal], l'', ?_, fun other => ?_, after,
          notifies.service.trans service, stays, ?_⟩
        · rw [← List.concat_eq_append]
          exact once.concat new
        · simp only [List.mem_append, List.mem_singleton, each, or_and_right, exists_or,
            exists_eq_left]
          refine or_congr_right ⟨?_, fun closes' => ?_⟩
          · rintro rfl
            exact closes
          · have same := closes.1.symm.trans closes'.1
            cases same
            rfl
        · rw [counts ⟨terminal, closes⟩, fired, List.length_append, List.length_singleton,
            Nat.add_assoc]
      · have nobody : ∀ terminal, ¬ m.ClosesHeld l.service terminal :=
          fun terminal closes => heard ⟨terminal, closes⟩
        refine ⟨closed, l'', once, fun other => ?_, after, notifies.service.trans service, stays,
          (silent (Or.inr nobody)).trans fired⟩
        simp only [List.mem_append, List.mem_singleton, each, or_and_right, exists_or,
          exists_eq_left]
        exact (or_iff_left (nobody other)).symm

/-- In every run a closed terminal concerns the service that holds it, if there is one: this one has
no terminal any more and notifies its listeners that are registered, once each, and no other service
changes; if nobody holds the terminal, as is so if the host never handed it out, if it was closed
while it was held or if it was disposed, nothing changes at all.  Nothing else notifies a listener,
so that one which stays registered is notified as often as there are different terminals of its
service that were closed while they were held. -/
theorem closed_terminals_are_reported_once (run : Run) :
    (∀ m ∈ run.past, ∀ terminal, m.action = .close terminal →
      (∀ service, m.ClosesHeld service terminal → m.Reports service terminal) ∧
      ((∀ service, ¬ m.ClosesHeld service terminal) → m.after = m.before)) ∧
    (∀ terminal, run.world.host.next ≤ terminal ∨ run.Closed terminal ∨
        run.world.disposals terminal ≠ 0 → run.world.close terminal = run.world) ∧
    (∀ m ∈ run.past, ∀ (listener : Nat) (l : CloseListener),
      m.before.listeners[listener]? = some l → ∃ l', m.Notifies listener l l') ∧
    (∀ (more : List Action) (listener : Nat) (l : CloseListener),
      run.world.listeners[listener]? = some l → l.active = true → .unlisten listener ∉ more →
      ∃ (closed : List Nat) (l' : CloseListener), closed.Nodup ∧
        (∀ terminal, terminal ∈ closed ↔ ∃ m ∈ run.since more, m.ClosesHeld l.service terminal) ∧
        (run.extend more).world.listeners[listener]? = some l' ∧
        l'.fired = l.fired + closed.length) := by
  have holder (earlier : Run) {terminal service other : Nat}
      (held : earlier.world.held? service = some terminal)
      (held' : earlier.world.held? other = some terminal) : service = other :=
    earlier.ledger.holder earlier.sound held held'
  refine ⟨fun m member terminal turn => ?_, fun terminal released => ?_,
    fun m member listener l found => ?_, fun more listener l found active kept => ?_⟩
  · rcases exists_of_mem_past member with ⟨earlier, _, moment, _⟩
    have before : m.before = earlier.world := congrArg Moment.before moment
    have registered : m.before.Registered := before ▸ earlier.registered
    exact ⟨fun service closes => closes.reports registered (before ▸ holder earlier),
      Moment.after_of_not_closesHeld registered (before ▸ holder earlier) turn⟩
  · exact World.hearClosed_of_nobody fun service _ => run.not_held_of_released released service
  · rcases exists_of_mem_past member with ⟨earlier, _, moment, _⟩
    have before : m.before = earlier.world := congrArg Moment.before moment
    exact Moment.exists_notifies (before ▸ earlier.registered) (before ▸ holder earlier) found
  · rcases run.exists_closed found active kept with
      ⟨closed, l', once, each, found', _, _, fired⟩
    exact ⟨closed, l', once, each, found', fired⟩

/-- A service with a listener. -/
def watched : Run where
  actions := [.addService "Lint" none (.fixed none), .listen 0 .none]

/-- The watched service loses two terminals; it does not mind that the first one is closed again, or
that some other terminal is. -/
theorem watched_loses_two :
    ∃ closed : List Nat, closed.Nodup ∧ closed.length = 2 ∧
      ∀ terminal, terminal ∈ closed ↔ ∃ m ∈ watched.since
        [.call 0 (.show true), .poll 0, .close 0, .close 0, .close 7, .call 0 (.sendText "make"),
          .poll 1, .close 1], m.ClosesHeld 0 terminal := by
  rcases (closed_terminals_are_reported_once watched).2.2.2
    [.call 0 (.show true), .poll 0, .close 0, .close 0, .close 7, .call 0 (.sendText "make"),
      .poll 1, .close 1] 0 { service := 0, reaction := .none } (by decide +kernel) rfl
    (by simp) with ⟨closed, l', once, each, found, fired⟩
  refine ⟨closed, once, ?_, each⟩
  have twice : some l' = some { service := 0, reaction := .none, fired := 2 } := by
    rw [← found]
    decide +kernel
  cases twice
  simpa using fired.symm

end Run

end Terminal
end Workbench
