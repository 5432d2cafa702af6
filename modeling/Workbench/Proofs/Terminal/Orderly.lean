import Workbench.Proofs.Terminal.Closing
import Workbench.Proofs.Terminal.Polling

namespace Workbench
namespace Terminal

/-!
# Runs in which the executor does its work

In a run that is `Orderly` calls are made to services that there are, a call has its turn only when
it is in the queue, which it leaves then, and a timer does not go away before it fires, which wakes
all who have a seat at its creation.  In which order calls have their turns and when timers fire,
as long as it is not too early, is left open.  All that an executor does in time keeps to this.
When the queue is empty and no timer is late, nothing that could run is left (`World.Settled`), and
then every call that is not over waits for the host or the activator, since it has not been
forgotten (`Orderly.wakeful`).
-/

namespace Action

/-- Whether something happens from outside, and not at the hands of the executor. -/
def isOutside : Action → Bool
  | poll _ | arrange .. => false
  | _ => true

end Action

namespace World

/-- Anything can happen from outside, but calls are made only to services that there are. -/
structure Admits (w : World) (action : Action) : Prop where
  outside : action.isOutside = true
  known : ∀ {service : Nat} {request : Request}, action = .call service request →
    service < w.services.length

/-- All timers that end at a certain time fire. -/
def fired (w : World) (due : Nat) : World :=
  (w.timers.filter fun timer => timer.due == due).foldl fire
    { w with timers := w.timers.filter fun timer => timer.due != due }

/-- No timer is late. -/
def Punctual (w : World) : Prop :=
  ∀ timer ∈ w.timers, w.now < timer.due

/-- Nothing is left that could run before time passes. -/
structure Settled (w : World) : Prop where
  idle : w.queue = []
  punctual : w.Punctual

variable {w w' : World}

/-! ## What happens from outside -/

theorem mem_wake (w : World) (call other : Nat) :
    other ∈ (w.wake call).queue ↔ other ∈ w.queue ∨ other = call := by
  unfold wake
  split
  · rename_i waits
    refine ⟨Or.inl, ?_⟩
    rintro (member | rfl)
    · exact member
    · exact waits
  · exact List.mem_append.trans (or_congr_right List.mem_singleton)

/-- Waking a call shows nowhere but in the queue. -/
theorem wake_eases (w : World) (call : Nat) : Eases w (w.wake call) := by
  have queued (other : Nat) (member : other ∈ w.queue) : other ∈ (w.wake call).queue :=
    (w.mem_wake call other).mpr (Or.inl member)
  unfold wake at queued ⊢
  split
  · exact (Unseen.refl w).eases
  · rename_i waits
    rw [if_neg waits] at queued
    exact .of_calls rfl (Nat.le_refl _) queued (fun _ member => member) (Nat.le_refl _)
      fun _ _ => rfl

theorem addCall_eases {service : Nat} (known : service < w.services.length) (request : Request) :
    Eases w (w.addCall service request) := by
  have alike : Alike { w with calls := w.calls ++ [({ service, request } : Call)] }
      (w.addCall service request) := .wake _ _
  have wakes := wake_eases { w with calls := w.calls ++ [({ service, request } : Call)] }
    w.calls.length
  have newcomer {call : Nat} {c' : Call}
      (found : (w.addCall service request).calls[call]? = some c') :
      w.calls[call]? = some c' ∨ call = w.calls.length ∧ c'.service = service := by
    rw [alike.calls] at found
    by_cases inside : call < w.calls.length
    · rw [List.getElem?_append_left inside] at found
      exact Or.inl found
    · rw [List.getElem?_append_right (Nat.le_of_not_lt inside), List.getElem?_singleton] at found
      split at found
      · cases found
        exact Or.inr ⟨by omega, rfl⟩
      · cases found
  exact
    { now := wakes.now
      calls := .addCall w service request
      woken := fun found => by
        rcases newcomer found with before | ⟨rfl, _⟩
        · exact Or.inr before
        · exact Or.inl ((mem_wake _ _ _).mpr (Or.inr rfl))
      served := fun found absent => by
        rcases newcomer found with before | ⟨_, rfl⟩
        · rw [absent] at before
          cases before
        · exact Nat.lt_of_lt_of_le known wakes.count
      queue := wakes.queue
      timers := wakes.timers
      count := wakes.count
      posts := wakes.posts }

theorem abort_eases (w : World) (call : Nat) : Eases w (w.abort call) := by
  unfold abort
  split
  · exact (Unseen.refl w).eases
  · split
    · exact (Unseen.refl w).eases
    · have wakes := wake_eases (w.modifyCall call ({ · with cancelled := true })) call
      have alike := Alike.wake (w.modifyCall call ({ · with cancelled := true })) call
      have keeps : KeepsCalls w (w.modifyCall call ({ · with cancelled := true })) :=
        .modify w call (fun _ => ⟨rfl, rfl, rfl⟩) fun _ _ => rfl
      have kept := keeps.trans (.of_eq alike.calls)
      exact
        { now := wakes.now
          calls := kept
          woken := fun {other c'} found => by
            by_cases here : other = call
            · exact Or.inl ((mem_wake _ _ _).mpr (Or.inr here))
            · rw [alike.calls, modifyCall, List.getElem?_modify] at found
              simp only [Ne.symm here, if_false] at found
              exact Or.inr (by simpa using found)
          served := fun {other c'} found absent => by
            rw [alike.calls, modifyCall, List.getElem?_modify, absent] at found
            cases found
          queue := wakes.queue
          timers := wakes.timers
          count := wakes.count
          posts := wakes.posts }

theorem addService_eases (w : World) (title : String) (resource : Option Url) (helper : Helper) :
    Eases w (w.addService title resource helper) := by
  refine .of_calls rfl (Nat.le_refl _) (fun _ member => member) (fun _ member => member) ?_ ?_
  · show w.services.length ≤ (w.services ++ [_]).length
    rw [List.length_append]
    exact Nat.le_add_right _ _
  · intro service generation
    simp only [post?, addService]
    by_cases inside : service < w.services.length
    · rw [List.getElem?_append_left inside]
    · rw [List.getElem?_append_right (Nat.le_of_not_lt inside), List.getElem?_singleton,
        List.getElem?_eq_none (Nat.le_of_not_lt inside)]
      split
      · cases generation <;> rfl
      · rfl

theorem notify_eases {listener : Nat} (known : ∀ l : CloseListener,
      w.listeners[listener]? = some l → l.service < w.services.length) :
    Eases w (w.notify listener) := by
  unfold notify
  split
  · exact (Unseen.refl w).eases
  · rename_i l found
    let counted : World := { w with
      listeners := w.listeners.modify listener fun l => { l with fired := l.fired + 1 } }
    have counts : Unseen w counted := .of_eq rfl rfl rfl rfl rfl
    dsimp only
    split
    · exact counts.eases
    · exact (counts.trans (.dispose _ _)).eases
    · exact counts.eases.trans (addCall_eases (w := counted) (known l found) (.show true))

theorem notifyAll_eases {listeners : List Nat} (known : ∀ listener ∈ listeners,
      ∀ l : CloseListener, w.listeners[listener]? = some l → l.service < w.services.length) :
    Eases w (listeners.foldl notify w) := by
  induction listeners generalizing w with
  | nil => exact (Unseen.refl w).eases
  | cons first rest inductionHypothesis =>
      have eases := notify_eases (known first List.mem_cons_self)
      refine eases.trans (inductionHypothesis fun listener member l found => ?_)
      rw [notify_listeners, List.getElem?_modify] at found
      rcases Option.map_eq_some_iff.mp found with ⟨before, there, changed⟩
      have same : l.service = before.service := by
        rw [← changed]
        split <;> rfl
      rw [same]
      exact Nat.lt_of_lt_of_le (known listener (List.mem_cons_of_mem _ member) before there)
        eases.count

theorem hearClosed_eases (w : World) (service terminal : Nat) :
    Eases w (w.hearClosed service terminal) := by
  unfold hearClosed
  cases found : w.services[service]? with
  | none => exact (Unseen.refl w).eases
  | some s =>
      dsimp only
      split
      · have told := (Unseen.setPhase w service .idle).trans (.write _ (.info
          ("Terminal closed: title='" ++ s.title ++ "', id=" ++ idText terminal)))
        refine told.eases.trans (notifyAll_eases fun listener member l there => ?_)
        rcases mem_listenersOf member with ⟨l', there', rfl⟩
        cases there'.symm.trans there
        rw [told.count]
        exact (List.getElem?_eq_some_iff.mp found).1
      · exact (Unseen.refl w).eases

theorem close_eases (w : World) (terminal : Nat) : Eases w (w.close terminal) := by
  unfold close
  generalize w.host.closeListeners = services
  induction services generalizing w with
  | nil => exact (Unseen.refl w).eases
  | cons service rest inductionHypothesis =>
      exact (w.hearClosed_eases service terminal).trans (inductionHypothesis _)

/-- Nothing that happens from outside leaves anybody forgotten. -/
theorem Admits.eases {action : Action} (admits : w.Admits action) :
    Eases w (w.perform action) := by
  cases action with
  | poll | arrange => exact absurd admits.outside (by simp [Action.isOutside])
  | addService title resource helper => exact w.addService_eases title resource helper
  | call service request => exact addCall_eases (admits.known rfl) request
  | abort call => exact w.abort_eases call
  | close terminal => exact w.close_eases terminal
  | dispose service => exact (Unseen.dispose w service).eases
  | retain service =>
      exact (Unseen.modifyService w service (f := fun s => { s with owners := s.owners + 1 })
        fun _ => rfl).eases
  | release service =>
      exact ((Unseen.modifyService w service (f := fun s => { s with owners := s.owners - 1 })
        fun _ => rfl).trans (.sweep _ service)).eases
  | pass milliseconds =>
      exact .of_calls rfl (Nat.le_add_right _ _) (fun _ member => member) (fun _ member => member)
        (Nat.le_refl _) fun _ _ => rfl
  | listen | unlisten | failCreation | failActivation | delay =>
      exact Unseen.eases (.of_eq rfl rfl rfl rfl rfl)

/-! ## What the executor does -/

theorem Wakeful.takes (wakeful : Wakeful none w) {place call : Nat}
    (next : w.queue[place]? = some call) :
    Wakeful (some call) { w with queue := w.queue.eraseIdx place } where
  toSeating := ⟨wakeful.spare, wakeful.seated, wakeful.occupied, wakeful.served⟩
  timed := wakeful.timed
  alert := fun {other _} found running busy => by
    refine (wakeful.alert found running nofun).imp_left fun queued => ?_
    rcases List.mem_iff_getElem?.mp queued with ⟨index, there⟩
    refine List.mem_eraseIdx_iff_getElem?.mpr ⟨index, ?_, there⟩
    rintro rfl
    exact busy (next.symm.trans there)

/-- Timers that fire wake all who have a seat at their creations, and nothing else happens. -/
theorem fireAll_wakes (timers : List Timer) (w : World) :
    ∃ queue, timers.foldl fire w = { w with queue } ∧ (∀ call ∈ w.queue, call ∈ queue) ∧
      ∀ timer ∈ timers, ∀ post, w.post? timer.service timer.generation = some post →
        ∀ call ∈ post.seats.calls, call ∈ queue := by
  induction timers generalizing w with
  | nil => exact ⟨w.queue, rfl, fun _ member => member, nofun⟩
  | cons first rest inductionHypothesis =>
      rcases wakeAll_wakes w ((((w.services[first.service]?).bind
        (·.creation? first.generation)).map (·.seats.calls)).getD []) with ⟨queue, same, wakes⟩
      have fires : w.fire first = { w with queue } := same
      rcases inductionHypothesis { w with queue } with ⟨queue', same', grown, woken⟩
      refine ⟨queue', by rw [List.foldl_cons, fires, same'], fun call member => ?_,
        fun timer member post there call seat => ?_⟩
      · exact grown call (wakes.mem_iff.mpr (Or.inl member))
      · rcases List.mem_cons.mp member with rfl | later
        · refine grown call (wakes.mem_iff.mpr (Or.inr ?_))
          rcases post?_eq_some_iff.mp there with ⟨s, creation, present, found, rfl⟩
          rw [present, Option.bind_some, found, Option.map_some, Option.getD_some]
          exact seat
        · exact woken timer later post there call seat

theorem fired_eq (w : World) (due : Nat) :
    ∃ queue, w.fired due = { w with
        queue, timers := w.timers.filter fun timer => timer.due != due } ∧
      (∀ call ∈ w.queue, call ∈ queue) ∧
      ∀ timer ∈ w.timers, timer.due = due → ∀ post,
        w.post? timer.service timer.generation = some post →
          ∀ call ∈ post.seats.calls, call ∈ queue := by
  rcases fireAll_wakes (w.timers.filter fun timer => timer.due == due)
    { w with timers := w.timers.filter fun timer => timer.due != due } with ⟨queue, same, grown,
      woken⟩
  refine ⟨queue, same, grown, fun timer member ends => woken timer ?_⟩
  exact List.mem_filter.mpr ⟨member, beq_iff_eq.mpr ends⟩

/-- No call that rests is forgotten when its timer fires. -/
theorem Wakeful.fired (wakeful : Wakeful none w) {due : Nat} (past : due ≤ w.now) :
    Wakeful none (w.fired due) := by
  rcases fired_eq w due with ⟨queue, same, grown, woken⟩
  have remains {timer : Timer} (member : timer ∈ w.timers) (different : timer.due ≠ due) :
      timer ∈ w.timers.filter fun timer => timer.due != due :=
    List.mem_filter.mpr ⟨member, bne_iff_ne.mpr different⟩
  rw [same]
  exact
    { toSeating := ⟨wakeful.spare, wakeful.seated, wakeful.occupied, wakeful.served⟩
      timed := fun {_ _ _ time} found waits => by
        rcases wakeful.timed found waits with early | member
        · exact Or.inl early
        · by_cases ends : time = due
          · exact Or.inl (Nat.le_trans (Nat.le_of_eq ends) past)
          · exact Or.inr (remains member ends)
      alert := fun {call c} found running idle => by
        rcases wakeful.alert found running idle with queued | ⟨wanted, generation, place, post,
          time, waiting, there, waits, member⟩
        · exact Or.inl (grown call queued)
        · by_cases ends : time = due
          · rcases wakeful.seated found waiting with ⟨_, present, taken⟩
            cases there.symm.trans present
            exact Or.inl (woken _ member ends post there call
              (Seats.mem_calls_iff.mpr ⟨place, taken⟩))
          · exact Or.inr ⟨wanted, generation, place, post, time, waiting, there, waits,
              remains member ends⟩ }

/-- A call waits for a creation that waits for the host or the activator, whose time has not come
yet. -/
def Pends (w : World) (c : Call) : Prop :=
  ∃ (generation place : Nat) (creation : Creation) (due : Nat),
    c.state = .waiting generation place ∧
      w.creation? c.service generation = some creation ∧ creation.stage.due? = some due ∧
        w.now < due

theorem Wakeful.pends (wakeful : Wakeful none w) (settled : w.Settled) {call : Nat} {c : Call}
    (found : w.calls[call]? = some c) (running : c.state.isOver = false) :
    c.cancelled = false ∧ w.Pends c := by
  rcases wakeful.alert found running nofun with queued | ⟨wanted, generation, place, post, due,
    waiting, there, waits, timer⟩
  · rw [settled.idle] at queued
    cases queued
  · rcases creation?_of_post? there with ⟨creation, member, stage⟩
    exact ⟨wanted, generation, place, creation, due, waiting, member, by rw [stage, waits],
      settled.punctual _ timer⟩

end World

/-- Runs in which the executor does its work. -/
inductive Run.Orderly : Run → Prop
  | start (env : Environment) : Run.Orderly ⟨env, []⟩
  | outside {run : Run} {action : Action} (orderly : run.Orderly)
      (admits : run.world.Admits action) : Run.Orderly (run.step action)
  /-- A call leaves the queue and has its turn. -/
  | turn {run : Run} {place call : Nat} (orderly : run.Orderly)
      (next : run.world.queue[place]? = some call) :
      Run.Orderly ((run.step (.arrange (run.world.queue.eraseIdx place) run.world.timers)).step
        (.poll call))
  /-- Timers whose time has come fire. -/
  | fires {run : Run} {due : Nat} (orderly : run.Orderly) (past : due ≤ run.world.now) :
      Run.Orderly (run.step (.arrange (run.world.fired due).queue (run.world.fired due).timers))

namespace Run

variable {run : Run}

/-- The executor forgets nobody. -/
theorem Orderly.wakeful (orderly : run.Orderly) : World.Wakeful none run.world := by
  induction orderly with
  | start env => exact { spare := nofun, seated := nofun, occupied := nofun, served := nofun,
                         timed := nofun, alert := nofun }
  | outside _ admits inductionHypothesis =>
      rw [world_step]
      exact inductionHypothesis.eases admits.eases
  | turn _ next inductionHypothesis =>
      rw [world_step]
      refine World.Wakeful.poll ?_ (Run.sound _)
      rw [world_step]
      exact inductionHypothesis.takes next
  | @fires run due _ past inductionHypothesis =>
      have fired := inductionHypothesis.fired past
      rcases World.fired_eq run.world due with ⟨queue, same, _⟩
      rw [world_step, same]
      rw [same] at fired
      exact fired

end Run

end Terminal
end Workbench
