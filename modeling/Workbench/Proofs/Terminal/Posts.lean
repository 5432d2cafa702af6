import Workbench.Proofs.Terminal.Turn

namespace Workbench
namespace Terminal

/-!
# What the executor has to do with

For those who wait it matters how far a creation is and who has a seat there, which is its `Post`,
and beside that the calls, the queue, the timers and the time.  Most of what happens shows in none
of these (`Unseen`).  A creation that goes on shows in its own post only: it begins to wait for the
activator, with a timer of its own, or it ends and whoever has a seat there is woken (`Drives`).
-/

namespace Seats

variable {seats : Seats} {call place : Nat}

theorem mem_calls_iff :
    call ∈ seats.calls ↔ ∃ place : Nat, seats.places[place]? = some (some call) := by
  rw [calls, List.mem_filterMap]
  constructor
  · rintro ⟨occupant, member, rfl⟩
    exact List.mem_iff_getElem?.mp member
  · rintro ⟨place, taken⟩
    exact ⟨some call, List.mem_of_getElem? taken, rfl⟩

/-- Places that count as free are empty, and each of them counts once. -/
structure Spare (seats : Seats) : Prop where
  once : seats.free.Nodup
  empty : ∀ place ∈ seats.free, seats.places[place]? = some none

/-- Whoever sits down takes a place where nobody sat. -/
theorem Spare.sit (spare : seats.Spare) (call : Nat) :
    (seats.sit call).1.Spare ∧ (∀ other, seats.places[(seats.sit call).2]? ≠ some (some other)) ∧
      (seats.sit call).1.places[(seats.sit call).2]? = some (some call) ∧
      ∀ other, other ≠ (seats.sit call).2 →
        (seats.sit call).1.places[other]? = seats.places[other]? := by
  rcases seats with ⟨places, free⟩
  cases free with
  | nil =>
      dsimp only [Seats.sit]
      refine ⟨⟨List.nodup_nil, nofun⟩, fun other taken => ?_, List.getElem?_concat_length, ?_⟩
      · rw [List.getElem?_eq_none (Nat.le_refl _)] at taken
        cases taken
      · intro other different
        by_cases inside : other < places.length
        · exact List.getElem?_append_left inside
        · have beyond : (places ++ [some call]).length ≤ other := by
            rw [List.length_append, List.length_singleton]
            omega
          rw [List.getElem?_eq_none beyond, List.getElem?_eq_none (by omega)]
  | cons place free =>
      rcases List.nodup_cons.mp spare.once with ⟨once, rest⟩
      have vacant := spare.empty place List.mem_cons_self
      dsimp only [Seats.sit] at vacant ⊢
      refine ⟨⟨rest, fun other member => ?_⟩, fun other taken => ?_, ?_, fun other different => ?_⟩
      · have different : place ≠ other := fun same => once (same ▸ member)
        rw [List.getElem?_set_ne different]
        exact spare.empty other (List.mem_cons_of_mem _ member)
      · rw [vacant] at taken
        cases taken
      · exact List.getElem?_set_self (List.getElem?_eq_some_iff.mp vacant).1
      · exact List.getElem?_set_ne different.symm

/-- Whoever leaves frees its own place. -/
theorem Spare.leave (spare : seats.Spare) (taken : seats.places[place]? = some (some call)) :
    (seats.leave place).Spare ∧ (seats.leave place).places[place]? = some none ∧
      ∀ other, other ≠ place → (seats.leave place).places[other]? = seats.places[other]? := by
  have vacant : (seats.places.set place none)[place]? = some none :=
    List.getElem?_set_self (List.getElem?_eq_some_iff.mp taken).1
  refine ⟨⟨List.nodup_cons.mpr ⟨fun member => ?_, spare.once⟩, fun other member => ?_⟩, vacant,
    fun other different => List.getElem?_set_ne different.symm⟩
  · rw [spare.empty place member] at taken
    cases taken
  · by_cases here : other = place
    · rw [here]
      exact vacant
    · rcases List.mem_cons.mp member with same | earlier
      · exact absurd same here
      · exact (List.getElem?_set_ne (Ne.symm here)).trans (spare.empty other earlier)

end Seats

namespace Stage

/-- Until when a creation waits for the host or for the activator. -/
def due? : Stage → Option Nat
  | hosting due | activating _ due => some due
  | settled _ => none

/-- Whether a creation waits for the host. -/
def isHosting : Stage → Bool
  | hosting _ => true
  | _ => false

end Stage

/-- What those who wait for a creation depend on. -/
structure Post where
  stage : Stage
  seats : Seats

def Creation.post (creation : Creation) : Post where
  stage := creation.stage
  seats := creation.seats

namespace World

def post? (w : World) (service generation : Nat) : Option Post :=
  ((w.services[service]?).bind (·.creation? generation)).map Creation.post

variable {w w' w'' : World} {service generation : Nat} {post : Post}

theorem post?_eq_some_iff : w.post? service generation = some post ↔
    ∃ (s : Service) (creation : Creation), w.services[service]? = some s ∧
      s.creation? generation = some creation ∧ creation.post = post := by
  simp [post?, Option.bind_eq_some_iff]

theorem post?_of_services {s : Service} (found : w.services[service]? = some s) :
    w.post? service generation = (s.creation? generation).map Creation.post := by
  rw [post?, found, Option.bind_some]

theorem post?_pos (found : w.post? service generation = some post) : 0 < generation := by
  rcases post?_eq_some_iff.mp found with ⟨s, creation, _, member, _⟩
  exact Service.creation?_pos member

/-- A creation is as far as its post says. -/
theorem creation?_of_post? (found : w.post? service generation = some post) :
    ∃ creation, w.creation? service generation = some creation ∧ creation.stage = post.stage := by
  rcases post?_eq_some_iff.mp found with ⟨s, creation, present, member, rfl⟩
  refine ⟨creation.bare, ?_, rfl⟩
  rw [World.creation?, session?, present, Option.map_some, Option.bind_some,
    Service.creation?_session, member, Option.map_some]

/-! ## What shows nowhere -/

/-- Nothing happens that those who wait depend on. -/
structure Unseen (w w' : World) : Prop where
  now : w'.now = w.now
  calls : w'.calls = w.calls
  queue : w'.queue = w.queue
  timers : w'.timers = w.timers
  count : w'.services.length = w.services.length
  posts : ∀ service generation, w'.post? service generation = w.post? service generation

namespace Unseen

theorem refl (w : World) : Unseen w w := ⟨rfl, rfl, rfl, rfl, rfl, fun _ _ => rfl⟩

theorem trans (first : Unseen w w') (second : Unseen w' w'') : Unseen w w'' where
  now := second.now.trans first.now
  calls := second.calls.trans first.calls
  queue := second.queue.trans first.queue
  timers := second.timers.trans first.timers
  count := second.count.trans first.count
  posts := fun service generation =>
    (second.posts service generation).trans (first.posts service generation)

/-- What leaves the services and the executor alone. -/
theorem of_eq (services : w'.services = w.services) (now : w'.now = w.now)
    (calls : w'.calls = w.calls) (queue : w'.queue = w.queue) (timers : w'.timers = w.timers) :
    Unseen w w' where
  now := now
  calls := calls
  queue := queue
  timers := timers
  count := congrArg List.length services
  posts := fun service generation => by rw [post?, post?, services]

theorem write (w : World) (line : Log.Line) : Unseen w (w.write line) :=
  of_eq rfl rfl rfl rfl rfl

theorem use (w : World) (terminal : Nat) (what : Use) : Unseen w (w.use terminal what) :=
  of_eq rfl rfl rfl rfl rfl

/-- A change of a service that leaves its creations alone. -/
theorem modifyService (w : World) (service : Nat) {f : Service → Service}
    (same : ∀ s, (f s).creations = s.creations) : Unseen w (w.modifyService service f) where
  now := rfl
  calls := rfl
  queue := rfl
  timers := rfl
  count := List.length_modify _ _ _
  posts := fun other generation => by
    have creation? (s : Service) : (f s).creation? generation = s.creation? generation := by
      cases generation with
      | zero => rfl
      | succ n => rw [Service.creation?_succ, Service.creation?_succ, same]
    simp only [post?, World.modifyService, List.getElem?_modify]
    cases w.services[other]? with
    | none => rfl
    | some s =>
        by_cases here : service = other
        · simp [here, creation?]
        · simp [here]

theorem setPhase (w : World) (service : Nat) (phase : Phase) :
    Unseen w (w.setPhase service phase) :=
  modifyService w service fun _ => rfl

theorem sweep (w : World) (service : Nat) : Unseen w (w.sweep service) := by
  unfold World.sweep
  split
  · split
    · exact (modifyService w service (f := ({ · with dropped := true })) fun _ => rfl).trans
        (of_eq rfl rfl rfl rfl rfl)
    · exact refl w
  · exact refl w

theorem deliver (w : World) (title : String) (active : Active) (request : Request) :
    Unseen w (w.deliver title active request) := by
  cases request <;> exact of_eq rfl rfl rfl rfl rfl

theorem dispose (w : World) (service : Nat) : Unseen w (w.dispose service) := by
  unfold World.dispose
  split
  · exact refl w
  · refine (setPhase w service .disposed).trans ?_
    dsimp only
    split <;> exact of_eq rfl rfl rfl rfl rfl

end Unseen

/-! ## Changes of one post -/

/-- Of all posts only one changes. -/
structure Reposts (service generation : Nat) (post : Post) (w w' : World) : Prop where
  now : w'.now = w.now
  calls : w'.calls = w.calls
  count : w'.services.length = w.services.length
  after : w'.post? service generation = some post
  others : ∀ other number, ¬ (other = service ∧ number = generation) →
    w'.post? other number = w.post? other number

namespace Reposts

variable {post' : Post}

theorem trans (first : Reposts service generation post w w')
    (second : Reposts service generation post' w' w'') :
    Reposts service generation post' w w'' where
  now := second.now.trans first.now
  calls := second.calls.trans first.calls
  count := second.count.trans first.count
  after := second.after
  others := fun other number different =>
    (second.others other number different).trans (first.others other number different)

theorem ofUnseen (unseen : Unseen w w') (found : w.post? service generation = some post) :
    Reposts service generation post w w' where
  now := unseen.now
  calls := unseen.calls
  count := unseen.count
  after := (unseen.posts service generation).trans found
  others := fun other number _ => unseen.posts other number

theorem modifyCreation (found : w.post? service generation = some post)
    {f : Creation → Creation} {g : Post → Post}
    (changed : ∀ creation, (f creation).post = g creation.post) :
    Reposts service generation (g post) w (w.modifyCreation service generation f) := by
  have posts (other number : Nat) : (w.modifyCreation service generation f).post? other number =
      if other = service ∧ number = generation then (w.post? other number).map g
      else w.post? other number := by
    simp only [post?, World.modifyCreation, World.modifyService, List.getElem?_modify]
    cases w.services[other]? with
    | none => simp
    | some s =>
        by_cases here : other = service
        · subst here
          simp only [if_true, Option.map_eq_map, Option.map_some, Option.bind_some, true_and,
            Service.creation?_modifyCreation (post?_pos found)]
          split
          · cases s.creation? number <;> simp [changed]
          · rfl
        · simp [here, Ne.symm here]
  exact
    { now := rfl
      calls := rfl
      count := List.length_modify _ _ _
      after := by rw [posts, if_pos ⟨rfl, rfl⟩, found, Option.map_some]
      others := fun other number different => by rw [posts, if_neg different] }

end Reposts

/-- What changes of a creation when its post does not. -/
theorem Unseen.modifyCreation (found : w.post? service generation = some post)
    {f : Creation → Creation} (same : ∀ creation, (f creation).post = creation.post) :
    Unseen w (w.modifyCreation service generation f) := by
  have reposts := Reposts.modifyCreation (g := id) found same
  exact
    { now := rfl
      calls := rfl
      queue := rfl
      timers := rfl
      count := reposts.count
      posts := fun other number => by
        by_cases here : other = service ∧ number = generation
        · rcases here with ⟨rfl, rfl⟩
          rw [reposts.after, found]
          rfl
        · exact reposts.others other number here }

/-! ## Those who are woken -/

/-- A queue after all of some calls have been woken. -/
def Wakes (calls queue queue' : List Nat) : Prop :=
  ∃ added : List Nat, queue' = queue ++ added ∧ added.Nodup ∧
    ∀ call, call ∈ added ↔ call ∈ calls ∧ call ∉ queue

theorem wakeAll_wakes (w : World) (calls : List Nat) :
    ∃ queue, w.wakeAll calls = { w with queue } ∧ Wakes calls w.queue queue := by
  induction calls generalizing w with
  | nil => exact ⟨w.queue, rfl, [], (List.append_nil _).symm, List.nodup_nil, by simp⟩
  | cons first rest inductionHypothesis =>
      show ∃ queue, (w.wake first).wakeAll rest = { w with queue } ∧ _
      rcases inductionHypothesis (w.wake first) with ⟨queue, same, added, grown, once, woken⟩
      by_cases waits : first ∈ w.queue
      · have unchanged : w.wake first = w := if_pos waits
        rw [unchanged] at same grown woken ⊢
        refine ⟨queue, same, added, grown, once,
          fun call => (woken call).trans ⟨fun there => ?_, ?_⟩⟩
        · exact ⟨List.mem_cons_of_mem _ there.1, there.2⟩
        · rintro ⟨member, absent⟩
          rcases List.mem_cons.mp member with rfl | later
          · exact absurd waits absent
          · exact ⟨later, absent⟩
      · have queued : w.wake first = { w with queue := w.queue ++ [first] } := if_neg waits
        rw [queued] at same grown woken ⊢
        refine ⟨queue, same, first :: added, ?_, List.nodup_cons.mpr ⟨fun again => ?_, once⟩,
          fun call => ?_⟩
        · rw [grown, List.append_assoc, List.singleton_append]
        · exact ((woken first).mp again).2 (List.mem_append_right _ (List.mem_singleton_self _))
        · rw [List.mem_cons, woken, List.mem_append, List.mem_singleton, List.mem_cons]
          by_cases here : call = first
          · subst here
            simp [waits]
          · simp [here]

theorem Wakes.mem_iff {calls queue queue' : List Nat} (wakes : Wakes calls queue queue')
    {call : Nat} : call ∈ queue' ↔ call ∈ queue ∨ call ∈ calls := by
  rcases wakes with ⟨added, rfl, _, woken⟩
  rw [List.mem_append, woken, or_and_left]
  exact and_iff_left (Decidable.em _)

/-! ## A creation goes on -/

/-- A creation that has nothing left to wait for goes on. -/
inductive Drives (service generation : Nat) (post : Post) (w w' : World) : Prop
  /-- Its environment is being prepared, and a timer waits for the end of that. -/
  | prepares {terminal due : Nat} (hosting : post.stage.isHosting = true)
      (reposts : Reposts service generation { post with stage := .activating terminal due } w w')
      (later : w.now < due) (queue : w'.queue = w.queue)
      (timers : w'.timers = w.timers ++ [⟨due, service, generation⟩])
  /-- It is over, and whoever has a seat there is woken. -/
  | ends {outcome : Outcome}
      (reposts : Reposts service generation { post with stage := .settled outcome } w w')
      (wakes : Wakes post.seats.calls w.queue w'.queue) (timers : w'.timers = w.timers)

theorem Drives.ofUnseen (unseen : Unseen w w') (drives : Drives service generation post w' w'')
    (found : w.post? service generation = some post) : Drives service generation post w w'' := by
  have first := Reposts.ofUnseen unseen found
  cases drives with
  | prepares hosting reposts later queue timers =>
      refine .prepares hosting (first.trans reposts) ?_ (queue.trans unseen.queue) ?_
      · rw [← unseen.now]
        exact later
      · rw [timers, unseen.timers]
  | ends reposts wakes timers =>
      refine .ends (first.trans reposts) ?_ (timers.trans unseen.timers)
      rw [← unseen.queue]
      exact wakes

/-- The end of a creation. -/
theorem settle_drives (found : w.post? service generation = some post) (outcome : Outcome) :
    Drives service generation post w (w.settle service generation outcome) := by
  rcases post?_eq_some_iff.mp found with ⟨s, creation, present, member, rfl⟩
  unfold settle
  simp only [present, member, Option.map_some, Option.getD_some]
  -- What is written to the log does not matter.
  have noted (told : World) (unseen : Unseen w told) :
      Drives service generation creation.post w
        (((told.setPhase service (s.phase.settle generation outcome)).setStage service generation
          (.settled (s.phase.verdict generation outcome))).wakeAll creation.seats.calls) := by
    have phased := unseen.trans (.setPhase told service (s.phase.settle generation outcome))
    let stage : Stage := .settled (s.phase.verdict generation outcome)
    have staged := Reposts.modifyCreation ((phased.posts service generation).trans found)
      (f := ({ · with stage })) (g := ({ · with stage })) fun _ => rfl
    rcases wakeAll_wakes ((told.setPhase service (s.phase.settle generation outcome)).setStage
      service generation stage) creation.seats.calls with ⟨queue, same, wakes⟩
    rw [same]
    exact .ofUnseen phased (.ends
      ⟨staged.now, staged.calls, staged.count, staged.after, staged.others⟩ wakes rfl) found
  split
  · cases outcome <;> exact noted _ (.write _ _)
  · exact noted w (.refl w)

/-- The end of an activation. -/
theorem finishActivation_drives (found : w.post? service generation = some post) (terminal : Nat)
    (creation : Creation) :
    Drives service generation post w (w.finishActivation service generation terminal creation) := by
  unfold finishActivation
  cases w.activator.failNext with
  | none =>
      have prepared := (Unseen.modifyCreation found (f := ({ · with prepared := true }))
        fun _ => rfl).trans (.use _ terminal (.shown creation.preserveFocus))
      exact .ofUnseen prepared
        (settle_drives ((prepared.posts service generation).trans found) _) found
  | some error =>
      have taken : Unseen w { w with activator := { w.activator with failNext := none } } :=
        .of_eq rfl rfl rfl rfl rfl
      rcases post?_eq_some_iff.mp found with ⟨s, _, present, _, _⟩
      simp only [present]
      cases s.phase.release? generation with
      | none =>
          exact .ofUnseen taken
            (settle_drives ((taken.posts service generation).trans found) _) found
      | some phase =>
          have released := ((taken.trans (.setPhase _ service phase)).trans (.write _ (.warn
            ("Environment activation failed, disposing terminal: id=" ++ idText terminal ++
              ", error=" ++ error.message)))).trans (.use _ terminal .disposed)
          exact .ofUnseen released
            (settle_drives ((released.posts service generation).trans found) _) found

/-- The beginning of an activation, and its end if it takes no time. -/
theorem startActivation_drives (found : w.post? service generation = some post)
    (hosting : post.stage.isHosting = true) (terminal : Nat) (creation : Creation)
    (resource : Option Url) : Drives service generation post w
      (w.startActivation service generation terminal creation resource) := by
  let activator : Activator := { w.activator with
    activations := w.activator.activations ++ [⟨terminal, resource, creation.preserveFocus⟩] }
  let stage : Stage := .activating terminal (w.now + w.activator.delay)
  have asked : Unseen w { w with activator } := .of_eq rfl rfl rfl rfl rfl
  have staged := (Reposts.ofUnseen asked found).trans
    (Reposts.modifyCreation ((asked.posts service generation).trans found)
      (f := ({ · with stage })) (g := ({ · with stage })) fun _ => rfl)
  unfold startActivation
  split
  · have finished := finishActivation_drives staged.after terminal creation
    -- The end of the activation is the end of the creation as it was before.
    cases finished with
    | prepares activating => cases activating
    | ends reposts wakes timers => exact .ends (staged.trans reposts) wakes timers
  · rename_i takesTime
    unfold startTimer
    rw [if_neg takesTime]
    refine .prepares hosting ⟨staged.now, staged.calls, staged.count, staged.after, staged.others⟩
      ?_ rfl rfl
    exact Nat.lt_add_of_pos_right (Nat.pos_of_ne_zero takesTime)

/-- The host's answer. -/
theorem answer_drives (found : w.post? service generation = some post)
    (hosting : post.stage.isHosting = true) (creation : Creation) :
    Drives service generation post w (w.answer service generation creation) := by
  unfold answer
  cases w.host.failNext with
  | some error =>
      have taken : Unseen w { w with host := { w.host with failNext := none } } :=
        .of_eq rfl rfl rfl rfl rfl
      exact .ofUnseen taken
        (settle_drives ((taken.posts service generation).trans found) _) found
  | none =>
      have created : Unseen w { w with host := w.host.create creation.options } :=
        .of_eq rfl rfl rfl rfl rfl
      have given := created.trans (.modifyCreation
        ((created.posts service generation).trans found)
        (f := ({ · with terminal := some w.host.next })) fun _ => rfl)
      have there := (given.posts service generation).trans found
      rcases post?_eq_some_iff.mp there with ⟨s, _, present, _, _⟩
      simp only [present]
      cases s.phase.record? generation w.host.next with
      | some phase =>
          have recorded := given.trans (.setPhase _ service phase)
          exact .ofUnseen recorded (startActivation_drives
            ((recorded.posts service generation).trans found) hosting _ _ _) found
      | none =>
          have lost := (given.trans (.write _ (.info
            ("Disposing terminal created after service disposal: id=" ++
              idText w.host.next)))).trans (.use _ w.host.next .disposed)
          exact .ofUnseen lost (settle_drives ((lost.posts service generation).trans found) _) found

/-- A creation goes on when there is nothing left that it waits for, and only then. -/
theorem progress_drives (w : World) (service generation : Nat) :
    (w.progress service generation = w ∧ ∀ post due, w.post? service generation = some post →
      post.stage.due? = some due → w.now < due) ∨
    ∃ post due, w.post? service generation = some post ∧ post.stage.due? = some due ∧
      Drives service generation post w (w.progress service generation) := by
  unfold progress
  cases absent : (w.services[service]?).bind (·.creation? generation) with
  | none => exact Or.inl ⟨rfl, fun post due found => by simp [post?, absent] at found⟩
  | some creation =>
      have found : w.post? service generation = some creation.post := by
        rw [post?, absent, Option.map_some]
      have early {due : Nat} (stage : creation.stage.due? = some due) (before : w.now < due)
          (post : Post) (time : Nat) (there : w.post? service generation = some post)
          (waits : post.stage.due? = some time) : w.now < time := by
        rw [found] at there
        cases there
        rw [Creation.post, stage] at waits
        cases waits
        exact before
      dsimp only
      cases stage : creation.stage with
      | hosting due =>
          have waits : creation.stage.due? = some due := by rw [stage]; rfl
          dsimp only
          split
          · rename_i before
            exact Or.inl ⟨rfl, early waits before⟩
          · refine Or.inr ⟨_, due, found, waits, answer_drives found ?_ creation⟩
            rw [Creation.post, stage]
            rfl
      | activating terminal due =>
          have waits : creation.stage.due? = some due := by rw [stage]; rfl
          dsimp only
          split
          · rename_i before
            exact Or.inl ⟨rfl, early waits before⟩
          · exact Or.inr ⟨_, due, found, waits, finishActivation_drives found terminal creation⟩
      | settled outcome =>
          refine Or.inl ⟨rfl, fun post due there waits => ?_⟩
          rw [found] at there
          cases there
          rw [Creation.post, stage] at waits
          cases waits

end World
end Terminal
end Workbench
