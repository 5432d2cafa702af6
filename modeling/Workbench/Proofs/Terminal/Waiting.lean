import Workbench.Proofs.Terminal.Perform
import Workbench.Proofs.Terminal.Posts

namespace Workbench
namespace Terminal

/-!
# Nobody who waits is forgotten

Every call that is not over either is in the queue or waits for a creation with a timer that will
wake it (`Wakeful`).  It will be woken there because it has a seat of its own: seats that are free
are empty, whoever waits has its seat, and at a creation that is not over nobody else has one.  The
turn of a call does a number of things one after the other, each of which keeps this but for the
call itself (`Moves`), and when the turn is over the call is over or waits (`Placed`).
-/

namespace World

/-- A call waits for a creation that is not over, and a timer stands until the creation goes on. -/
def Rests (w : World) (c : Call) : Prop :=
  ∃ (generation place : Nat) (post : Post) (due : Nat), c.state = .waiting generation place ∧
    w.post? c.service generation = some post ∧ post.stage.due? = some due ∧
      (⟨due, c.service, generation⟩ : Timer) ∈ w.timers

/-- Whoever waits has a seat of its own. -/
structure Seating (w : World) : Prop where
  spare : ∀ {service generation : Nat} {post : Post},
    w.post? service generation = some post → post.seats.Spare
  seated : ∀ {call : Nat} {c : Call} {generation place : Nat}, w.calls[call]? = some c →
    c.state = .waiting generation place →
      ∃ post, w.post? c.service generation = some post ∧
        post.seats.places[place]? = some (some call)
  occupied : ∀ {service generation : Nat} {post : Post} {place call : Nat},
    w.post? service generation = some post → post.stage.due?.isSome = true →
      post.seats.places[place]? = some (some call) →
        ∃ c : Call, w.calls[call]? = some c ∧ c.service = service ∧
          c.state = .waiting generation place
  served : ∀ {call : Nat} {c : Call}, w.calls[call]? = some c → c.service < w.services.length

/-- Every call but the one whose turn it is has its turn to come or rests. -/
structure Wakeful (busy : Option Nat) (w : World) : Prop extends Seating w where
  /-- What a creation waits for is over, or has a timer. -/
  timed : ∀ {service generation : Nat} {post : Post} {due : Nat},
    w.post? service generation = some post → post.stage.due? = some due →
      due ≤ w.now ∨ (⟨due, service, generation⟩ : Timer) ∈ w.timers
  alert : ∀ {call : Nat} {c : Call}, w.calls[call]? = some c → c.state.isOver = false →
    busy ≠ some call → call ∈ w.queue ∨ c.cancelled = false ∧ w.Rests c

/-- A call is over, or it waits for a creation that waits for the host or the activator. -/
def Placed (call : Nat) (w : World) : Prop :=
  ∀ c : Call, w.calls[call]? = some c → c.state.isOver = true ∨ c.cancelled = false ∧
    ∃ (generation place : Nat) (post : Post) (due : Nat), c.state = .waiting generation place ∧
      w.post? c.service generation = some post ∧ post.stage.due? = some due ∧ w.now < due

variable {w w' w'' : World} {busy : Option Nat} {call : Nat}

/-- The turn of a call ends. -/
theorem Wakeful.placed (wakeful : Wakeful (some call) w) (placed : Placed call w) :
    Wakeful none w where
  toSeating := wakeful.toSeating
  timed := wakeful.timed
  alert := fun {other c} found running _ => by
    by_cases here : call = other
    · subst here
      rcases placed c found with settled | ⟨wanted, generation, place, post, due, waiting, there,
        waits, later⟩
      · rw [running] at settled
        cases settled
      · refine Or.inr ⟨wanted, generation, place, post, due, waiting, there, waits, ?_⟩
        exact (wakeful.timed there waits).resolve_left (Nat.not_le_of_lt later)
    · exact wakeful.alert found running fun same => here (Option.some.inj same)

/-! ## What changes nothing for those who wait -/

/-- Time may pass, more timers may be started, and more calls may be woken, those among them that
are new or changed. -/
structure Eases (w w' : World) : Prop where
  now : w.now ≤ w'.now
  calls : KeepsCalls w w'
  woken : ∀ {call : Nat} {c' : Call}, w'.calls[call]? = some c' →
    call ∈ w'.queue ∨ w.calls[call]? = some c'
  served : ∀ {call : Nat} {c' : Call}, w'.calls[call]? = some c' → w.calls[call]? = none →
    c'.service < w'.services.length
  queue : ∀ call ∈ w.queue, call ∈ w'.queue
  timers : ∀ timer ∈ w.timers, timer ∈ w'.timers
  count : w.services.length ≤ w'.services.length
  posts : ∀ service generation, w'.post? service generation = w.post? service generation

namespace Eases

theorem trans (first : Eases w w') (second : Eases w' w'') : Eases w w'' where
  now := Nat.le_trans first.now second.now
  calls := first.calls.trans second.calls
  woken := fun found => by
    rcases second.woken found with queued | before
    · exact Or.inl queued
    · exact (first.woken before).imp_left (second.queue _)
  served := fun {call c'} found absent => by
    cases middle : w'.calls[call]? with
    | none => exact second.served found middle
    | some c =>
        rcases second.calls.kept middle with ⟨other, found', service, _⟩
        rw [found] at found'
        cases found'
        rw [service]
        exact Nat.lt_of_lt_of_le (first.served middle absent) second.count
  queue := fun call member => second.queue call (first.queue call member)
  timers := fun timer member => second.timers timer (first.timers timer member)
  count := Nat.le_trans first.count second.count
  posts := fun service generation =>
    (second.posts service generation).trans (first.posts service generation)

/-- Whatever leaves the calls alone. -/
theorem of_calls (calls : w'.calls = w.calls) (now : w.now ≤ w'.now)
    (queue : ∀ call ∈ w.queue, call ∈ w'.queue) (timers : ∀ timer ∈ w.timers, timer ∈ w'.timers)
    (count : w.services.length ≤ w'.services.length)
    (posts : ∀ service generation, w'.post? service generation = w.post? service generation) :
    Eases w w' where
  now := now
  calls := .of_eq calls
  woken := fun found => Or.inr (by rwa [← calls])
  served := fun found absent => by
    rw [calls, absent] at found
    cases found
  queue := queue
  timers := timers
  count := count
  posts := posts

end Eases

theorem Unseen.eases (unseen : Unseen w w') : Eases w w' :=
  .of_calls unseen.calls (Nat.le_of_eq unseen.now.symm)
    (by rw [unseen.queue]; exact fun _ member => member)
    (by rw [unseen.timers]; exact fun _ member => member)
    (Nat.le_of_eq unseen.count.symm) unseen.posts

theorem Seating.eases (seating : w.Seating) (eases : Eases w w') : w'.Seating where
  spare := fun found => seating.spare ((eases.posts _ _).symm.trans found)
  seated := fun {call c' _ _} found' waiting => by
    rw [eases.posts]
    cases found : w.calls[call]? with
    | none =>
        rw [eases.calls.new found' found] at waiting
        cases waiting
    | some c =>
        rcases eases.calls.kept found with ⟨_, there, service, _, state⟩
        rw [found'] at there
        cases there
        rw [service]
        exact seating.seated found (state.symm.trans waiting)
  occupied := fun found waits taken => by
    rw [eases.posts] at found
    rcases seating.occupied found waits taken with ⟨c, there, rfl, waiting⟩
    rcases eases.calls.kept there with ⟨c', there', service, _, state⟩
    exact ⟨c', there', service, state.trans waiting⟩
  served := fun {call c'} found' => by
    cases found : w.calls[call]? with
    | none => exact eases.served found' found
    | some c =>
        rcases eases.calls.kept found with ⟨_, there, service, _⟩
        rw [found'] at there
        cases there
        rw [service]
        exact Nat.lt_of_lt_of_le (seating.served found) eases.count

theorem Wakeful.eases (wakeful : Wakeful busy w) (eases : Eases w w') : Wakeful busy w' where
  toSeating := wakeful.toSeating.eases eases
  timed := fun found waits => by
    rw [eases.posts] at found
    exact (wakeful.timed found waits).imp (Nat.le_trans · eases.now) (eases.timers _)
  alert := fun found running idle => by
    rcases eases.woken found with queued | before
    · exact Or.inl queued
    · rcases wakeful.alert before running idle with queued | ⟨wanted, generation, place, post, due,
        waiting, there, waits, timer⟩
      · exact Or.inl (eases.queue _ queued)
      · refine Or.inr ⟨wanted, generation, place, post, due, waiting, ?_, waits,
          eases.timers _ timer⟩
        rw [eases.posts, there]

/-! ## What the turn of a call does -/

/-- One call is in another state. -/
structure Recalls (call : Nat) (state : CallState) (w w' : World) : Prop where
  now : w'.now = w.now
  calls : w'.calls = w.calls.modify call ({ · with state })
  queue : w'.queue = w.queue
  timers : w'.timers = w.timers
  count : w'.services.length = w.services.length
  posts : ∀ service generation, w'.post? service generation = w.post? service generation

theorem modifyCall_recalls (w : World) (call : Nat) (state : CallState) :
    Recalls call state w (w.modifyCall call ({ · with state })) :=
  ⟨rfl, rfl, rfl, rfl, rfl, fun _ _ => rfl⟩

/-- Nothing happens at a creation but that someone takes or leaves a seat. -/
structure Reseats (service generation : Nat) (post : Post) (seats : Seats) (w w' : World) : Prop
    extends Reposts service generation { post with seats } w w' where
  before : w.post? service generation = some post
  queue : w'.queue = w.queue
  timers : w'.timers = w.timers

/-- One of the things that the turn of a call does. -/
inductive Moves (call : Nat) (w w' : World) : Prop
  | unseen (unseen : Unseen w w')
  /-- It begins a creation. -/
  | begins {c : Call} {generation due : Nat} (found : w.calls[call]? = some c)
      (fresh : c.state = .fresh) (absent : w.post? c.service generation = none)
      (reposts : Reposts c.service generation ⟨.hosting due, {}⟩ w w') (queue : w'.queue = w.queue)
      (timers : due ≤ w.now ∧ w'.timers = w.timers ∨
        w.now < due ∧ w'.timers = w.timers ++ [⟨due, c.service, generation⟩])
  /-- It takes a seat at a creation that is not over. -/
  | sits {c : Call} {generation : Nat} {post : Post} {v : World} (found : w.calls[call]? = some c)
      (fresh : c.state = .fresh) (waits : post.stage.due?.isSome = true)
      (reseats : Reseats c.service generation post (post.seats.sit call).1 w v)
      (recalls : Recalls call (.waiting generation (post.seats.sit call).2) v w')
  /-- It takes the creation for which it waits further. -/
  | drives {c : Call} {generation place : Nat} {post : Post} (found : w.calls[call]? = some c)
      (waiting : c.state = .waiting generation place)
      (there : w.post? c.service generation = some post) (waits : post.stage.due?.isSome = true)
      (drives : Drives c.service generation post w w')
  /-- It ends, and does not wait for a creation that is not over. -/
  | ends {c : Call} {state : CallState} (found : w.calls[call]? = some c)
      (free : ∀ {generation place : Nat} {post : Post}, c.state = .waiting generation place →
        w.post? c.service generation = some post → post.stage.due? = none)
      (finished : state.isOver = true) (recalls : Recalls call state w w')
  /-- It ends and leaves its seat. -/
  | leaves {c : Call} {state : CallState} {generation place : Nat} {post : Post} {v : World}
      (found : w.calls[call]? = some c) (waiting : c.state = .waiting generation place)
      (reseats : Reseats c.service generation post (post.seats.leave place) w v)
      (finished : state.isOver = true) (recalls : Recalls call state v w')

/-- The calls after one of them changed its state. -/
theorem Recalls.cases {state : CallState} (recalls : Recalls call state w w') {other : Nat}
    {c' : Call} (found' : w'.calls[other]? = some c') :
    (other = call ∧ ∃ c, w.calls[call]? = some c ∧ c' = { c with state }) ∨
      other ≠ call ∧ w.calls[other]? = some c' := by
  rw [recalls.calls, List.getElem?_modify] at found'
  by_cases here : other = call
  · subst here
    rcases Option.map_eq_some_iff.mp found' with ⟨c, found, rfl⟩
    exact Or.inl ⟨rfl, c, found, by simp⟩
  · simp only [Ne.symm here, if_false] at found'
    exact Or.inr ⟨here, by simpa using found'⟩

theorem Recalls.self {state : CallState} (recalls : Recalls call state w w') {c : Call}
    (found : w.calls[call]? = some c) : w'.calls[call]? = some { c with state } := by
  rw [recalls.calls, List.getElem?_modify, found]
  simp

theorem Recalls.others {state : CallState} (recalls : Recalls call state w w') {other : Nat}
    (different : other ≠ call) : w'.calls[other]? = w.calls[other]? := by
  rw [recalls.calls, List.getElem?_modify]
  simp [different.symm]

/-- A post after one of them changed. -/
theorem Reposts.cases {service generation : Nat} {post : Post}
    (reposts : Reposts service generation post w w') {other number : Nat} {post' : Post}
    (found' : w'.post? other number = some post') :
    (other = service ∧ number = generation ∧ post' = post) ∨
      ¬ (other = service ∧ number = generation) ∧ w.post? other number = some post' := by
  by_cases here : other = service ∧ number = generation
  · rcases here with ⟨rfl, rfl⟩
    rw [reposts.after] at found'
    exact Or.inl ⟨rfl, rfl, (Option.some.inj found').symm⟩
  · rw [reposts.others other number here] at found'
    exact Or.inr ⟨here, found'⟩

/-! ## A creation begins -/

section Begins

variable {c : Call} {generation due : Nat} (absent : w.post? c.service generation = none)
  (reposts : Reposts c.service generation ⟨.hosting due, {}⟩ w w')

include absent reposts

/-- Nobody waits for a creation that there is not. -/
theorem Reposts.kept {service number : Nat} {post : Post}
    (found : w.post? service number = some post) : w'.post? service number = some post := by
  rw [reposts.others service number ?_, found]
  rintro ⟨rfl, rfl⟩
  rw [absent] at found
  cases found

theorem Seating.begins (seating : w.Seating) : w'.Seating where
  spare := fun found => by
    rcases reposts.cases found with ⟨_, _, rfl⟩ | ⟨_, before⟩
    · exact ⟨List.nodup_nil, nofun⟩
    · exact seating.spare before
  seated := fun found waiting => by
    rw [reposts.calls] at found
    rcases seating.seated found waiting with ⟨post, there, taken⟩
    exact ⟨post, reposts.kept absent there, taken⟩
  occupied := fun found waits taken => by
    rw [reposts.calls]
    rcases reposts.cases found with ⟨_, _, rfl⟩ | ⟨_, before⟩
    · cases taken
    · exact seating.occupied before waits taken
  served := fun found => by
    rw [reposts.calls] at found
    rw [reposts.count]
    exact seating.served found

theorem Wakeful.begins (wakeful : Wakeful busy w) (queue : w'.queue = w.queue)
    (timers : due ≤ w.now ∧ w'.timers = w.timers ∨
      w.now < due ∧ w'.timers = w.timers ++ [⟨due, c.service, generation⟩]) :
    Wakeful busy w' := by
  have grown : ∀ timer ∈ w.timers, timer ∈ w'.timers := by
    intro timer member
    rcases timers with ⟨_, same⟩ | ⟨_, grown⟩
    · rwa [same]
    · rw [grown]
      exact List.mem_append_left _ member
  constructor
  case toSeating => exact wakeful.toSeating.begins absent reposts
  case timed =>
    intro service number post time found waits
    rw [reposts.now]
    rcases reposts.cases found with ⟨rfl, rfl, rfl⟩ | ⟨_, before⟩
    · cases waits
      rcases timers with ⟨past, _⟩ | ⟨_, grown⟩
      · exact Or.inl past
      · rw [grown]
        exact Or.inr (List.mem_append_right _ (List.mem_singleton_self _))
    · exact (wakeful.timed before waits).imp id (grown _)
  case alert =>
    intro other c found running idle
    rw [reposts.calls] at found
    rw [queue]
    refine (wakeful.alert found running idle).imp_right ?_
    rintro ⟨wanted, number, place, post, time, waiting, there, waits, timer⟩
    exact ⟨wanted, number, place, post, time, waiting, reposts.kept absent there, waits,
      grown _ timer⟩

end Begins

/-! ## A creation goes on -/

section Drives

variable {service generation : Nat} {post : Post}
  (there : w.post? service generation = some post) (unsettled : post.stage.due?.isSome = true)

include there unsettled

/-- Seats stay as they are when a creation goes on. -/
theorem Seating.restaged (seating : w.Seating) {stage : Stage}
    (reposts : Reposts service generation { post with stage } w w') : w'.Seating where
  spare := fun found => by
    rcases reposts.cases found with ⟨_, _, rfl⟩ | ⟨_, before⟩
    · have spare : post.seats.Spare := seating.spare there
      exact spare
    · exact seating.spare before
  seated := fun {_ c number _} found waiting => by
    rw [reposts.calls] at found
    rcases seating.seated found waiting with ⟨post', before, taken⟩
    by_cases here : c.service = service ∧ number = generation
    · rcases here with ⟨rfl, rfl⟩
      rw [there] at before
      cases before
      exact ⟨_, reposts.after, taken⟩
    · exact ⟨post', by rw [reposts.others _ _ here, before], taken⟩
  occupied := fun found waits taken => by
    rw [reposts.calls]
    rcases reposts.cases found with ⟨rfl, rfl, rfl⟩ | ⟨_, before⟩
    · exact seating.occupied there unsettled taken
    · exact seating.occupied before waits taken
  served := fun found => by
    rw [reposts.calls] at found
    rw [reposts.count]
    exact seating.served found

/-- Those who rest at a creation that goes on have a new timer, or are woken. -/
theorem Wakeful.drives (wakeful : Wakeful busy w)
    (drives : Drives service generation post w w') : Wakeful busy w' := by
  cases drives with
  | @prepares terminal due hosting reposts later queue timers =>
      have started : (⟨due, service, generation⟩ : Timer) ∈ w'.timers := by
        rw [timers]
        exact List.mem_append_right _ (List.mem_singleton_self _)
      have grown : ∀ timer ∈ w.timers, timer ∈ w'.timers := by
        rw [timers]
        exact fun _ => List.mem_append_left _
      constructor
      case toSeating => exact wakeful.toSeating.restaged there unsettled reposts
      case timed =>
        intro other number post' time found waits
        rw [reposts.now]
        rcases reposts.cases found with ⟨rfl, rfl, rfl⟩ | ⟨_, before⟩
        · cases waits
          exact Or.inr started
        · exact (wakeful.timed before waits).imp id (grown _)
      case alert =>
        intro other c found running idle
        rw [reposts.calls] at found
        rw [queue]
        refine (wakeful.alert found running idle).imp_right ?_
        rintro ⟨wanted, number, place, post', time, waiting, before, waits, timer⟩
        by_cases here : c.service = service ∧ number = generation
        · rcases here with ⟨rfl, rfl⟩
          exact ⟨wanted, number, place, _, due, waiting, reposts.after, rfl, started⟩
        · refine ⟨wanted, number, place, post', time, waiting, ?_, waits, grown _ timer⟩
          rw [reposts.others _ _ here, before]
  | ends reposts wakes timers =>
      constructor
      case toSeating => exact wakeful.toSeating.restaged there unsettled reposts
      case timed =>
        intro other number post' time found waits
        rw [reposts.now, timers]
        rcases reposts.cases found with ⟨rfl, rfl, rfl⟩ | ⟨_, before⟩
        · cases waits
        · exact wakeful.timed before waits
      case alert =>
        intro other c found running idle
        rw [reposts.calls] at found
        rw [wakes.mem_iff]
        rcases wakeful.alert found running idle with queued | ⟨wanted, number, place, post', time,
          waiting, before, waits, timer⟩
        · exact Or.inl (Or.inl queued)
        · rcases wakeful.seated found waiting with ⟨_, present, taken⟩
          by_cases here : c.service = service ∧ number = generation
          · rcases here with ⟨rfl, rfl⟩
            rw [there] at present
            cases present
            exact Or.inl (Or.inr (Seats.mem_calls_iff.mpr ⟨place, taken⟩))
          · refine Or.inr ⟨wanted, number, place, post', time, waiting, ?_, waits, ?_⟩
            · rw [reposts.others _ _ here, before]
            · rwa [timers]

end Drives

/-! ## A call takes a seat or ends -/

/-- Nothing changes but who has which seats. -/
structure SameStages (w w' : World) : Prop where
  now : w'.now = w.now
  calls : w'.calls = w.calls
  queue : w'.queue = w.queue
  timers : w'.timers = w.timers
  count : w'.services.length = w.services.length
  stages : ∀ service generation,
    (w'.post? service generation).map Post.stage = (w.post? service generation).map Post.stage

namespace SameStages

variable {service generation : Nat} {post : Post}

theorem refl (w : World) : SameStages w w := ⟨rfl, rfl, rfl, rfl, rfl, fun _ _ => rfl⟩

theorem after (same : SameStages w w') (there : w.post? service generation = some post) :
    ∃ post', w'.post? service generation = some post' ∧ post'.stage = post.stage := by
  have stage := same.stages service generation
  rw [there, Option.map_some, Option.map_eq_some_iff] at stage
  exact stage

theorem before (same : SameStages w w') (there : w'.post? service generation = some post) :
    ∃ post', w.post? service generation = some post' ∧ post'.stage = post.stage := by
  have stage := same.stages service generation
  rw [there, Option.map_some, eq_comm, Option.map_eq_some_iff] at stage
  exact stage

end SameStages

theorem Reseats.sameStages {service generation : Nat} {post : Post} {seats : Seats}
    (reseats : Reseats service generation post seats w w') : SameStages w w' where
  now := reseats.now
  calls := reseats.calls
  queue := reseats.queue
  timers := reseats.timers
  count := reseats.count
  stages := fun other number => by
    by_cases here : other = service ∧ number = generation
    · rcases here with ⟨rfl, rfl⟩
      rw [reseats.after, reseats.before]
      rfl
    · rw [reseats.others other number here]

section Recalling

variable {v : World} {state : CallState} (same : SameStages w v) (recalls : Recalls call state v w')

include same recalls

/-- For all other calls it matters only how far the creations are. -/
theorem Wakeful.recalled (wakeful : Wakeful (some call) w) (seating : w'.Seating) :
    Wakeful (some call) w' := by
  constructor
  case toSeating => exact seating
  case timed =>
    intro service generation post due found waits
    rw [recalls.posts] at found
    rcases same.before found with ⟨before, there, stage⟩
    rw [recalls.now, recalls.timers, same.now, same.timers]
    exact wakeful.timed there (by rw [stage, waits])
  case alert =>
    intro other c found running idle
    have different : other ≠ call := fun same => idle (congrArg some same.symm)
    rw [recalls.others different, same.calls] at found
    rw [recalls.queue, same.queue]
    refine (wakeful.alert found running idle).imp_right ?_
    rintro ⟨wanted, number, place, post, due, waiting, there, waits, timer⟩
    rcases same.after there with ⟨after, there', stage⟩
    refine ⟨wanted, number, place, after, due, waiting, ?_, by rw [stage, waits], ?_⟩
    · rw [recalls.posts, there']
    · rwa [recalls.timers, same.timers]

theorem Recalls.served (seating : w.Seating) {other : Nat} {c' : Call}
    (found' : w'.calls[other]? = some c') : c'.service < w'.services.length := by
  rw [recalls.count, same.count]
  rcases recalls.cases found' with ⟨rfl, before, found, rfl⟩ | ⟨_, found⟩
  · rw [same.calls] at found
    exact seating.served (c := before) found
  · rw [same.calls] at found
    exact seating.served found

end Recalling

/-- One call takes a seat at a creation or leaves its seat there, and all others keep theirs. -/
theorem Seating.reseats {c : Call} {state : CallState} {generation : Nat} {post : Post}
    {seats : Seats} {v : World} (seating : w.Seating) (found : w.calls[call]? = some c)
    (reseats : Reseats c.service generation post seats w v) (recalls : Recalls call state v w')
    (alone : ∀ {number place : Nat}, c.state = .waiting number place → number = generation)
    (spare : seats.Spare)
    (others : ∀ {place other : Nat}, other ≠ call →
      (seats.places[place]? = some (some other) ↔ post.seats.places[place]? = some (some other)))
    (seat : ∀ {number place : Nat}, state = .waiting number place →
      number = generation ∧ seats.places[place]? = some (some call))
    (own : ∀ {place : Nat}, post.stage.due?.isSome = true →
      seats.places[place]? = some (some call) → state = .waiting generation place) :
    w'.Seating := by
  have reposts := reseats.toReposts
  constructor
  case spare =>
    intro service number post' found'
    rw [recalls.posts] at found'
    rcases reposts.cases found' with ⟨_, _, rfl⟩ | ⟨_, before⟩
    · exact spare
    · exact seating.spare before
  case seated =>
    intro other c' number place found' waiting
    rw [recalls.posts]
    rcases recalls.cases found' with ⟨rfl, before, found'', rfl⟩ | ⟨different, found''⟩
    · rw [reposts.calls, found] at found''
      cases found''
      rcases seat waiting with ⟨rfl, taken⟩
      exact ⟨_, reposts.after, taken⟩
    · rw [reposts.calls] at found''
      rcases seating.seated found'' waiting with ⟨post', there, taken⟩
      by_cases here : c'.service = c.service ∧ number = generation
      · rcases here with ⟨same, rfl⟩
        rw [same, reseats.before] at there
        cases there
        rw [same]
        exact ⟨_, reposts.after, (others different).mpr taken⟩
      · exact ⟨post', by rw [reposts.others _ _ here, there], taken⟩
  case occupied =>
    intro service number post' place occupant found' waits taken
    rw [recalls.posts] at found'
    have kept {c' : Call} (different : occupant ≠ call) (there : w.calls[occupant]? = some c') :
        w'.calls[occupant]? = some c' := by
      rw [recalls.others different, reposts.calls, there]
    rcases reposts.cases found' with ⟨rfl, rfl, rfl⟩ | ⟨elsewhere, there⟩
    · by_cases here : occupant = call
      · subst here
        exact ⟨_, recalls.self (by rw [reposts.calls, found]), rfl, own waits taken⟩
      · rcases seating.occupied reseats.before waits ((others here).mp taken) with
          ⟨c', there, about, waiting⟩
        exact ⟨c', kept here there, about, waiting⟩
    · rcases seating.occupied there waits taken with ⟨c', there', about, waiting⟩
      refine ⟨c', kept ?_ there', about, waiting⟩
      rintro rfl
      cases found.symm.trans there'
      exact elsewhere ⟨about.symm, alone waiting⟩
  case served => exact recalls.served reseats.sameStages seating

theorem Seating.sits {c : Call} {generation : Nat} {post : Post} {v : World}
    (seating : w.Seating) (found : w.calls[call]? = some c)
    (fresh : c.state = .fresh) (unsettled : post.stage.due?.isSome = true)
    (reseats : Reseats c.service generation post (post.seats.sit call).1 w v)
    (recalls : Recalls call (.waiting generation (post.seats.sit call).2) v w') :
    w'.Seating := by
  rcases (seating.spare reseats.before).sit call with ⟨spare, vacant, taken, kept⟩
  refine seating.reseats found reseats recalls (fun waiting => ?_) spare
    (fun {place other} different => ?_) (fun waiting => ?_) (fun {place} _ seat => ?_)
  · rw [fresh] at waiting
    cases waiting
  · by_cases here : place = (post.seats.sit call).2
    · subst here
      refine iff_of_false (fun seat => ?_) (vacant other)
      rw [taken] at seat
      cases seat
      exact different rfl
    · rw [kept place here]
  · cases waiting
    exact ⟨rfl, taken⟩
  · by_cases here : place = (post.seats.sit call).2
    · rw [here]
    · -- The call had no seat before.
      rw [kept place here] at seat
      rcases seating.occupied reseats.before unsettled seat with ⟨_, found', _, waiting⟩
      cases found.symm.trans found'
      rw [fresh] at waiting
      cases waiting

theorem Seating.ends {c : Call} {state : CallState} (seating : w.Seating)
    (found : w.calls[call]? = some c)
    (free : ∀ {generation place : Nat} {post : Post}, c.state = .waiting generation place →
      w.post? c.service generation = some post → post.stage.due? = none)
    (finished : state.isOver = true) (recalls : Recalls call state w w') : w'.Seating := by
  constructor
  case spare =>
    intro service number post found'
    rw [recalls.posts] at found'
    exact seating.spare found'
  case seated =>
    intro other c' number place found' waiting
    rw [recalls.posts]
    rcases recalls.cases found' with ⟨rfl, _, _, rfl⟩ | ⟨_, found''⟩
    · rw [show state = .waiting number place from waiting] at finished
      cases finished
    · exact seating.seated found'' waiting
  case occupied =>
    intro service number post place occupant there waits seat
    rw [recalls.posts] at there
    rcases seating.occupied there waits seat with ⟨c', found', rfl, waiting⟩
    have different : occupant ≠ call := by
      rintro rfl
      rw [found] at found'
      cases found'
      rw [free waiting there] at waits
      cases waits
    exact ⟨c', by rw [recalls.others different, found'], rfl, waiting⟩
  case served => exact recalls.served (.refl w) seating

theorem Seating.leaves {c : Call} {state : CallState} {generation place : Nat} {post : Post}
    {v : World} (seating : w.Seating) (found : w.calls[call]? = some c)
    (waiting : c.state = .waiting generation place)
    (reseats : Reseats c.service generation post (post.seats.leave place) w v)
    (finished : state.isOver = true) (recalls : Recalls call state v w') : w'.Seating := by
  have taken : post.seats.places[place]? = some (some call) := by
    rcases seating.seated found waiting with ⟨_, there, taken⟩
    cases reseats.before.symm.trans there
    exact taken
  rcases (seating.spare reseats.before).leave taken with ⟨spare, vacant, kept⟩
  refine seating.reseats found reseats recalls (fun waiting' => ?_) spare
    (fun {seat other} different => ?_) (fun waiting' => ?_) (fun {seat} unsettled taken' => ?_)
  · cases waiting.symm.trans waiting'
    rfl
  · by_cases here : seat = place
    · subst here
      rw [vacant, taken]
      exact iff_of_false nofun fun same => different (Option.some.inj (Option.some.inj same)).symm
    · rw [kept seat here]
  · rw [waiting'] at finished
    cases finished
  · have here : seat ≠ place := by
      rintro rfl
      rw [vacant] at taken'
      cases taken'
    -- Nobody has two seats at a creation that is not over.
    rw [kept seat here] at taken'
    rcases seating.occupied reseats.before unsettled taken' with ⟨_, found', _, waiting'⟩
    cases found.symm.trans found'
    cases waiting.symm.trans waiting'
    exact absurd rfl here

/-- Whatever the turn of a call does, all other calls have their turns to come or rest. -/
theorem Wakeful.moves (wakeful : Wakeful (some call) w) (moves : Moves call w w') :
    Wakeful (some call) w' := by
  have seating := wakeful.toSeating
  cases moves with
  | unseen unseen => exact wakeful.eases unseen.eases
  | begins _ _ absent reposts queue timers => exact wakeful.begins absent reposts queue timers
  | drives _ _ there waits drives => exact wakeful.drives there waits drives
  | sits found fresh waits reseats recalls =>
      exact wakeful.recalled reseats.sameStages recalls
        (seating.sits found fresh waits reseats recalls)
  | ends found free finished recalls =>
      exact wakeful.recalled (.refl w) recalls (seating.ends found free finished recalls)
  | leaves found waiting reseats finished recalls =>
      exact wakeful.recalled reseats.sameStages recalls
        (seating.leaves found waiting reseats finished recalls)

end World
end Terminal
end Workbench
