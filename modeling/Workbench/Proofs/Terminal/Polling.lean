import Workbench.Proofs.Terminal.Waiting

namespace Workbench
namespace Terminal

/-!
# The turn of a call, one thing after the other

The turn of a call is a number of `Moves`, and after it the call is over or has its place at a
creation that waits for the host or the activator.  So all calls are looked after between turns if
they were before (`Wakeful.poll`).
-/

namespace World

variable {w w' w'' : World} {call : Nat}

/-- What the turn of a call does from some point on. -/
structure Concludes (call : Nat) (w w' : World) : Prop where
  moves : Relation.ReflTransGen (Moves call) w w'
  placed : Placed call w'

theorem Concludes.head (move : Moves call w w') (concludes : Concludes call w' w'') :
    Concludes call w w'' where
  moves := .head move concludes.moves
  placed := concludes.placed

theorem Wakeful.concludes (wakeful : Wakeful (some call) w) (concludes : Concludes call w w') :
    Wakeful none w' := by
  rcases concludes with ⟨moves, placed⟩
  refine Wakeful.placed ?_ placed
  clear placed
  induction moves with
  | refl => exact wakeful
  | tail _ move inductionHypothesis => exact inductionHypothesis.moves move

/-- A call that does not wait for anything to go on ends. -/
theorem endCall_concludes {c : Call} (found : w.calls[call]? = some c)
    (free : ∀ {generation place : Nat} {post : Post}, c.state = .waiting generation place →
      w.post? c.service generation = some post → post.stage.due? = none)
    {state : CallState} (finished : state.isOver = true) (service : Nat) :
    Concludes call w (w.endCall call service state) := by
  have recalls := modifyCall_recalls w call state
  have swept := Unseen.sweep (w.modifyCall call ({ · with state })) service
  refine ⟨(Relation.ReflTransGen.single (.ends found free finished recalls)).tail (.unseen swept),
    fun c' found' => Or.inl ?_⟩
  rw [endCall, swept.calls, recalls.self found] at found'
  cases found'
  exact finished

theorem conclude_concludes {c : Call} (found : w.calls[call]? = some c)
    (free : ∀ {generation place : Nat} {post : Post}, c.state = .waiting generation place →
      w.post? c.service generation = some post → post.stage.due? = none)
    (service : Nat) (title : String) (request : Request) (outcome : Outcome) :
    Concludes call w (w.conclude call service title request outcome) := by
  cases outcome with
  | error error => exact endCall_concludes found free rfl service
  | ok active =>
      have delivered := Unseen.deliver w title active request
      refine .head (.unseen delivered) (endCall_concludes (c := c) ?_ ?_ rfl service)
      · rw [delivered.calls, found]
      · intro generation place post waiting there
        rw [delivered.posts] at there
        exact free waiting there

/-- A call abandons its place. -/
theorem abandon_concludes (seating : w.Seating) {c : Call} (found : w.calls[call]? = some c) :
    Concludes call w (w.abandon call c) := by
  unfold abandon
  cases state : c.state with
  | waiting generation place =>
      rcases seating.seated found state with ⟨post, there, _⟩
      let f (creation : Creation) : Creation :=
        { creation with seats := creation.seats.leave place }
      have reposts := Reposts.modifyCreation there (f := f)
        (g := fun post => { post with seats := post.seats.leave place }) fun _ => rfl
      have recalls := modifyCall_recalls (w.modifyCreation c.service generation f) call .aborted
      have swept := Unseen.sweep ((w.modifyCreation c.service generation f).modifyCall call
        ({ · with state := .aborted })) c.service
      refine ⟨(Relation.ReflTransGen.single
        (.leaves found state ⟨reposts, there, rfl, rfl⟩ rfl recalls)).tail (.unseen swept),
        fun c' found' => Or.inl ?_⟩
      rw [endCall, swept.calls, recalls.self (by rw [reposts.calls, found])] at found'
      cases found'
      rfl
  | fresh | finished | aborted =>
      refine endCall_concludes found (fun {_ _ _} waiting => ?_) rfl c.service
      rw [state] at waiting
      cases waiting

/-- A creation that goes on as far as it can is a move, or it has to wait as before; what it waits
for then is still to come. -/
theorem progress_moves {c c' : Call} {generation place : Nat} {post : Post}
    (found : w.calls[call]? = some c') (about : c'.service = c.service)
    (waiting : c'.state = .waiting generation place)
    (there : w.post? c.service generation = some post) :
    Relation.ReflTransGen (Moves call) w (w.progress c.service generation) ∧
      (w.progress c.service generation).calls = w.calls ∧
      ∃ post', (w.progress c.service generation).post? c.service generation = some post' ∧
        ∀ due, post'.stage.due? = some due → (w.progress c.service generation).now < due := by
  rcases progress_drives w c.service generation with ⟨same, early⟩ | ⟨post', due, there', waits,
    drives⟩
  · rw [same]
    exact ⟨.refl, rfl, post, there, fun due => early post due there⟩
  · refine ⟨.single (.drives found waiting (by rw [about, there']) (by rw [waits]; rfl)
      (by rw [about]; exact drives)), ?_⟩
    cases drives with
    | prepares _ reposts later =>
        refine ⟨reposts.calls, _, reposts.after, ?_⟩
        rintro _ ⟨⟩
        rw [reposts.now]
        exact later
    | ends reposts => exact ⟨reposts.calls, _, reposts.after, nofun⟩

/-- A call takes the creation for which it waits as far as it can go, and ends if that is over. -/
theorem attend_concludes {c c' : Call} {generation place : Nat} {post : Post}
    (found : w.calls[call]? = some c') (about : c'.service = c.service)
    (wanted : c'.cancelled = false) (waiting : c'.state = .waiting generation place)
    (there : w.post? c.service generation = some post) (title : String) :
    Concludes call w (w.attend call c title generation) := by
  have progressed := progress_moves found about waiting there
  unfold attend
  dsimp only
  generalize w.progress c.service generation = w₂ at progressed
  rcases progressed with ⟨moves, calls, post₂, there₂, later⟩
  have found₂ : w₂.calls[call]? = some c' := by rw [calls, found]
  rcases creation?_of_post? there₂ with ⟨creation, member, stage⟩
  cases settled : w₂.outcome? c.service generation with
  | none =>
      refine ⟨moves, fun other found' => Or.inr ?_⟩
      rw [found₂] at found'
      cases found'
      cases waits : post₂.stage.due? with
      | some due =>
          exact ⟨wanted, generation, place, post₂, due, waiting, by rw [about, there₂], waits,
            later due waits⟩
      | none =>
          -- A creation that waits for nothing is over.
          cases reached : post₂.stage with
          | hosting | activating => rw [reached] at waits; cases waits
          | settled outcome =>
              exact absurd (stage.trans reached)
                (outcome?_eq_none_iff.mp settled creation member outcome)
  | some outcome =>
      rcases outcome?_eq_some_iff.mp settled with ⟨same, member', finished⟩
      rw [member] at member'
      cases member'
      have concludes := conclude_concludes found₂ (fun {number seat other} waits present => ?_)
        c.service title c.request outcome
      · exact ⟨moves.trans concludes.moves, concludes.placed⟩
      · rw [waiting] at waits
        cases waits
        rw [about, there₂] at present
        cases present
        rw [← stage, finished]
        rfl

/-- A call that has its first turn takes a seat at a creation that is not over. -/
theorem join_concludes {c : Call} (found : w.calls[call]? = some c)
    (fresh : c.state = .fresh) (wanted : c.cancelled = false) {generation : Nat} {s : Service}
    {creation : Creation} (present : w.services[c.service]? = some s)
    (member : s.creation? generation = some creation)
    (unsettled : ∀ outcome, creation.stage ≠ .settled outcome) (title : String) :
    Concludes call w (w.join call c title generation) := by
  have there : w.post? c.service generation = some creation.post :=
    post?_eq_some_iff.mpr ⟨s, creation, present, member, rfl⟩
  have reposts := Reposts.modifyCreation there
    (f := ({ · with seats := (creation.seats.sit call).1 }))
    (g := ({ · with seats := (creation.seats.sit call).1 })) fun _ => rfl
  have recalls := modifyCall_recalls (w.modifyCreation c.service generation
    ({ · with seats := (creation.seats.sit call).1 })) call
      (.waiting generation (creation.seats.sit call).2)
  have attending (waits : creation.stage.due?.isSome = true) : Concludes call w
      (((w.modifyCreation c.service generation
        ({ · with seats := (creation.seats.sit call).1 })).modifyCall call
          ({ · with state := .waiting generation (creation.seats.sit call).2 })).attend call c title
            generation) := by
    have reseats : Reseats c.service generation creation.post (creation.post.seats.sit call).1 w
        (w.modifyCreation c.service generation
          ({ · with seats := (creation.seats.sit call).1 })) :=
      ⟨reposts, there, rfl, rfl⟩
    refine .head (.sits found fresh waits reseats recalls) ?_
    exact attend_concludes (recalls.self (by rw [reposts.calls, found])) rfl wanted rfl
      ((recalls.posts c.service generation).trans reposts.after) title
  unfold join
  simp only [present, Option.bind_some, member]
  cases stage : creation.stage with
  | settled outcome => exact absurd stage (unsettled outcome)
  | hosting | activating => exact attending (by rw [stage]; rfl)

/-- A creation that begins has a post of its own. -/
theorem Reposts.begun {service : Nat} {s : Service} (present : w.services[service]? = some s)
    (counted : s.creations.length = s.generation) (creation : Creation) :
    Reposts service (s.generation + 1) creation.post w (w.put service (s.begun creation)) := by
  have there : (w.put service (s.begun creation)).services[service]? = some (s.begun creation) :=
    services_put present _
  exact
    { now := rfl
      calls := rfl
      count := List.length_set
      after := by
        rw [post?_of_services there, Service.creation?_begun counted, if_pos rfl, Option.map_some]
      others := fun other number different => by
        by_cases here : other = service
        · subst here
          rw [post?_of_services there, Service.creation?_begun counted,
            if_neg fun same => different ⟨rfl, same⟩, post?_of_services present]
        · rw [post?, post?, services_put_of_ne w service (s.begun creation) here] }

/-- A service that has no terminal begins a creation, which has a timer if it takes time. -/
theorem beginCreation_moves {c : Call} {s : Service} (found : w.calls[call]? = some c)
    (fresh : c.state = .fresh) (present : w.services[c.service]? = some s)
    (counted : s.creations.length = s.generation) (preserveFocus : Bool) :
    Moves call w (w.beginCreation c.service preserveFocus) := by
  let creation : Creation :=
    { preserveFocus
      options := { name := s.title, shellPath := s.helper.usablePath? w.env }
      shell := Shell.identify? (s.helper.usablePath? w.env)
      stage := .hosting (w.now + w.host.delay) }
  let begun : World := ({ w with host := w.host.request creation.options }.put c.service
    (s.begun creation)).write (.info ("Creating terminal: title='" ++ s.title ++ "', shell=" ++
      creation.shell.name ++ ", resource=" ++ Service.resourceText s.resource))
  have begins : w.beginCreation c.service preserveFocus =
      begun.startTimer c.service (s.generation + 1) w.host.delay := by
    unfold beginCreation
    simp only [present]
    rw [modifyService_eq_put (w := { w with host := w.host.request creation.options }) present]
    rfl
  have absent : w.post? c.service (s.generation + 1) = none := by
    rw [post?_of_services present]
    cases member : s.creation? (s.generation + 1) with
    | none => rfl
    | some creation =>
        have le := Service.creation?_le member
        omega
  have reposts : Reposts c.service (s.generation + 1) ⟨.hosting (w.now + w.host.delay), {}⟩ w
      begun :=
    have asked := Reposts.begun present counted creation
    ⟨asked.now, asked.calls, asked.count, asked.after, asked.others⟩
  rw [begins]
  unfold startTimer
  split
  · rename_i atOnce
    exact .begins found fresh absent reposts rfl (Or.inl ⟨by rw [atOnce]; exact Nat.le_refl _, rfl⟩)
  · rename_i takesTime
    exact .begins found fresh absent
      ⟨reposts.now, reposts.calls, reposts.count, reposts.after, reposts.others⟩ rfl
      (Or.inr ⟨Nat.lt_add_of_pos_right (Nat.pos_of_ne_zero takesTime), rfl⟩)

/-- The first turn of a call. -/
theorem start_concludes (sound : w.Sound) (seating : w.Seating) {c : Call}
    (found : w.calls[call]? = some c) (fresh : c.state = .fresh) (wanted : c.cancelled = false) :
    Concludes call w (w.start call c) := by
  have free {generation place : Nat} {post : Post} (waiting : c.state = .waiting generation place)
      (_ : w.post? c.service generation = some post) : post.stage.due? = none := by
    rw [fresh] at waiting
    cases waiting
  rcases (⟨_, List.getElem?_eq_getElem (seating.served found)⟩ :
    ∃ s, w.services[c.service]? = some s) with ⟨s, present⟩
  have healthy := sound.of_services present
  unfold start
  simp only [present]
  cases phase : s.phase with
  | ready active | disposed => exact conclude_concludes found free c.service s.title c.request _
  | creating generation slot =>
      have latest := healthy.latest phase
      rcases Service.exists_creation? latest.2
        (Nat.le_of_eq (latest.1.trans healthy.counted.symm)) with ⟨creation, member⟩
      have current : s.phase.isCurrent generation = true := Phase.isCurrent_iff.mpr ⟨slot, phase⟩
      have unsettled := ((healthy.fits member).ofCurrent current).2
      let told := w.write (.debug
        ("Awaiting in-flight terminal creation: title='" ++ s.title ++ "'"))
      exact .head (.unseen (.write w _))
        (join_concludes (w := told) found fresh wanted present member unsettled s.title)
  | idle =>
      rcases beginCreation_begins present phase c.request.preserveFocus with
        ⟨creation, begins, _, there⟩
      have member : (s.begun creation).creation? (s.generation + 1) = some creation := by
        rw [Service.creation?_begun healthy.counted, if_pos rfl]
      rcases begins.hosting with ⟨due, hosting⟩
      have calls : (w.beginCreation c.service c.request.preserveFocus).calls = w.calls :=
        begins.calls
      refine .head (beginCreation_moves found fresh present healthy.counted _)
        (join_concludes (by rw [calls, found]) fresh wanted there member (fun outcome settled => ?_)
          s.title)
      rw [hosting] at settled
      cases settled

/-- The turn of a call is a number of moves. -/
theorem poll_concludes (sound : w.Sound) (seating : w.Seating) (call : Nat) :
    Concludes call w (w.poll call) := by
  unfold poll
  cases found : w.calls[call]? with
  | none =>
      refine ⟨.refl, fun c there => ?_⟩
      rw [found] at there
      cases there
  | some c =>
      dsimp only
      cases running : c.state.isOver with
      | true =>
          simp only [if_true]
          refine ⟨.refl, fun other there => Or.inl ?_⟩
          rw [found] at there
          cases there
          exact running
      | false =>
          cases cancelled : c.cancelled with
          | true => exact abandon_concludes seating found
          | false =>
              simp only [Bool.false_eq_true, if_false]
              cases state : c.state with
              | waiting generation place =>
                  rcases seating.seated found state with ⟨post, there, _⟩
                  exact attend_concludes found rfl cancelled state there _
              | finished | aborted => rw [state] at running; cases running
              | fresh => exact start_concludes sound seating found state cancelled

/-- All calls are looked after between turns. -/
theorem Wakeful.poll (wakeful : Wakeful (some call) w) (sound : w.Sound) :
    Wakeful none (w.poll call) :=
  wakeful.concludes (poll_concludes sound wakeful.toSeating call)

end World
end Terminal
end Workbench
