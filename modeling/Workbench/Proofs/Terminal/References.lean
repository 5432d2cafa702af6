import Workbench.Proofs.Terminal.Registration

namespace Workbench
namespace Terminal

/-!
# References to services

A service is dropped when nobody has a reference to it any more: none of those who took one, and no
call that runs (`Referenced`).  Most of what happens to a service changes neither (`SameHolders`);
references are taken and given up one at a time, and a call gives its own up when it ends.
-/

namespace Service

/-- What there is to say of the references to a service: their number, and whether it is dropped. -/
def tenure (s : Service) : Nat × Bool :=
  (s.owners, s.dropped)

end Service

namespace Call

/-- What a call means for the references to services: its service, and whether it is over. -/
def claim (c : Call) : Nat × Bool :=
  (c.service, c.state.isOver)

end Call

namespace World

variable {w w' w'' : World} {service call : Nat} {references : List Nat}

/-- A call to a service runs. -/
theorem isCalled_iff : w.isCalled service = true ↔
    ∃ (call : Nat) (c : Call), w.calls[call]? = some c ∧ c.service = service ∧
      c.state.isOver = false := by
  simp only [isCalled, List.any_eq_true, Bool.and_eq_true, beq_iff_eq, Bool.not_eq_true']
  constructor
  · rintro ⟨c, member, runs⟩
    rcases List.mem_iff_getElem?.mp member with ⟨call, found⟩
    exact ⟨call, c, found, runs⟩
  · rintro ⟨call, c, found, runs⟩
    exact ⟨c, List.mem_of_getElem? found, runs⟩

/-- Every service after a change of one is one from before, or the changed one. -/
theorem exists_of_modifyService {f : Service → Service} {other : Nat} {s' : Service}
    (found : (w.modifyService service f).services[other]? = some s') :
    ∃ s, w.services[other]? = some s ∧ s' = if other = service then f s else s := by
  rw [modifyService, List.getElem?_modify] at found
  rcases Option.map_eq_some_iff.mp found with ⟨s, there, rfl⟩
  refine ⟨s, there, ?_⟩
  by_cases here : other = service
  · simp [here]
  · simp [here, Ne.symm here]

/-! ## Those who have references -/

/-- Whether someone who took a reference to a service still has it, or a call to it runs. -/
def IsHeld (references : List Nat) (w : World) (service : Nat) : Prop :=
  service ∈ references ∨ w.isCalled service = true

/-- Every service counts the references that were taken, and is dropped if there is none left. -/
structure Referenced (references : List Nat) (w : World) : Prop where
  counted : ∀ {service : Nat} {s : Service}, w.services[service]? = some s →
    s.owners = references.count service
  dropped : ∀ {service : Nat} {s : Service}, w.services[service]? = some s →
    (s.dropped = true ↔ ¬ w.IsHeld references service)
  present : ∀ service ∈ references, service < w.services.length

theorem Referenced.isHeld (referenced : w.Referenced references) {s : Service}
    (found : w.services[service]? = some s) (kept : s.dropped = false) :
    w.IsHeld references service := by
  by_contra unheld
  rw [(referenced.dropped found).mpr unheld] at kept
  cases kept

/-- It does not matter in which order references are named. -/
theorem Referenced.perm (referenced : w.Referenced references) {references' : List Nat}
    (perm : references.Perm references') : w.Referenced references' where
  counted := fun found => (referenced.counted found).trans (perm.count_eq _)
  dropped := fun found => by
    rw [referenced.dropped found, IsHeld, IsHeld, perm.mem_iff]
  present := fun service member => referenced.present service (perm.mem_iff.mpr member)

/-- What changes neither a reference nor a call that runs. -/
structure SameHolders (w w' : World) : Prop where
  services : w'.services.map Service.tenure = w.services.map Service.tenure
  calls : w'.calls.map Call.claim = w.calls.map Call.claim

namespace SameHolders

theorem refl (w : World) : SameHolders w w :=
  ⟨rfl, rfl⟩

theorem trans (first : SameHolders w w') (second : SameHolders w' w'') : SameHolders w w'' :=
  ⟨second.services.trans first.services, second.calls.trans first.calls⟩

theorem of_eq (services : w'.services = w.services) (calls : w'.calls = w.calls) :
    SameHolders w w' :=
  ⟨congrArg _ services, congrArg _ calls⟩

theorem ofAlike (alike : Alike w w') : SameHolders w w' :=
  .of_eq alike.services alike.calls

/-- A change of one thing in a list that does not show in what is seen of it. -/
theorem map_modify {α β : Type} {things : List α} {place : Nat} {f : α → α} {seen : α → β}
    (same : ∀ thing, things[place]? = some thing → seen (f thing) = seen thing) :
    (things.modify place f).map seen = things.map seen := by
  apply List.ext_getElem?
  intro other
  rw [List.getElem?_map, List.getElem?_map, List.getElem?_modify]
  cases found : things[other]? with
  | none => rfl
  | some thing =>
      by_cases here : place = other
      · subst here
        simp [same thing found]
      · simp [here]

theorem everyday : Everyday SameHolders where
  trans := trans
  aside := fun services calls _ _ _ => .of_eq services calls
  changes := fun _ _ _ standing => ⟨map_modify fun s found => by
    rw [Service.tenure, Service.tenure, (standing s found).owners, (standing s found).dropped], rfl⟩

theorem setPhase (w : World) (service : Nat) (phase : Phase) :
    SameHolders w (w.setPhase service phase) :=
  ⟨map_modify fun _ _ => rfl, rfl⟩

theorem modifyCall (w : World) (call : Nat) {f : Call → Call}
    (same : ∀ c, w.calls[call]? = some c → (f c).claim = c.claim) :
    SameHolders w (w.modifyCall call f) :=
  ⟨rfl, map_modify same⟩

theorem isCalled (same : SameHolders w w') (service : Nat) :
    w'.isCalled service = w.isCalled service := by
  have claims (v : World) : v.isCalled service =
      (v.calls.map Call.claim).any fun claim => claim.1 == service && !claim.2 := by
    rw [List.any_map]
    rfl
  rw [claims, claims, same.calls]

theorem isHeld (same : SameHolders w w') :
    w'.IsHeld references service ↔ w.IsHeld references service := by
  rw [IsHeld, IsHeld, same.isCalled]

/-- Every service afterwards is one from before, as far as references to it go. -/
theorem service? (same : SameHolders w w') {s' : Service}
    (found : w'.services[service]? = some s') :
    ∃ s, w.services[service]? = some s ∧ s.owners = s'.owners ∧ s.dropped = s'.dropped := by
  have tenure := congrArg (·[service]?) same.services
  simp only [List.getElem?_map, found, Option.map_some] at tenure
  rcases Option.map_eq_some_iff.mp tenure.symm with ⟨s, found', equal⟩
  exact ⟨s, found', congrArg Prod.fst equal, congrArg Prod.snd equal⟩

theorem call? (same : SameHolders w w') {c' : Call} (found : w'.calls[call]? = some c') :
    ∃ c, w.calls[call]? = some c ∧ c.service = c'.service := by
  have claim := congrArg (·[call]?) same.calls
  simp only [List.getElem?_map, found, Option.map_some] at claim
  rcases Option.map_eq_some_iff.mp claim.symm with ⟨c, found', equal⟩
  exact ⟨c, found', congrArg Prod.fst equal⟩

theorem referenced (same : SameHolders w w') (referenced : w.Referenced references) :
    w'.Referenced references where
  counted := fun found => by
    rcases same.service? found with ⟨s, before, owners, _⟩
    exact owners.symm.trans (referenced.counted before)
  dropped := fun found => by
    rcases same.service? found with ⟨s, before, _, dropped⟩
    rw [← dropped, same.isHeld]
    exact referenced.dropped before
  present := fun service member => by
    have length := congrArg List.length same.services
    rw [List.length_map, List.length_map] at length
    rw [length]
    exact referenced.present service member

end SameHolders

/-! ## Calls that end -/

/-- A turn of a call, which may end the call. -/
inductive Leaves (call service : Nat) (w : World) : World → Prop
  | stays {w' : World} (same : SameHolders w w') : Leaves call service w w'
  | ends {w' : World} (same : SameHolders w w') {state : CallState} (ended : state.isOver = true) :
      Leaves call service w (w'.endCall call service state)

theorem Leaves.after (leaves : Leaves call service w' w'') (same : SameHolders w w') :
    Leaves call service w w'' := by
  cases leaves with
  | stays later => exact .stays (same.trans later)
  | ends later isOver => exact .ends (same.trans later) isOver

theorem conclude_leaves (w : World) (call service : Nat) (title : String) (request : Request)
    (outcome : Outcome) :
    Leaves call service w (w.conclude call service title request outcome) := by
  cases outcome with
  | error error => exact .ends (.refl w) rfl
  | ok active => exact .ends (SameHolders.everyday.deliver w title active request) rfl

theorem attend_leaves (w : World) (call : Nat) (c : Call) (title : String) (generation : Nat) :
    Leaves call c.service w (w.attend call c title generation) := by
  unfold attend
  have progressed := SameHolders.everyday.progress w c.service generation
  dsimp only
  split
  · exact (conclude_leaves _ _ _ _ _ _).after progressed
  · exact .stays progressed

theorem join_leaves {c : Call} (unfinished : ∀ c', w.calls[call]? = some c' →
      c'.state.isOver = false) (title : String) (generation : Nat) :
    Leaves call c.service w (w.join call c title generation) := by
  unfold join
  split
  · exact .stays (.refl w)
  · split
    · exact conclude_leaves _ _ _ _ _ _
    · rename_i creation _ _ _
      rcases creation.seats.sit call with ⟨seats, place⟩
      refine (attend_leaves _ _ _ _ _).after ?_
      refine (SameHolders.everyday.modifyCreation w c.service generation ({ · with seats })).trans
        (.modifyCall _ _ fun c' found => ?_)
      rw [Call.claim, Call.claim, unfinished c' found]
      rfl

theorem start_leaves {c : Call} (found : w.calls[call]? = some c)
    (unfinished : c.state.isOver = false) : Leaves call c.service w (w.start call c) := by
  have same {w' : World} (calls : w'.calls = w.calls) (c' : Call)
      (found' : w'.calls[call]? = some c') : c'.state.isOver = false := by
    rw [calls, found] at found'
    cases found'
    exact unfinished
  unfold start
  cases present : w.services[c.service]? with
  | none => exact .stays (.refl w)
  | some s =>
      dsimp only
      cases phase : s.phase with
      | ready | disposed => exact conclude_leaves _ _ _ _ _ _
      | creating =>
          refine Leaves.after (join_leaves (same ?_) _ _) (.ofAlike (.write w _))
          rfl
      | idle =>
          refine Leaves.after (join_leaves (same ?_) _ _)
            (SameHolders.everyday.beginCreation present phase _)
          simp only [beginCreation, present]
          exact (Alike.startTimer _ _ _ _).calls

theorem poll_leaves (w : World) (call : Nat) :
    SameHolders w (w.poll call) ∨
      ∃ c, w.calls[call]? = some c ∧ Leaves call c.service w (w.poll call) := by
  unfold poll
  cases found : w.calls[call]? with
  | none => exact .inl (.refl w)
  | some c =>
      dsimp only
      split
      · exact .inl (.refl w)
      · rename_i unfinished
        rw [Bool.not_eq_true] at unfinished
        refine .inr ⟨c, rfl, ?_⟩
        split
        · unfold abandon
          split
          · exact .ends (SameHolders.everyday.modifyCreation _ _ _ _) rfl
          · exact .ends (.refl w) rfl
        · split
          · exact attend_leaves _ _ _ _ _
          · exact start_leaves found unfinished

/-! ## References that are taken and given up -/

/-- What is wrong at most before a service is swept: it may have been kept although nobody has a
reference to it any more. -/
structure Unswept (references : List Nat) (service : Nat) (w : World) : Prop where
  counted : ∀ {other : Nat} {s : Service}, w.services[other]? = some s →
    s.owners = references.count other
  others : ∀ {other : Nat} {s : Service}, other ≠ service → w.services[other]? = some s →
    (s.dropped = true ↔ ¬ w.IsHeld references other)
  spared : ∀ {s : Service}, w.services[service]? = some s → s.dropped = true →
    ¬ w.IsHeld references service
  present : ∀ other ∈ references, other < w.services.length

theorem Unswept.sweep (unswept : Unswept references service w) :
    (w.sweep service).Referenced references := by
  -- Nothing to do means that the service is in order as it is.
  have settled (inOrder : ∀ {s : Service}, w.services[service]? = some s →
      ¬ w.IsHeld references service → s.dropped = true) : w.Referenced references :=
    { counted := unswept.counted
      present := unswept.present
      dropped := fun {other s} found => by
        by_cases here : other = service
        · subst here
          exact ⟨unswept.spared found, inOrder found⟩
        · exact unswept.others here found }
  unfold World.sweep
  cases found : w.services[service]? with
  | none => exact settled fun there => by cases found.symm.trans there
  | some s =>
      dsimp only
      split
      · rename_i gone
        have unheld : ¬ w.IsHeld references service := by
          rintro (member | called)
          · exact absurd ((unswept.counted found).symm.trans gone.1)
              (Nat.pos_iff_ne_zero.mp (List.count_pos_iff.mpr member))
          · rw [gone.2.2] at called
            cases called
        -- Only the mark on this one service changes.
        constructor
        case counted =>
          intro other t there
          rcases exists_of_modifyService there with ⟨before, earlier, rfl⟩
          rw [← unswept.counted earlier]
          split <;> rfl
        case dropped =>
          intro other t there
          rcases exists_of_modifyService there with ⟨before, earlier, rfl⟩
          split
          · rename_i here
            subst here
            exact iff_of_true rfl unheld
          · rename_i elsewhere
            exact unswept.others elsewhere earlier
        case present =>
          intro other member
          exact (List.length_modify _ _ _).symm ▸ unswept.present other member
      · rename_i kept
        refine settled fun there unheld => ?_
        rw [found] at there
        cases there
        rw [IsHeld, not_or, Bool.not_eq_true] at unheld
        by_contra standing
        rw [Bool.not_eq_true] at standing
        refine kept ⟨?_, standing, unheld.2⟩
        rw [unswept.counted found, List.count_eq_zero]
        exact unheld.1

/-- A call that ends gives up its reference. -/
theorem Referenced.endCall (referenced : w.Referenced references)
    (whose : ∀ c, w.calls[call]? = some c → c.service = service) {state : CallState}
    (ended : state.isOver = true) : (w.endCall call service state).Referenced references := by
  have called {other : Nat} : (w.modifyCall call ({ · with state })).isCalled other = true ↔
      ∃ (place : Nat) (c : Call), place ≠ call ∧ w.calls[place]? = some c ∧ c.service = other ∧
        c.state.isOver = false := by
    rw [isCalled_iff]
    constructor
    · rintro ⟨place, c', found, whom, runs⟩
      rw [modifyCall, List.getElem?_modify] at found
      rcases Option.map_eq_some_iff.mp found with ⟨c, there, rfl⟩
      by_cases here : call = place
      · simp [here, ended] at runs
      · simp only [here, if_false] at whom runs
        exact ⟨place, c, Ne.symm here, there, whom, runs⟩
    · rintro ⟨place, c, elsewhere, there, whom, runs⟩
      refine ⟨place, c, ?_, whom, runs⟩
      simp [modifyCall, Ne.symm elsewhere, there]
  have fewer {other : Nat} :
      (w.modifyCall call ({ · with state })).IsHeld references other → w.IsHeld references other :=
    Or.imp_right fun runs => by
      rcases called.mp runs with ⟨place, c, _, there⟩
      exact isCalled_iff.mpr ⟨place, c, there⟩
  apply Unswept.sweep
  constructor
  case counted => exact referenced.counted
  case present => exact referenced.present
  case spared =>
    intro s found gone held
    exact (referenced.dropped found).mp gone (fewer held)
  case others =>
    intro other s elsewhere found
    rw [referenced.dropped found]
    refine not_congr ⟨Or.imp_right fun runs => ?_, fewer⟩
    rcases isCalled_iff.mp runs with ⟨place, c, there, whom, running⟩
    refine called.mpr ⟨place, c, ?_, there, whom, running⟩
    rintro rfl
    exact elsewhere (whom.symm.trans (whose c there))

theorem Referenced.poll (referenced : w.Referenced references) (call : Nat) :
    (w.poll call).Referenced references := by
  rcases poll_leaves w call with same | ⟨c, found, leaves⟩
  · exact same.referenced referenced
  · generalize w.poll call = w' at leaves
    cases leaves with
    | stays same => exact same.referenced referenced
    | ends same isOver =>
        refine (same.referenced referenced).endCall (fun c' there => ?_) isOver
        rcases same.call? there with ⟨before, found', whose⟩
        rw [found] at found'
        cases found'
        exact whose.symm

/-- Whoever makes a service has the first reference to it. -/
theorem Referenced.addService (referenced : w.Referenced references) (title : String)
    (resource : Option Url) (helper : Helper) :
    (w.addService title resource helper).Referenced (w.services.length :: references) := by
  have absent : w.services.length ∉ references := fun member =>
    Nat.lt_irrefl _ (referenced.present _ member)
  have services {service : Nat} {s : Service}
      (found : (w.addService title resource helper).services[service]? = some s) :
      (service ≠ w.services.length ∧ w.services[service]? = some s) ∨
        (service = w.services.length ∧ s = { title, resource, helper }) := by
    rw [World.addService, List.getElem?_append] at found
    split at found
    · rename_i inside
      exact .inl ⟨Nat.ne_of_lt inside, found⟩
    · rw [List.getElem?_singleton] at found
      split at found
      · cases found
        exact .inr ⟨by omega, rfl⟩
      · cases found
  constructor
  case counted =>
    intro service s found
    rcases services found with ⟨earlier, before⟩ | ⟨rfl, rfl⟩
    · rw [List.count_cons_of_ne (Ne.symm earlier)]
      exact referenced.counted before
    · rw [List.count_cons_self, List.count_eq_zero.mpr absent]
  case dropped =>
    intro service s found
    rcases services found with ⟨earlier, before⟩ | ⟨rfl, rfl⟩
    · rw [referenced.dropped before, IsHeld, IsHeld, List.mem_cons, or_iff_right earlier]
      rfl
    · exact iff_of_false Bool.false_ne_true (not_not.mpr (.inl (List.mem_cons_self ..)))
  case present =>
    intro service member
    rw [World.addService, List.length_append, List.length_singleton, Nat.lt_succ_iff_lt_or_eq]
    rcases List.mem_cons.mp member with rfl | earlier
    · exact .inr rfl
    · exact .inl (referenced.present service earlier)

/-- A reference can only be had from someone who has one. -/
theorem Referenced.retain (referenced : w.Referenced references)
    (held : service ∈ references) : (w.retain service).Referenced (service :: references) := by
  have same : ∀ other, other ∈ service :: references ↔ other ∈ references := fun other => by
    rw [List.mem_cons, or_iff_right_of_imp fun here => here ▸ held]
  constructor
  case counted =>
    intro other s found
    rcases exists_of_modifyService found with ⟨before, there, rfl⟩
    split
    · rename_i here
      rw [here, List.count_cons_self, ← here, ← referenced.counted there]
    · rename_i elsewhere
      rw [List.count_cons_of_ne (Ne.symm elsewhere), ← referenced.counted there]
  case dropped =>
    intro other s found
    rcases exists_of_modifyService found with ⟨before, there, rfl⟩
    rw [IsHeld, same]
    refine Iff.trans ?_ (referenced.dropped there)
    split <;> rfl
  case present =>
    intro other member
    rw [World.retain, modifyService, List.length_modify]
    exact referenced.present other ((same other).mp member)

theorem Referenced.release (referenced : w.Referenced (service :: references)) :
    (w.release service).Referenced references := by
  apply Unswept.sweep
  constructor
  case counted =>
    intro other s found
    rcases exists_of_modifyService found with ⟨before, there, rfl⟩
    have count := referenced.counted there
    split
    · rename_i here
      subst here
      rw [List.count_cons_self] at count
      rw [count, Nat.add_sub_cancel]
    · rename_i elsewhere
      rw [count, List.count_cons_of_ne (Ne.symm elsewhere)]
  case others =>
    intro other s elsewhere found
    rcases exists_of_modifyService found with ⟨before, there, rfl⟩
    rw [if_neg elsewhere, referenced.dropped there, IsHeld, IsHeld, List.mem_cons,
      or_iff_right elsewhere]
    rfl
  case spared =>
    -- Before it was given up there was this reference, so the service was not dropped.
    intro s found gone
    rcases exists_of_modifyService found with ⟨before, there, rfl⟩
    rw [if_pos rfl] at gone
    exact absurd (.inl (List.mem_cons_self ..)) ((referenced.dropped there).mp gone)
  case present =>
    intro other member
    rw [modifyService, List.length_modify]
    exact referenced.present other (List.mem_cons_of_mem _ member)

theorem addCall_isHeld (w : World) (service : Nat) (request : Request) (other : Nat) :
    (w.addCall service request).IsHeld references other ↔
      w.IsHeld references other ∨ service = other := by
  have calls : (w.addCall service request).calls = w.calls ++ [({ service, request } : Call)] :=
    (Alike.wake _ _).calls
  have called : (w.addCall service request).isCalled other =
      (w.isCalled other || service == other) := by
    rw [isCalled, isCalled, calls, List.any_append]
    simp [CallState.isOver]
  rw [IsHeld, IsHeld, called, Bool.or_eq_true, beq_iff_eq, or_assoc]

/-- A service can only be called by someone who has a reference to it. -/
theorem Referenced.addCall (referenced : w.Referenced references)
    (held : w.IsHeld references service) (request : Request) :
    (w.addCall service request).Referenced references := by
  have services : (w.addCall service request).services = w.services := (Alike.wake _ _).services
  constructor
  case counted =>
    intro other s found
    rw [services] at found
    exact referenced.counted found
  case dropped =>
    intro other s found
    rw [services] at found
    rw [referenced.dropped found, addCall_isHeld, or_iff_left_of_imp fun here => here ▸ held]
  case present =>
    intro other member
    rw [services]
    exact referenced.present other member

theorem dispose_holders (w : World) (service : Nat) : SameHolders w (w.dispose service) := by
  unfold dispose
  split
  · exact .refl w
  · refine (SameHolders.setPhase w service .disposed).trans ?_
    dsimp only
    split <;> exact .of_eq rfl rfl

/-! ## Closed terminals -/

/-- The services whose closed terminals someone wants to know of. -/
def watched (w : World) : List Nat :=
  w.listeners.map CloseListener.service

/-- What listeners do when they are notified: references are in order, and nobody lost one. -/
structure Announces (references : List Nat) (w w' : World) : Prop where
  referenced : w'.Referenced references
  held : ∀ {service : Nat}, w.IsHeld references service → w'.IsHeld references service
  watched : w'.watched = w.watched

namespace Announces

theorem trans (first : Announces references w w') (second : Announces references w' w'') :
    Announces references w w'' :=
  ⟨second.referenced, fun held => second.held (first.held held),
    second.watched.trans first.watched⟩

theorem of_same (same : SameHolders w w') (listeners : w'.watched = w.watched)
    (referenced : w.Referenced references) : Announces references w w' :=
  ⟨same.referenced referenced, same.isHeld.mpr, listeners⟩

end Announces

theorem notify_announces (referenced : w.Referenced references) {listener : Nat}
    (held : w.watched[listener]? = some service) (present : w.IsHeld references service) :
    Announces references w (w.notify listener) := by
  rw [watched, List.getElem?_map] at held
  rcases Option.map_eq_some_iff.mp held with ⟨l, found, rfl⟩
  let counted : World :=
    { w with listeners := w.listeners.modify listener fun l => { l with fired := l.fired + 1 } }
  have counts : Announces references w counted :=
    .of_same (.of_eq rfl rfl) (SameHolders.map_modify fun _ _ => rfl) referenced
  unfold notify
  simp only [found]
  split
  · exact counts
  · exact counts.trans (.of_same (dispose_holders _ _)
      (congrArg (List.map CloseListener.service) (dispose_silently counted l.service).listeners)
      counts.referenced)
  · exact counts.trans
      ⟨counts.referenced.addCall (counts.held present) _,
        fun held => (addCall_isHeld _ _ _ _).mpr (.inl held),
        congrArg (List.map CloseListener.service) (Silently.customary.addCall counted l.service _).listeners⟩

theorem notifyAll_announces (listeners : List Nat) (referenced : w.Referenced references)
    (whose : ∀ listener ∈ listeners, w.watched[listener]? = some service)
    (held : w.IsHeld references service) :
    Announces references w (listeners.foldl notify w) := by
  induction listeners generalizing w with
  | nil => exact .of_same (.refl w) rfl referenced
  | cons listener rest inductionHypothesis =>
      have first := notify_announces referenced (whose listener (List.mem_cons_self ..)) held
      refine first.trans (inductionHypothesis first.referenced (fun later member => ?_)
        (first.held held))
      rw [first.watched]
      exact whose later (List.mem_cons_of_mem _ member)

theorem hearClosed_announces (referenced : w.Referenced references)
    (held : w.IsHeld references service) (terminal : Nat) :
    Announces references w (w.hearClosed service terminal) := by
  unfold hearClosed
  split
  · exact .of_same (.refl w) rfl referenced
  · dsimp only
    split
    · have told (line : Log.Line) :
          Announces references w ((w.setPhase service .idle).write line) :=
        .of_same ((SameHolders.setPhase w service .idle).trans (.ofAlike (.write _ _))) rfl
          referenced
      refine (told _).trans (notifyAll_announces _ (told _).referenced (fun listener member => ?_)
        ((told _).held held))
      have listening := (List.mem_filter.mp member).2
      rw [(told _).watched, watched, List.getElem?_map]
      cases found : w.listeners[listener]? with
      | none =>
          rw [found] at listening
          cases listening
      | some l =>
          simp only [found, Bool.and_eq_true, beq_iff_eq] at listening
          rw [Option.map_some, listening.2]
    · exact .of_same (.refl w) rfl referenced

/-- Those who hear of a closed terminal are registered, and those who are registered are held. -/
theorem Referenced.close (referenced : w.Referenced references) (registered : w.Registered)
    (terminal : Nat) : (w.close terminal).Referenced references := by
  have each (services : List Nat) {v : World} (referenced : v.Referenced references)
      (held : ∀ service ∈ services, v.IsHeld references service) :
      (services.foldl (fun w service => w.hearClosed service terminal) v).Referenced
        references := by
    induction services generalizing v with
    | nil => exact referenced
    | cons service rest inductionHypothesis =>
        have first := hearClosed_announces referenced (held service (List.mem_cons_self ..))
          terminal
        exact inductionHypothesis first.referenced fun later member =>
          first.held (held later (List.mem_cons_of_mem _ member))
  refine each _ referenced fun service listening => ?_
  rcases registered.exists_of_mem listening with ⟨s, found, kept, _⟩
  exact referenced.isHeld found kept

end World
end Terminal
end Workbench
