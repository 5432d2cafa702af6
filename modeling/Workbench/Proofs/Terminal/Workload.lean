import Mathlib.Data.Finset.Card
import Workbench.Proofs.Terminal.Orderly

namespace Workbench
namespace Terminal

/-!
# How much work is left

A turn that wakes calls ends the creation for which they waited (`standing`), and a turn that starts
a timer ends the wait for the host (`hosts`), so that both are paid for (`Pays`).  Hence the number
of turns that may follow (`workload`) and the number of timers that may fire (`pendency`) are
bounded at every moment, and neither grows in the turn of a call.
-/

/-- What a list gains, a set loses. -/
def Pays {α β : Type} (key : α → β) (before after : List α) (owed owed' : Finset β) : Prop :=
  owed' ⊆ owed ∧ ∃ added, after = before ++ added ∧ (added.map key).Nodup ∧
    ∀ a ∈ added, key a ∈ owed ∧ key a ∉ owed'

namespace Pays

variable {α β : Type} {key : α → β} {first second third : List α} {owed owed' owed'' : Finset β}

theorem of_subset (same : second = first) (less : owed' ⊆ owed) :
    Pays key first second owed owed' :=
  ⟨less, [], by rw [same, List.append_nil], List.nodup_nil, nofun⟩

theorem trans (one : Pays key first second owed owed') (two : Pays key second third owed' owed'') :
    Pays key first third owed owed'' := by
  rcases one with ⟨less, added, rfl, once, paid⟩
  rcases two with ⟨less', added', rfl, once', paid'⟩
  refine ⟨less'.trans less, added ++ added', List.append_assoc _ _ _, ?_, fun a member => ?_⟩
  · rw [List.map_append]
    refine List.nodup_append.mpr ⟨once, once', fun b there c there' same => ?_⟩
    rcases List.mem_map.mp there with ⟨a, member, rfl⟩
    rcases List.mem_map.mp there' with ⟨a', member', rfl⟩
    exact (paid a member).2 (same ▸ (paid' a' member').1)
  · rcases List.mem_append.mp member with earlier | later
    · exact ⟨(paid a earlier).1, fun still => (paid a earlier).2 (less' still)⟩
    · exact ⟨less (paid' a later).1, (paid' a later).2⟩

/-- So the two together do not grow. -/
theorem le (pays : Pays key first second owed owed') :
    second.length + owed'.card ≤ first.length + owed.card := by
  classical
  rcases pays with ⟨less, added, rfl, once, paid⟩
  have inside : (added.map key).toFinset ⊆ owed \ owed' := by
    intro b member
    rcases List.mem_map.mp (List.mem_toFinset.mp member) with ⟨a, there, rfl⟩
    exact Finset.mem_sdiff.mpr (paid a there)
  have counted := Finset.card_le_card inside
  rw [List.toFinset_card_of_nodup once, List.length_map, Finset.card_sdiff_of_subset less]
    at counted
  have fewer := Finset.card_le_card less
  rw [List.length_append]
  omega

end Pays

namespace World

variable {w w' : World} {call : Nat}

/-! ## Calls that may still be woken -/

/-- Whether a call has had no turn, or waits for a creation that is not over. -/
def stands (w : World) (call : Nat) : Bool :=
  match w.calls[call]? with
  | some c =>
    match c.state with
    | .fresh => true
    | .waiting generation _ => (w.post? c.service generation).any (·.stage.due?.isSome)
    | _ => false
  | none => false

def standing (w : World) : Finset Nat :=
  (Finset.range w.calls.length).filter (w.stands · = true)

theorem mem_standing_iff : call ∈ w.standing ↔ ∃ c, w.calls[call]? = some c ∧
    (c.state = .fresh ∨ ∃ generation place post, c.state = .waiting generation place ∧
      w.post? c.service generation = some post ∧ post.stage.due?.isSome = true) := by
  rw [standing, Finset.mem_filter, Finset.mem_range, stands]
  cases found : w.calls[call]? with
  | none => simp
  | some c =>
      have inside := (List.getElem?_eq_some_iff.mp found).1
      cases state : c.state with
      | fresh | finished | aborted => simp [state, inside]
      | waiting generation place => simp [state, inside, Option.any_eq_true]

/-- Calls do not begin to stand, and creations that are over do not go on. -/
theorem standing_subset
    (calls : ∀ {other : Nat} {c' : Call}, w'.calls[other]? = some c' → c'.state.isOver = false →
      ∃ c, w.calls[other]? = some c ∧ (c.state = .fresh ∨ c = c'))
    (posts : ∀ {other : Nat} {c : Call} {generation place : Nat} {post' : Post},
      w.calls[other]? = some c → c.state = .waiting generation place →
      w'.post? c.service generation = some post' → post'.stage.due?.isSome = true →
        ∃ post, w.post? c.service generation = some post ∧ post.stage.due?.isSome = true) :
    w'.standing ⊆ w.standing := by
  intro other member
  rcases mem_standing_iff.mp member with ⟨c', found', stands⟩
  have running : c'.state.isOver = false := by
    rcases stands with fresh | ⟨_, _, _, waiting, _⟩
    · rw [fresh]
      rfl
    · rw [waiting]
      rfl
  rcases calls found' running with ⟨c, found, fresh | rfl⟩
  · exact mem_standing_iff.mpr ⟨c, found, Or.inl fresh⟩
  · refine mem_standing_iff.mpr ⟨c, found, stands.imp_right ?_⟩
    rintro ⟨generation, place, post', waiting, there, unsettled⟩
    rcases posts found waiting there unsettled with ⟨post, before, unsettled'⟩
    exact ⟨generation, place, post, waiting, before, unsettled'⟩

/-- All but one of the calls are as they were. -/
theorem Recalls.running {state : CallState} {v : World} (recalls : Recalls call state v w')
    (same : SameStages w v) {c : Call} (found : w.calls[call]? = some c)
    (allowed : c.state = .fresh ∨ state.isOver = true) {other : Nat} {c' : Call}
    (found' : w'.calls[other]? = some c') (running : c'.state.isOver = false) :
    ∃ c, w.calls[other]? = some c ∧ (c.state = .fresh ∨ c = c') := by
  rcases recalls.cases found' with ⟨rfl, before, _, rfl⟩ | ⟨_, there⟩
  · rcases allowed with fresh | finished
    · exact ⟨c, found, Or.inl fresh⟩
    · rw [show state.isOver = false from running] at finished
      cases finished
  · rw [same.calls] at there
    exact ⟨c', there, Or.inr rfl⟩

/-- Whoever is woken because a creation ends stands no longer. -/
theorem Drives.turns {service generation : Nat} {post : Post}
    (drives : Drives service generation post w w') (seating : w.Seating)
    (there : w.post? service generation = some post)
    (unsettled : post.stage.due?.isSome = true) :
    Pays id w.queue w'.queue w.standing w'.standing := by
  have less {stage : Stage} (reposts : Reposts service generation { post with stage } w w') :
      w'.standing ⊆ w.standing := by
    refine standing_subset (fun found _ => ⟨_, by rwa [← reposts.calls], Or.inr rfl⟩) ?_
    intro other c number seat post' _ _ there' unsettled'
    rcases reposts.cases there' with ⟨same, rfl, _⟩ | ⟨_, before⟩
    · exact ⟨post, by rw [same, there], unsettled⟩
    · exact ⟨post', before, unsettled'⟩
  cases drives with
  | prepares _ reposts _ queue => exact .of_subset queue (less reposts)
  | ends reposts wakes _ =>
      rcases wakes with ⟨added, queue, once, woken⟩
      refine ⟨less reposts, added, queue, by rwa [List.map_id], fun other member => ?_⟩
      rcases Seats.mem_calls_iff.mp ((woken other).mp member).1 with ⟨seat, taken⟩
      rcases seating.occupied there unsettled taken with ⟨c, found, same, waits⟩
      refine ⟨mem_standing_iff.mpr ⟨c, found, Or.inr ⟨generation, seat, post, waits,
        by rw [same, there], unsettled⟩⟩, fun still => ?_⟩
      rcases mem_standing_iff.mp still with ⟨c', found', stands⟩
      rw [reposts.calls, show w.calls[id other]? = some c from found] at found'
      cases found'
      rcases stands with fresh | ⟨number, _, post', waits', there', unsettled'⟩
      · rw [fresh] at waits
        cases waits
      · rw [waits] at waits'
        cases waits'
        rw [same, reposts.after] at there'
        cases there'
        cases unsettled'

/-- Whoever is woken by the turn of a call stands no longer. -/
theorem Moves.turns (moves : Moves call w w') (seating : w.Seating) :
    Pays id w.queue w'.queue w.standing w'.standing := by
  have restaged {v : World} {state : CallState} {c : Call} (same : SameStages w v)
      (recalls : Recalls call state v w') (found : w.calls[call]? = some c)
      (allowed : c.state = .fresh ∨ state.isOver = true) :
      Pays id w.queue w'.queue w.standing w'.standing := by
    refine .of_subset (recalls.queue.trans same.queue)
      (standing_subset (recalls.running same found allowed) ?_)
    intro other c generation place post' _ _ there unsettled
    rw [recalls.posts] at there
    rcases same.before there with ⟨post, before, stage⟩
    exact ⟨post, before, by rw [stage, unsettled]⟩
  cases moves with
  | unseen unseen =>
      refine .of_subset unseen.queue (standing_subset (fun found _ => ?_) ?_)
      · exact ⟨_, by rwa [← unseen.calls], Or.inr rfl⟩
      · intro other c generation place post' _ _ there unsettled
        rw [unseen.posts] at there
        exact ⟨post', there, unsettled⟩
  | begins found fresh absent reposts queue timers =>
      refine .of_subset queue (standing_subset (fun found _ => ?_) ?_)
      · exact ⟨_, by rwa [← reposts.calls], Or.inr rfl⟩
      · intro other c generation place post' found waiting there unsettled
        rcases seating.seated found waiting with ⟨post, before, _⟩
        rw [reposts.kept absent before] at there
        cases there
        exact ⟨_, before, unsettled⟩
  | sits found fresh waits reseats recalls =>
      exact restaged reseats.sameStages recalls found (Or.inl fresh)
  | ends found free finished recalls =>
      exact restaged (.refl w) recalls found (Or.inr finished)
  | leaves found waiting reseats finished recalls =>
      exact restaged reseats.sameStages recalls found (Or.inr finished)
  | drives _ _ there unsettled drives => exact drives.turns seating there unsettled

/-! ## Creations that may still start a timer -/

/-- The creation for which a call waits, if it waits for the host. -/
def host? (w : World) (c : Call) : Option (Nat × Nat) :=
  match c.state with
  | .waiting generation _ =>
    if (w.post? c.service generation).any (·.stage.isHosting) then some (c.service, generation)
    else none
  | _ => none

/-- The creations that wait for the host and for which some call waits. -/
def hosts (w : World) : Finset (Nat × Nat) :=
  (w.calls.filterMap w.host?).toFinset

theorem mem_hosts_iff {service generation : Nat} : (service, generation) ∈ w.hosts ↔
    ∃ (call : Nat) (c : Call) (place : Nat) (post : Post), w.calls[call]? = some c ∧
      c.service = service ∧ c.state = .waiting generation place ∧
        w.post? service generation = some post ∧ post.stage.isHosting = true := by
  rw [hosts, List.mem_toFinset, List.mem_filterMap]
  constructor
  · rintro ⟨c, member, hosted⟩
    rcases List.mem_iff_getElem?.mp member with ⟨call, found⟩
    cases state : c.state with
    | fresh | finished | aborted => simp [host?, state] at hosted
    | waiting number place =>
        simp only [host?, state, Option.any_eq_true, Option.ite_none_right_eq_some,
          Option.some.injEq, Prod.mk.injEq] at hosted
        rcases hosted with ⟨⟨post, there, hosting⟩, rfl, rfl⟩
        exact ⟨call, c, place, post, found, rfl, state, there, hosting⟩
  · rintro ⟨call, c, place, post, found, rfl, waiting, there, hosting⟩
    exact ⟨c, List.mem_of_getElem? found, by simp [host?, waiting, there, hosting]⟩

/-- Every call had a turn. -/
def Started (w : World) : Prop :=
  ∀ (call : Nat) (c : Call), w.calls[call]? = some c → c.state ≠ .fresh

/-- Nobody begins to wait, and no creation goes back to the host. -/
theorem hosts_subset
    (calls : ∀ {other : Nat} {c' : Call}, w'.calls[other]? = some c' → c'.state.isOver = false →
      w.calls[other]? = some c')
    (posts : ∀ {service generation : Nat} {post' : Post},
      w'.post? service generation = some post' → post'.stage.isHosting = true →
        ∃ post, w.post? service generation = some post ∧ post.stage.isHosting = true) :
    w'.hosts ⊆ w.hosts := by
  rintro ⟨service, generation⟩ member
  rcases mem_hosts_iff.mp member with ⟨other, c', place, post', found', about, waiting, there,
    hosting⟩
  rcases posts there hosting with ⟨post, before, hosting'⟩
  exact mem_hosts_iff.mpr ⟨other, c', place, post, calls found' (by rw [waiting]; rfl), about,
    waiting, before, hosting'⟩

/-- A creation that goes on starts a timer only when the host answered. -/
theorem Drives.timers {c : Call} {generation place : Nat} {post : Post}
    (drives : Drives c.service generation post w w') (found : w.calls[call]? = some c)
    (waiting : c.state = .waiting generation place)
    (there : w.post? c.service generation = some post) :
    Pays (fun timer => (timer.service, timer.generation)) w.timers w'.timers w.hosts w'.hosts ∧
      w'.calls = w.calls := by
  have less {stage : Stage} (beyond : stage.isHosting = false)
      (reposts : Reposts c.service generation { post with stage } w w') :
      w'.hosts ⊆ w.hosts := by
    refine hosts_subset (fun found' _ => by rwa [← reposts.calls]) ?_
    intro service number post' there' hosting'
    rcases reposts.cases there' with ⟨rfl, rfl, rfl⟩ | ⟨_, before⟩
    · rw [show stage.isHosting = true from hosting'] at beyond
      cases beyond
    · exact ⟨post', before, hosting'⟩
  cases drives with
  | ends reposts _ timers => exact ⟨.of_subset timers (less rfl reposts), reposts.calls⟩
  | prepares hosting reposts _ _ timers =>
      refine ⟨⟨less rfl reposts, _, timers, List.nodup_singleton _, fun timer member => ?_⟩,
        reposts.calls⟩
      rw [List.mem_singleton.mp member]
      refine ⟨mem_hosts_iff.mpr ⟨call, c, place, post, found, rfl, waiting, there, hosting⟩,
        fun still => ?_⟩
      rcases mem_hosts_iff.mp still with ⟨_, _, _, post', _, _, _, there', hosting'⟩
      rw [reposts.after] at there'
      cases there'
      cases hosting'

/-- A turn that is not the first one of a call starts a timer only when the host answered. -/
theorem Moves.timers (moves : Moves call w w') (started : w.Started) :
    Pays (fun timer => (timer.service, timer.generation)) w.timers w'.timers w.hosts w'.hosts ∧
      w'.Started := by
  have ended {v : World} {state : CallState} (same : SameStages w v)
      (recalls : Recalls call state v w') (finished : state.isOver = true) :
      Pays (fun timer => (timer.service, timer.generation)) w.timers w'.timers w.hosts w'.hosts ∧
        w'.Started := by
    refine ⟨.of_subset (recalls.timers.trans same.timers)
      (hosts_subset (fun found' running => ?_) ?_), fun other c' found' fresh => ?_⟩
    · rcases recalls.cases found' with ⟨rfl, _, _, rfl⟩ | ⟨_, there⟩
      · rw [show state.isOver = false from running] at finished
        cases finished
      · rwa [← same.calls]
    · intro service generation post' there hosting
      rw [recalls.posts] at there
      rcases same.before there with ⟨post, before, stage⟩
      exact ⟨post, before, by rw [stage, hosting]⟩
    · rcases recalls.cases found' with ⟨rfl, _, _, rfl⟩ | ⟨_, there⟩
      · rw [show state = .fresh from fresh] at finished
        cases finished
      · rw [same.calls] at there
        exact started other c' there fresh
  have kept (calls : w'.calls = w.calls) : w'.Started := by
    intro other c' found'
    rw [calls] at found'
    exact started other c' found'
  cases moves with
  | begins found fresh | sits found fresh => exact absurd fresh (started call _ found)
  | unseen unseen =>
      refine ⟨.of_subset unseen.timers (hosts_subset (fun found' _ => by rwa [← unseen.calls]) ?_),
        kept unseen.calls⟩
      intro service generation post' there hosting
      rw [unseen.posts] at there
      exact ⟨post', there, hosting⟩
  | ends found free finished recalls => exact ended (.refl w) recalls finished
  | leaves found waiting reseats finished recalls =>
      exact ended reseats.sameStages recalls finished
  | drives found waiting there _ drives =>
      rcases drives.timers found waiting there with ⟨paid, calls⟩
      exact ⟨paid, kept calls⟩

/-! ## Turns -/

/-- How many turns there may be before no call is left in the queue. -/
def workload (w : World) : Nat :=
  w.queue.length + w.standing.card

/-- How many timers there may be that have not fired. -/
def pendency (w : World) : Nat :=
  w.timers.length + w.hosts.card

theorem Moves.punctual (moves : Moves call w w') (punctual : w.Punctual) :
    w'.now = w.now ∧ w'.Punctual := by
  have same (now : w'.now = w.now) (timers : w'.timers = w.timers) :
      w'.now = w.now ∧ w'.Punctual := by
    refine ⟨now, fun timer member => ?_⟩
    rw [timers] at member
    rw [now]
    exact punctual timer member
  have more (now : w'.now = w.now) {timer : Timer} (later : w.now < timer.due)
      (timers : w'.timers = w.timers ++ [timer]) : w'.now = w.now ∧ w'.Punctual := by
    refine ⟨now, fun other member => ?_⟩
    rw [timers] at member
    rw [now]
    rcases List.mem_append.mp member with earlier | last
    · exact punctual other earlier
    · rw [List.mem_singleton.mp last]
      exact later
  cases moves with
  | unseen unseen => exact same unseen.now unseen.timers
  | begins _ _ _ reposts _ timers =>
      rcases timers with ⟨_, timers⟩ | ⟨later, timers⟩
      · exact same reposts.now timers
      · exact more reposts.now later timers
  | sits _ _ _ reseats recalls | leaves _ _ reseats _ recalls =>
      exact same (recalls.now.trans reseats.now) (recalls.timers.trans reseats.timers)
  | drives _ _ _ _ drives =>
      cases drives with
      | prepares _ reposts later _ timers => exact more reposts.now later timers
      | ends reposts _ timers => exact same reposts.now timers
  | ends _ _ _ recalls => exact same recalls.now recalls.timers

/-- What the turn of a call costs. -/
theorem Wakeful.spends (wakeful : Wakeful (some call) w) (sound : w.Sound)
    (punctual : w.Punctual) :
    (w.poll call).now = w.now ∧ (w.poll call).Punctual ∧
      (w.poll call).workload ≤ w.workload ∧
      (w.Started → (w.poll call).Started ∧ (w.poll call).pendency ≤ w.pendency) := by
  have moves := (poll_concludes sound wakeful.toSeating call).moves
  generalize w.poll call = w' at moves
  have kept : Wakeful (some call) w' ∧ w'.now = w.now ∧ w'.Punctual ∧
      Pays id w.queue w'.queue w.standing w'.standing ∧
      (w.Started → w'.Started ∧ Pays (fun timer => (timer.service, timer.generation))
        w.timers w'.timers w.hosts w'.hosts) := by
    induction moves with
    | refl =>
        exact ⟨wakeful, rfl, punctual, .of_subset rfl (Finset.Subset.refl _),
          fun started => ⟨started, .of_subset rfl (Finset.Subset.refl _)⟩⟩
    | tail _ move inductionHypothesis =>
        rcases inductionHypothesis with ⟨looked, now, late, turns, timers⟩
        rcases move.punctual late with ⟨now', late'⟩
        refine ⟨looked.moves move, now'.trans now, late',
          turns.trans (move.turns looked.toSeating), fun started => ?_⟩
        rcases timers started with ⟨started', paid⟩
        rcases move.timers started' with ⟨paid', started''⟩
        exact ⟨started'', paid.trans paid'⟩
  rcases kept with ⟨_, now, late, turns, timers⟩
  exact ⟨now, late, turns.le, fun started => ⟨(timers started).1, (timers started).2.le⟩⟩

theorem standing_card_le (w : World) : w.standing.card ≤ w.calls.length :=
  (Finset.card_filter_le _ _).trans_eq (Finset.card_range _)

/-- Every creation for which someone rests has a timer. -/
theorem Wakeful.hosts_card_le (wakeful : Wakeful none w) (idle : w.queue = []) :
    w.hosts.card ≤ w.timers.length := by
  have timed : w.hosts ⊆
      (w.timers.map fun timer => (timer.service, timer.generation)).toFinset := by
    rintro ⟨service, generation⟩ member
    rcases mem_hosts_iff.mp member with ⟨call, c, place, _, found, rfl, waiting, _, _⟩
    rcases wakeful.alert found (by rw [waiting]; rfl) nofun with queued | ⟨_, number, _, _, due,
      waiting', _, _, timer⟩
    · rw [idle] at queued
      cases queued
    · rw [waiting] at waiting'
      cases waiting'
      exact List.mem_toFinset.mpr (List.mem_map.mpr ⟨_, timer, rfl⟩)
  refine (Finset.card_le_card timed).trans ((List.toFinset_card_le _).trans_eq ?_)
  rw [List.length_map]

/-- All calls had turns when there is nothing left to do. -/
theorem Wakeful.started (wakeful : Wakeful none w) (idle : w.queue = []) : w.Started := by
  intro call c found fresh
  rcases wakeful.alert found (by rw [fresh]; rfl) nofun with queued | ⟨_, _, _, _, _, waiting, _⟩
  · rw [idle] at queued
    cases queued
  · rw [fresh] at waiting
    cases waiting

end World

end Terminal
end Workbench
