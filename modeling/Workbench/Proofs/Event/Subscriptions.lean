import Workbench.Proofs.Event.Run

namespace Workbench
namespace Event

/-!
# What subscriptions keep

A subscription is disposed or dropped at some time, and then its release is the next thing to be
done.  What the subscriptions of a run held when they were made, and which of them were released
since, is all there is to know of them (`Run.subscriptions_eq`), and the registrations of an emitter
are those that its outstanding subscriptions hold (`Run.registrations_eq`).
-/

namespace Held

/-- The number of the registration that is held. -/
def number? : Held → Option Nat
  | registration number => some number
  | custom .. => none

/-- The name under which the release of what is held is recorded. -/
def id? : Held → Option String
  | registration _ => none
  | custom id _ => some id

end Held

namespace Task

/-- The subscription that a task releases. -/
def release? : Task → Option Nat
  | release subscription => some subscription
  | _ => none

theorem release?_of_isAsked {task : Task} (asked : task.isAsked = true) : task.release? = none := by
  cases task with
  | act | register => rfl
  | call | release => cases asked

theorem filterMap_release?_of_isAsked {tasks : List Task}
    (asked : ∀ task ∈ tasks, task.isAsked = true) : tasks.filterMap release? = [] := by
  apply List.filterMap_eq_nil_iff.mpr
  intro task member
  exact release?_of_isAsked (asked task member)

theorem filterMap_release?_releases (subscriptions : List Nat) :
    (subscriptions.map release).filterMap release? = subscriptions := by
  rw [List.filterMap_map]
  exact List.filterMap_some

end Task

/-- What is left of what subscriptions hold when some of them are released. -/
def clear (released : List Nat) (subscriptions : List (Option Held)) : List (Option Held) :=
  subscriptions.mapIdx fun subscription held => if subscription ∈ released then none else held

theorem getElem?_clear (released : List Nat) (subscriptions : List (Option Held)) (place : Nat) :
    (clear released subscriptions)[place]? =
      subscriptions[place]?.map fun held => if place ∈ released then none else held :=
  List.getElem?_mapIdx

theorem clear_nil (subscriptions : List (Option Held)) :
    clear [] subscriptions = subscriptions := by
  apply List.ext_getElem?
  intro place
  simp [getElem?_clear]

theorem clear_singleton (subscription : Nat) (subscriptions : List (Option Held)) :
    clear [subscription] subscriptions = subscriptions.set subscription none := by
  apply List.ext_getElem?
  intro place
  by_cases same : subscription = place
  · subst same
    simp only [getElem?_clear, List.mem_singleton, if_pos, List.getElem?_set_self']
    rfl
  · have other : ¬place = subscription := fun equal => same equal.symm
    simp only [getElem?_clear, List.mem_singleton, if_neg other, Option.map_id',
      List.getElem?_set_ne same]

/-- The release of what holds nothing changes nothing. -/
theorem clear_of_free {subscriptions : List (Option Held)} {subscription : Nat}
    (free : subscriptions[subscription]?.join = none) :
    clear [subscription] subscriptions = subscriptions := by
  apply List.ext_getElem?
  intro place
  rw [getElem?_clear]
  by_cases same : place = subscription
  · subst same
    rcases found : subscriptions[place]? with _ | held
    · rfl
    · rw [found] at free
      simp [show held = none from free]
  · simp [same]

theorem clear_append_released (first second : List Nat) (subscriptions : List (Option Held)) :
    clear (first ++ second) subscriptions = clear second (clear first subscriptions) := by
  apply List.ext_getElem?
  intro place
  simp only [getElem?_clear, Option.map_map, List.mem_append]
  congr 1
  funext held
  by_cases earlier : place ∈ first <;> by_cases later : place ∈ second <;> simp [earlier, later]

/-- What is made later is not released yet. -/
theorem clear_append {released : List Nat} {subscriptions : List (Option Held)}
    (placed : ∀ subscription ∈ released, subscription < subscriptions.length)
    (more : List (Option Held)) :
    clear released (subscriptions ++ more) = clear released subscriptions ++ more := by
  have unreleased (place : Nat) : place + subscriptions.length ∉ released := by
    intro member
    have within := placed _ member
    omega
  unfold clear
  rw [List.mapIdx_append]
  simp only [unreleased, if_false]
  congr 1
  exact List.mapIdx_eq_iff.mpr fun place => by simp

theorem filter_middle {α : Type} {keep : α → Bool} {earlier later : List α} {one : α}
    (others : ∀ other ∈ earlier ++ later, keep other = true) (gone : keep one = false) :
    (earlier ++ one :: later).filter keep = earlier ++ later := by
  rw [List.filter_append, List.filter_cons_of_neg (by simp [gone]), ← List.filter_append]
  exact List.filter_eq_self.mpr others

/-- Taking a registration back takes away that one alone. -/
theorem Emitter.Numbered.unsubscribe_eq {α : Type} {e : Emitter α} (numbered : e.Numbered)
    {number : Nat} (registered : number ∈ e.registrations.map Prod.fst) :
    ∃ earlier own later, e.registrations = earlier ++ own :: later ∧ own.1 = number ∧
      e.unsubscribe number = { e with registrations := earlier ++ later } := by
  rcases List.mem_map.mp registered with ⟨own, member, rfl⟩
  rcases List.append_of_mem member with ⟨earlier, later, split⟩
  refine ⟨earlier, own, later, split, rfl, ?_⟩
  have apart := numbered.once
  rw [split, List.map_append, List.map_cons, List.nodup_middle, ← List.map_append] at apart
  rw [Emitter.unsubscribe, split, filter_middle _ (by simp)]
  intro other among
  apply decide_eq_true
  intro same
  exact (List.nodup_cons.mp apart).1 (same ▸ List.mem_map_of_mem among)

namespace Switchboard

variable {arrange : Arrangement} {s s' : Switchboard}

/-- The numbers of the registrations that subscriptions hold. -/
def numbers (subscriptions : List (Option Held)) : List Nat :=
  subscriptions.filterMap (·.bind Held.number?)

/-- The subscriptions whose release is still to be done. -/
def pending (s : Switchboard) : List Nat :=
  s.agenda.filterMap Task.release?

/-! ## What a task does to subscriptions -/

/-- What a task disposes or drops is released next. -/
theorem Performs.front {task : Task} (performs : Performs arrange s task s') :
    (s.endedBy task).map Task.release <+: s'.agenda := by
  cases performs with
  | defers =>
      rw [List.append_assoc]
      exact List.prefix_append _ _
  | makes | registers => exact List.prefix_append _ _
  | fires there spared =>
      rw [spared]
      exact List.nil_prefix
  | calls | unregisters | releases | spares | forsakes => exact List.nil_prefix

theorem Performs.pending {task : Task} (performs : Performs arrange s task s') :
    s'.pending = s.endedBy task ++ s.pending := by
  cases performs with
  | defers asked named more light =>
      simp only [Switchboard.pending, List.filterMap_append, Task.filterMap_release?_releases,
        Task.filterMap_release?_of_isAsked more, List.append_nil]
  | makes | registers =>
      simp only [Switchboard.pending, List.filterMap_append, Task.filterMap_release?_releases]
  | @fires action value fired e there spared =>
      have calls : ((arrange s.events.length e.registrations).map
          fun r => Task.call s.events.length r.1 r.2 fired).filterMap Task.release? = [] := by
        apply List.filterMap_eq_nil_iff.mpr
        intro task member
        rcases List.mem_map.mp member with ⟨r, _, rfl⟩
        rfl
      simp only [Switchboard.pending, List.filterMap_append, calls, spared]
  | calls | releases =>
      simp only [Switchboard.pending, List.filterMap_append,
        Task.filterMap_release?_of_isAsked (Task.isAsked_acts _ _)]
      rfl
  | unregisters | spares | forsakes => rfl

/-- What is released holds nothing afterwards, and otherwise there are only more subscriptions. -/
theorem Performs.subscriptions {task : Task} (performs : Performs arrange s task s') :
    ∃ made, s'.subscriptions = clear task.release?.toList s.subscriptions ++ made := by
  have kept {task : Task} (asked : task.isAsked = true) :
      clear task.release?.toList s.subscriptions = s.subscriptions := by
    rw [Task.release?_of_isAsked asked]
    exact clear_nil _
  have cleared (subscription : Nat) :
      clear (Task.release subscription).release?.toList s.subscriptions =
        s.subscriptions.set subscription none :=
    clear_singleton _ _
  cases performs with
  | defers asked =>
      refine ⟨[], ?_⟩
      rw [kept asked, List.append_nil]
  | makes | registers =>
      rw [kept rfl]
      exact ⟨_, rfl⟩
  | fires | forsakes =>
      refine ⟨[], ?_⟩
      rw [kept rfl, List.append_nil]
  | calls =>
      refine ⟨[], ?_⟩
      rw [List.append_nil]
      exact (clear_nil _).symm
  | unregisters | releases =>
      refine ⟨[], ?_⟩
      rw [cleared, List.append_nil]
  | @spares subscription free =>
      refine ⟨[], ?_⟩
      rw [List.append_nil]
      exact (clear_of_free free).symm

/-- Only subscriptions that were made get names. -/
theorem Performs.placed {task : Task} (performs : Performs arrange s task s')
    (placed : ∀ entry ∈ s.table, entry.2 < s.subscriptions.length) :
    ∀ entry ∈ s'.table, entry.2 < s'.subscriptions.length := by
  cases performs with
  | defers asked named =>
      intro entry member
      exact placed entry (named entry member)
  | makes _ named | registers _ named =>
      intro entry member
      rw [List.length_append, List.length_singleton]
      rcases named entry member with old | new
      · exact Nat.lt_succ_of_lt (placed entry old)
      · rw [new]
        exact Nat.lt_succ_self _
  | unregisters | releases =>
      intro entry member
      rw [List.length_set]
      exact placed entry member
  | fires | calls | spares | forsakes => exact placed

/-- The release of a subscription is told if it holds what is told of. -/
theorem Performs.told {task : Task} (performs : Performs arrange s task s') (subscription : Nat)
    (id : String) :
    s'.history.count (.released subscription id) =
      s.history.count (.released subscription id) +
        if task.release? = some subscription ∧
          s.subscriptions[subscription]?.join.bind Held.id? = some id then 1 else 0 := by
  have quiet {task : Task} (asked : task.isAsked = true) : ¬(task.release? = some subscription ∧
      s.subscriptions[subscription]?.join.bind Held.id? = some id) := by
    rw [Task.release?_of_isAsked asked]
    rintro ⟨same, _⟩
    cases same
  cases performs with
  | defers asked => rw [if_neg (quiet asked), Nat.add_zero]
  | makes | registers | fires | forsakes => rw [if_neg (quiet rfl), Nat.add_zero]
  | calls => simp [Task.release?]
  | @unregisters released number held =>
      by_cases same : released = subscription
      · simp [Task.release?, same ▸ held, Held.id?]
      · simp [Task.release?, same]
  | @releases released id' reaction held =>
      by_cases same : released = subscription
      · simp only [Task.release?, same ▸ held, List.count_append, List.count_singleton, same,
          Option.join_some, Option.bind_some, Held.id?]
        simp
      · simp [Task.release?, same, List.count_append]
  | @spares released free =>
      by_cases same : released = subscription
      · simp [Task.release?, same ▸ free]
      · simp [Task.release?, same]

/-! ## What a task does to registrations -/

theorem numbers_set {subscriptions : List (Option Held)} {place : Nat} {held : Option Held}
    (found : subscriptions[place]? = some held) :
    ∃ earlier later,
      numbers subscriptions = earlier ++ (held.bind Held.number?).toList ++ later ∧
        numbers (subscriptions.set place none) = earlier ++ later := by
  induction subscriptions generalizing place with
  | nil => cases found
  | cons first rest inductionHypothesis =>
      have numbers_cons (first : Option Held) (rest : List (Option Held)) :
          numbers (first :: rest) = (first.bind Held.number?).toList ++ numbers rest := by
        rw [numbers, List.filterMap_cons]
        cases first.bind Held.number? <;> rfl
      cases place with
      | zero =>
          cases found
          exact ⟨[], numbers rest, numbers_cons _ _, rfl⟩
      | succ place =>
          rcases inductionHypothesis found with ⟨earlier, later, all, left⟩
          refine ⟨(first.bind Held.number?).toList ++ earlier, later, ?_, ?_⟩
          · rw [numbers_cons, all]
            simp only [List.append_assoc]
          · rw [List.set_cons_succ, numbers_cons, left]
            simp only [List.append_assoc]

/-- What is registered is what subscriptions hold, and every task keeps it so. -/
theorem Performs.registrations {task : Task} (performs : Performs arrange s task s')
    (numbered : ∀ e, s.emitter = some e → e.Numbered)
    (same : ∀ e, s.emitter = some e → e.registrations.map Prod.fst = numbers s.subscriptions) :
    ∀ e, s'.emitter = some e → e.registrations.map Prod.fst = numbers s'.subscriptions := by
  cases performs with
  | defers | fires | calls | spares => exact same
  | @makes action value table held foreign =>
      intro e there
      have nothing : numbers [held] = [] := by
        cases held with
        | none => rfl
        | some held =>
            cases held with
            | registration number => exact absurd rfl (foreign number)
            | custom => rfl
      rw [numbers, List.filterMap_append]
      show _ = numbers s.subscriptions ++ numbers [held]
      rw [nothing, List.append_nil]
      exact same e there
  | @registers name listener table e there =>
      intro e' there'
      cases there'
      rw [numbers, List.filterMap_append]
      show _ = numbers s.subscriptions ++ [e.next]
      rw [← same e there]
      exact List.map_append
  | @unregisters subscription number held =>
      intro e' there'
      rcases Option.map_eq_some_iff.mp there' with ⟨e, there, rfl⟩
      rcases numbers_set held with ⟨earlier, later, all, left⟩
      have all : e.registrations.map Prod.fst = earlier ++ number :: later := by
        rw [same e there, all]
        simp [Held.number?]
      have apart := (numbered e there).once
      rw [all] at apart
      show _ = numbers (s.subscriptions.set subscription none)
      rw [left]
      calc (e.unsubscribe number).registrations.map Prod.fst
          = (e.registrations.map Prod.fst).filter (· ≠ number) := by
            rw [List.filter_map]
            rfl
        _ = (earlier ++ number :: later).filter (· ≠ number) := by rw [all]
        _ = earlier ++ later := by
            apply filter_middle _ (by simp)
            intro other member
            apply decide_eq_true
            rintro rfl
            exact (List.nodup_cons.mp (List.nodup_middle.mp apart)).1 member
  | @releases subscription id reaction held =>
      intro e there
      rcases numbers_set held with ⟨earlier, later, all, left⟩
      show _ = numbers (s.subscriptions.set subscription none)
      rw [same e there, all, left]
      simp [Held.number?]
  | forsakes =>
      intro e there
      cases there

/-- A release takes back what the subscription has registered, and nothing else. -/
theorem Performs.takes {subscription : Nat}
    (performs : Performs arrange s (.release subscription) s') {e : Emitter Listener}
    (there : s.emitter = some e) (numbered : e.Numbered)
    (same : e.registrations.map Prod.fst = numbers s.subscriptions) :
    ∃ earlier own later, e.registrations = earlier ++ own ++ later ∧
      own.map Prod.fst = (s.subscriptions[subscription]?.join.bind Held.number?).toList ∧
      s'.emitter = some { e with registrations := earlier ++ later } := by
  have spared (nothing : s.subscriptions[subscription]?.join.bind Held.number? = none) :
      ∃ earlier own later, e.registrations = earlier ++ own ++ later ∧
        own.map Prod.fst = (s.subscriptions[subscription]?.join.bind Held.number?).toList ∧
        s.emitter = some { e with registrations := earlier ++ later } := by
    refine ⟨e.registrations, [], [], ?_, ?_, ?_⟩
    · rw [List.append_nil, List.append_nil]
    · rw [nothing]
      rfl
    · rw [there, List.append_nil]
  cases performs with
  | defers asked => cases asked
  | @unregisters _ number held =>
      have registered : number ∈ e.registrations.map Prod.fst := by
        rw [same]
        exact List.mem_filterMap.mpr ⟨_, List.mem_of_getElem? held, rfl⟩
      rcases numbered.unsubscribe_eq registered with ⟨earlier, own, later, split, own_eq, left⟩
      refine ⟨earlier, [own], later, ?_, ?_, ?_⟩
      · rw [split, List.append_assoc]
        rfl
      · rw [held, List.map_singleton, own_eq]
        rfl
      · show s.emitter.map (·.unsubscribe number) = _
        rw [there, Option.map_some, left]
  | releases held =>
      apply spared
      rw [held]
      rfl
  | spares free =>
      apply spared
      rw [free]
      rfl

/-- Whatever is not a release takes no registration back, unless the emitter is given up. -/
theorem Performs.leaves {task : Task} (performs : Performs arrange s task s')
    (unreleased : task.release? = none) {e' : Emitter Listener} (there' : s'.emitter = some e') :
    ∃ e, s.emitter = some e ∧ e.registrations <+: e'.registrations := by
  cases performs with
  | defers | makes | fires | calls => exact ⟨e', there', List.prefix_rfl⟩
  | registers there =>
      cases there'
      exact ⟨_, there, List.prefix_append _ _⟩
  | unregisters | releases | spares => cases unreleased
  | forsakes => cases there'

/-- Registrations get the next numbers, one after the other. -/
theorem Performs.given {task : Task} (performs : Performs arrange s task s')
    {e' : Emitter Listener} (there' : s'.emitter = some e') :
    ∃ e given, s.emitter = some e ∧ e'.next = e.next + given ∧
      numbers (s'.subscriptions.drop s.subscriptions.length) = List.range' e.next given := by
  have kept {e : Emitter Listener} (there : s.emitter = some e) (next : e'.next = e.next)
      (unmade : numbers (s'.subscriptions.drop s.subscriptions.length) = []) :
      ∃ e given, s.emitter = some e ∧ e'.next = e.next + given ∧
        numbers (s'.subscriptions.drop s.subscriptions.length) = List.range' e.next given :=
    ⟨e, 0, there, next, unmade⟩
  have beyond {subscriptions : List (Option Held)}
      (length : subscriptions.length ≤ s.subscriptions.length) :
      numbers (subscriptions.drop s.subscriptions.length) = [] := by
    rw [List.drop_eq_nil_of_le length]
    rfl
  cases performs with
  | defers | fires | calls | spares => exact kept there' rfl (beyond (Nat.le_refl _))
  | @makes action value table held foreign =>
      apply kept there' rfl
      rw [List.drop_left]
      cases held with
      | none => rfl
      | some held =>
          cases held with
          | registration number => exact absurd rfl (foreign number)
          | custom => rfl
  | @registers name listener table e there =>
      cases there'
      refine ⟨e, 1, there, rfl, ?_⟩
      rw [List.drop_left]
      rfl
  | @unregisters subscription number held =>
      rcases Option.map_eq_some_iff.mp there' with ⟨e, there, rfl⟩
      exact kept there rfl (beyond (Nat.le_of_eq List.length_set))
  | releases => exact kept there' rfl (beyond (Nat.le_of_eq List.length_set))
  | forsakes => cases there'

/-- The release of what is no registration of an emitter's changes nothing but what it holds, and
what is recorded of it. -/
theorem release_of_none (gone : s.emitter = none) {subscription : Nat}
    (untold : s.subscriptions[subscription]?.join.bind Held.id? = none) :
    s.release subscription =
      { s with subscriptions := clear [subscription] s.subscriptions } := by
  unfold release
  dsimp only
  split
  · rw [clear_singleton, unregister, gone]
    rfl
  · rename_i id reaction held
    rw [held] at untold
    cases untold
  · rename_i unregistered foreign
    rw [clear_of_free]
    rcases found : s.subscriptions[subscription]? with _ | held | held
    · rfl
    · rfl
    · cases held with
      | registration number => exact absurd found (unregistered number)
      | custom id reaction => exact absurd found (foreign id reaction)

/-! ## What a move does to subscriptions -/

/-- What the subscriptions hold that a move makes. -/
def madeAt (arrange : Arrangement) (s : Switchboard) (move : Move) : List (Option Held) :=
  (s.move arrange move).subscriptions.drop s.subscriptions.length

/-- The subscriptions that a move disposes or drops. -/
def endedAt (s : Switchboard) : Move → List Nat
  | .ask _ => []
  | .work =>
    match s.agenda with
    | [] => []
    | task :: _ => s.endedBy task
  | .giveUp => s.table.map Prod.snd

/-- The subscription that a move releases. -/
def releasedAt (s : Switchboard) : Move → List Nat
  | .work => (s.agenda.head?.bind Task.release?).toList
  | _ => []

theorem endedAt_of_nil (empty : s.agenda = []) : s.endedAt .work = [] := by
  rw [endedAt, empty]

theorem endedAt_of_cons {task : Task} {rest : List Task} (agenda : s.agenda = task :: rest) :
    s.endedAt .work = s.endedBy task := by
  rw [endedAt, agenda]

theorem releasedAt_of_nil (empty : s.agenda = []) : s.releasedAt .work = [] := by
  rw [releasedAt, empty]
  rfl

theorem releasedAt_of_cons {task : Task} {rest : List Task} (agenda : s.agenda = task :: rest) :
    s.releasedAt .work = task.release?.toList := by
  rw [releasedAt, agenda]
  rfl

/-- What is released was to be released. -/
theorem mem_pending_of_releasedAt {move : Move} {subscription : Nat}
    (released : subscription ∈ s.releasedAt move) : subscription ∈ s.pending := by
  cases move with
  | ask | giveUp => exact absurd released List.not_mem_nil
  | work =>
      cases agenda : s.agenda with
      | nil =>
          rw [releasedAt_of_nil agenda] at released
          exact absurd released List.not_mem_nil
      | cons task rest =>
          rw [releasedAt_of_cons agenda, Option.mem_toList] at released
          rw [pending, agenda, List.filterMap_cons, released]
          exact List.mem_cons_self

theorem move_front (s : Switchboard) (move : Move) :
    (s.endedAt move).map Task.release <+: (s.move arrange move).agenda := by
  cases move with
  | ask => exact List.nil_prefix
  | work =>
      cases agenda : s.agenda with
      | nil =>
          rw [endedAt_of_nil agenda]
          exact List.nil_prefix
      | cons task rest =>
          rw [endedAt_of_cons agenda]
          exact (step_performs arrange agenda).front
  | giveUp =>
      rw [endedAt, List.map_map]
      exact List.prefix_append _ _

/-- What is disposed or dropped is what is released afterwards. -/
theorem move_pending (arrange : Arrangement) (s : Switchboard) (move : Move) :
    (s.releasedAt move ++ (s.move arrange move).pending).Perm (s.pending ++ s.endedAt move) := by
  cases move with
  | ask action =>
      have same : ({ s with agenda := s.agenda ++ [.act action 0] } : Switchboard).pending =
          s.pending := by
        rw [pending, List.filterMap_append]
        exact List.append_nil _
      show (({ s with agenda := s.agenda ++ [.act action 0] } : Switchboard).pending).Perm _
      rw [same, endedAt, List.append_nil]
  | work =>
      cases agenda : s.agenda with
      | nil =>
          rw [releasedAt_of_nil agenda, endedAt_of_nil agenda, List.append_nil, Switchboard.move,
            step_of_nil agenda, List.nil_append]
      | cons task rest =>
          have performed := (step_performs arrange agenda).pending
          have before : s.pending = task.release?.toList ++ rest.filterMap Task.release? := by
            rw [pending, agenda, List.filterMap_cons]
            cases task.release? <;> rfl
          rw [releasedAt_of_cons agenda, endedAt_of_cons agenda, Switchboard.move, performed,
            before, List.append_assoc]
          exact List.perm_append_comm.append_left _
  | giveUp =>
      have after : s.dropAll.pending = s.table.map Prod.snd ++ s.pending := by
        have releases := Task.filterMap_release?_releases (s.table.map Prod.snd)
        rw [List.map_map] at releases
        show (_ ++ s.agenda).filterMap _ = _
        rw [List.filterMap_append]
        exact congrArg (· ++ s.pending) releases
      show s.dropAll.pending.Perm _
      rw [after]
      exact List.perm_append_comm

theorem move_subscriptions (s : Switchboard) (move : Move) :
    (s.move arrange move).subscriptions =
      clear (s.releasedAt move) s.subscriptions ++ s.madeAt arrange move := by
  have length (released : List Nat) :
      (clear released s.subscriptions).length = s.subscriptions.length := by
    rw [clear, List.length_mapIdx]
  -- What is made is what comes after the subscriptions there were.
  suffices made : ∃ made, (s.move arrange move).subscriptions =
      clear (s.releasedAt move) s.subscriptions ++ made by
    rcases made with ⟨made, subscriptions⟩
    rw [madeAt, subscriptions, ← length (s.releasedAt move), List.drop_left]
  have nothing (unreleased : s.releasedAt move = [])
      (same : (s.move arrange move).subscriptions = s.subscriptions) :
      ∃ made, (s.move arrange move).subscriptions =
        clear (s.releasedAt move) s.subscriptions ++ made := by
    refine ⟨[], ?_⟩
    rw [same, unreleased, clear_nil, List.append_nil]
  cases move with
  | ask | giveUp => exact nothing rfl rfl
  | work =>
      cases agenda : s.agenda with
      | nil =>
          apply nothing (releasedAt_of_nil agenda)
          rw [Switchboard.move, step_of_nil agenda]
      | cons task rest =>
          rw [releasedAt_of_cons agenda]
          exact (step_performs arrange agenda).subscriptions

theorem move_placed (placed : ∀ entry ∈ s.table, entry.2 < s.subscriptions.length) (move : Move) :
    ∀ entry ∈ (s.move arrange move).table,
      entry.2 < (s.move arrange move).subscriptions.length := by
  cases move with
  | ask => exact placed
  | work =>
      cases agenda : s.agenda with
      | nil => rwa [Switchboard.move, step_of_nil agenda]
      | cons task rest => exact (step_performs arrange agenda).placed placed
  | giveUp =>
      intro entry member
      exact absurd member List.not_mem_nil

theorem named_of_endedAt {move : Move} {subscription : Nat}
    (ended : subscription ∈ s.endedAt move) : ∃ name, (name, subscription) ∈ s.table := by
  cases move with
  | ask => exact absurd ended List.not_mem_nil
  | work =>
      cases agenda : s.agenda with
      | nil =>
          rw [endedAt_of_nil agenda] at ended
          exact absurd ended List.not_mem_nil
      | cons task rest =>
          rw [endedAt_of_cons agenda] at ended
          exact named_of_endedBy ended
  | giveUp =>
      rcases List.mem_map.mp ended with ⟨entry, member, rfl⟩
      exact ⟨entry.1, member⟩

theorem move_registrations (numbered : ∀ e, s.emitter = some e → e.Numbered)
    (same : ∀ e, s.emitter = some e → e.registrations.map Prod.fst = numbers s.subscriptions)
    (move : Move) :
    ∀ e, (s.move arrange move).emitter = some e →
      e.registrations.map Prod.fst = numbers (s.move arrange move).subscriptions := by
  cases move with
  | ask | giveUp => exact same
  | work =>
      cases agenda : s.agenda with
      | nil => rwa [Switchboard.move, step_of_nil agenda]
      | cons task rest => exact (step_performs arrange agenda).registrations numbered same

theorem move_leaves {move : Move} (unreleased : s.releasedAt move = []) {e' : Emitter Listener}
    (there' : (s.move arrange move).emitter = some e') :
    ∃ e, s.emitter = some e ∧ e.registrations <+: e'.registrations := by
  cases move with
  | ask | giveUp => exact ⟨e', there', List.prefix_rfl⟩
  | work =>
      cases agenda : s.agenda with
      | nil =>
          rw [Switchboard.move, step_of_nil agenda] at there'
          exact ⟨e', there', List.prefix_rfl⟩
      | cons task rest =>
          rw [releasedAt_of_cons agenda, Option.toList_eq_nil_iff] at unreleased
          exact (step_performs arrange agenda).leaves unreleased there'

theorem move_given {move : Move} {e' : Emitter Listener}
    (there' : (s.move arrange move).emitter = some e') :
    ∃ e given, s.emitter = some e ∧ e'.next = e.next + given ∧
      numbers (s.madeAt arrange move) = List.range' e.next given := by
  have unmade (same : (s.move arrange move).subscriptions = s.subscriptions) :
      numbers (s.madeAt arrange move) = [] := by
    rw [madeAt, same, List.drop_length]
    rfl
  cases move with
  | ask | giveUp => exact ⟨e', 0, there', rfl, unmade rfl⟩
  | work =>
      cases agenda : s.agenda with
      | nil =>
          have idle : s.move arrange .work = s := step_of_nil agenda
          rw [idle] at there'
          exact ⟨e', 0, there', rfl, unmade (congrArg Switchboard.subscriptions idle)⟩
      | cons task rest => exact (step_performs arrange agenda).given there'

theorem move_told (s : Switchboard) (move : Move) (subscription : Nat) (id : String) :
    (s.move arrange move).history.count (.released subscription id) =
      s.history.count (.released subscription id) +
        if subscription ∈ s.releasedAt move ∧
          s.subscriptions[subscription]?.join.bind Held.id? = some id then 1 else 0 := by
  cases move with
  | ask | giveUp => simp [Switchboard.move, dropAll, push, releasedAt]
  | work =>
      cases agenda : s.agenda with
      | nil => simp [Switchboard.move, step_of_nil agenda, releasedAt_of_nil agenda]
      | cons task rest =>
          rw [Switchboard.move, (step_performs arrange agenda).told, releasedAt_of_cons agenda]
          simp only [Option.mem_toList]

end Switchboard

namespace Run

open Switchboard

/-- What the subscriptions of a run held when they were made, the first one first. -/
def made (run : Run) : List (Option Held) :=
  run.collect (madeAt run.arrange)

/-- The subscriptions that were disposed or dropped, as often as they were. -/
def ended (run : Run) : List Nat :=
  run.collect endedAt

/-- The subscriptions whose releases are done, as often as they are. -/
def released (run : Run) : List Nat :=
  run.collect releasedAt

/-- What a subscription held when it was made. -/
def holds (run : Run) (subscription : Nat) : Option Held :=
  run.made[subscription]?.join

/-- The registration that a subscription was made for. -/
def number? (run : Run) (subscription : Nat) : Option Nat :=
  (run.holds subscription).bind Held.number?

/-- The subscriptions that were made for registrations and are not released. -/
def outstanding (run : Run) : List Nat :=
  (List.range run.made.length).filter fun subscription =>
    (run.number? subscription).isSome ∧ subscription ∉ run.released

theorem made_step (run : Run) (move : Move) :
    (run.step move).made = run.made ++ run.board.madeAt run.arrange move :=
  run.collect_step _ move

theorem ended_step (run : Run) (move : Move) :
    (run.step move).ended = run.ended ++ run.board.endedAt move :=
  run.collect_step _ move

theorem released_step (run : Run) (move : Move) :
    (run.step move).released = run.released ++ run.board.releasedAt move :=
  run.collect_step _ move

theorem released_extend (run : Run) (more : List Move) :
    run.released <+: (run.extend more).released := by
  rw [released, released, collect, collect, extend, Switchboard.collect_append]
  exact List.prefix_append _ _

/-! ## The books of a run -/

/-- What is known of the subscriptions of a run. -/
structure Kept (run : Run) : Prop where
  subscriptions : run.board.subscriptions = clear run.released run.made
  ended : run.ended.Perm (run.released ++ run.board.pending)
  made : ∀ subscription ∈ run.ended, subscription < run.made.length
  named : ∀ entry ∈ run.board.table, entry.2 < run.made.length

theorem Kept.length {run : Run} (kept : run.Kept) :
    run.board.subscriptions.length = run.made.length := by
  rw [kept.subscriptions, clear, List.length_mapIdx]

/-- What is released was made before. -/
theorem Kept.released_lt {run : Run} (kept : run.Kept) (move : Move) :
    ∀ subscription ∈ run.released ++ run.board.releasedAt move,
      subscription < run.made.length := by
  intro subscription member
  apply kept.made
  apply kept.ended.mem_iff.mpr
  rcases List.mem_append.mp member with earlier | now
  · exact List.mem_append_left _ earlier
  · exact List.mem_append_right _ (mem_pending_of_releasedAt now)

theorem kept (run : Run) : run.Kept := by
  induction run using Run.induction with
  | start arrange fair =>
      constructor
      · rfl
      · exact List.Perm.refl _
      · intro subscription ended
        exact absurd ended List.not_mem_nil
      · intro entry member
        exact absurd member List.not_mem_nil
  | step run move kept =>
      have longer : run.made.length ≤ (run.step move).made.length := by
        rw [made_step, List.length_append]
        exact Nat.le_add_right _ _
      have subscriptions : (run.step move).board.subscriptions =
          clear (run.step move).released (run.step move).made := by
        rw [board_step, move_subscriptions, kept.subscriptions, released_step, made_step,
          clear_append (kept.released_lt move), clear_append_released]
      constructor
      · exact subscriptions
      · rw [ended_step, released_step, board_step]
        have pending := run.board.move_pending run.arrange move
        apply (kept.ended.append_right _).trans
        rw [List.append_assoc, List.append_assoc]
        exact pending.symm.append_left _
      · intro subscription member
        rw [ended_step] at member
        rcases List.mem_append.mp member with earlier | now
        · exact Nat.lt_of_lt_of_le (kept.made _ earlier) longer
        · rcases named_of_endedAt now with ⟨name, named⟩
          exact Nat.lt_of_lt_of_le (kept.named _ named) longer
      · have length : (run.step move).board.subscriptions.length = (run.step move).made.length := by
          rw [subscriptions, clear, List.length_mapIdx]
        rw [← length, board_step]
        apply move_placed
        rw [kept.length]
        exact kept.named

/-- What a subscription holds: what it held when it was made, until it is released. -/
theorem held_eq (run : Run) (subscription : Nat) :
    run.board.subscriptions[subscription]?.join =
      if subscription ∈ run.released then none else run.holds subscription := by
  rw [run.kept.subscriptions, getElem?_clear, holds]
  cases run.made[subscription]? with
  | none => simp
  | some held => rfl

theorem isDisposed_iff (run : Run) (subscription : Nat) :
    run.board.isDisposed subscription = true ↔
      subscription ∈ run.released ∨ run.holds subscription = none := by
  have disposed : run.board.isDisposed subscription = true ↔
      run.board.subscriptions[subscription]?.join = none := by
    unfold isDisposed
    rcases run.board.subscriptions[subscription]? with _ | _ | held <;> simp
  rw [disposed, held_eq]
  by_cases released : subscription ∈ run.released <;> simp [released]

/-- The release of what is held is told once, as soon as it is released. -/
theorem told (run : Run) (subscription : Nat) (id : String) :
    run.board.history.count (.released subscription id) =
      if (run.holds subscription).bind Held.id? = some id ∧ subscription ∈ run.released then 1
      else 0 := by
  induction run using Run.induction with
  | start arrange fair =>
      rw [if_neg]
      · rfl
      · rintro ⟨_, released⟩
        exact absurd released List.not_mem_nil
  | step run move inductionHypothesis =>
      rw [board_step, move_told, inductionHypothesis, held_eq, released_step]
      by_cases placed : subscription < run.made.length
      · have holds : (run.step move).holds subscription = run.holds subscription := by
          rw [Run.holds, made_step, List.getElem?_append_left placed, Run.holds]
        rw [holds]
        by_cases earlier : subscription ∈ run.released
        · simp [earlier]
        · simp only [earlier, List.mem_append, and_false, if_false, false_or, Nat.zero_add]
          simp only [and_comm]
      · have unreleased (released : subscription ∈ run.released ++ run.board.releasedAt move) :
            False := placed (run.kept.released_lt move subscription released)
        rw [if_neg, if_neg, if_neg]
        · exact fun told => unreleased told.2
        · exact fun told => unreleased (List.mem_append_right _ told.1)
        · exact fun told => unreleased (List.mem_append_left _ told.2)

/-! ## Who is registered -/

theorem clear_eq (released : List Nat) (made : List (Option Held)) :
    clear released made = (List.range made.length).map fun subscription =>
      if subscription ∈ released then none else made[subscription]?.join := by
  apply List.ext_getElem?
  intro place
  rw [getElem?_clear, List.getElem?_map]
  by_cases within : place < made.length
  · rw [List.getElem?_range within, Option.map_some, List.getElem?_eq_getElem within]
    rfl
  · have beyond : made.length ≤ place := Nat.le_of_not_lt within
    rw [List.getElem?_eq_none beyond, List.getElem?_eq_none (by rwa [List.length_range])]
    rfl

theorem registrations_held (run : Run) : ∀ e, run.board.emitter = some e →
    e.registrations.map Prod.fst = numbers run.board.subscriptions := by
  induction run using Run.induction with
  | start arrange fair =>
      intro e there
      cases there
      rfl
  | step run move inductionHypothesis =>
      rw [board_step]
      exact move_registrations run.numbered inductionHypothesis move

/-- Who is registered are the outstanding subscriptions' listeners. -/
theorem registrations_eq (run : Run) : ∀ e, run.board.emitter = some e →
    e.registrations.map Prod.fst = run.outstanding.filterMap run.number? := by
  intro e there
  rw [run.registrations_held e there, run.kept.subscriptions, clear_eq, numbers,
    List.filterMap_map, outstanding, List.filterMap_filter]
  congr 1
  funext subscription
  show (if subscription ∈ run.released then none else run.holds subscription).bind Held.number? = _
  by_cases released : subscription ∈ run.released
  · simp [released]
  · rw [if_neg released, ← number?]
    cases run.number? subscription <;> simp [released]

theorem count_eq (run : Run) {e : Emitter Listener} (there : run.board.emitter = some e) :
    e.count = run.outstanding.length := by
  have registered : ∀ subscription ∈ run.outstanding, (run.number? subscription).isSome := by
    intro subscription member
    have outstanding := (List.mem_filter.mp member).2
    simp only [Bool.decide_and, Bool.and_eq_true, decide_eq_true_eq] at outstanding
    exact outstanding.1
  calc e.count = (e.registrations.map Prod.fst).length := (List.length_map _).symm
    _ = (run.outstanding.filterMap run.number?).length := by rw [run.registrations_eq e there]
    _ = run.outstanding.length := List.filterMap_length_eq_length.mpr registered

/-- The numbers that were given to registrations are the first ones. -/
theorem given (run : Run) : ∀ e, run.board.emitter = some e →
    e.next = (numbers run.made).length + 1 ∧
      numbers run.made = List.range' 1 (numbers run.made).length := by
  induction run using Run.induction with
  | start arrange fair =>
      intro e there
      cases there
      exact ⟨rfl, rfl⟩
  | step run move inductionHypothesis =>
      intro e' there'
      rw [board_step] at there'
      rcases move_given there' with ⟨e, given, there, next, numbered⟩
      rcases inductionHypothesis e there with ⟨first, earlier⟩
      have all : numbers (run.step move).made = numbers run.made ++ List.range' e.next given := by
        rw [made_step, numbers, List.filterMap_append]
        exact congrArg (numbers run.made ++ ·) numbered
      have length : (numbers (run.step move).made).length = (numbers run.made).length + given := by
        rw [all, List.length_append, List.length_range']
      constructor
      · omega
      · rw [length, all, ← List.range'_append_1, ← earlier, first, Nat.add_comm 1]

/-! ## Releases -/

/-- A release takes back the registration that the subscription was made for, and only once. -/
theorem release_takes (run : Run) {subscription : Nat} {rest : List Task}
    (agenda : run.board.agenda = .release subscription :: rest) {e : Emitter Listener}
    (there : run.board.emitter = some e) :
    ∃ earlier own later, e.registrations = earlier ++ own ++ later ∧
      own.map Prod.fst =
        (if subscription ∈ run.released then [] else (run.number? subscription).toList) ∧
      (run.step .work).board.emitter = some { e with registrations := earlier ++ later } := by
  have same : e.registrations.map Prod.fst = numbers run.board.subscriptions :=
    run.registrations_held e there
  have taken := (step_performs run.arrange agenda).takes there (run.numbered e there)
    same
  have held := run.held_eq subscription
  rw [board_step]
  rcases taken with ⟨earlier, own, later, split, own_eq, left⟩
  refine ⟨earlier, own, later, split, ?_, left⟩
  rw [own_eq, held]
  by_cases released : subscription ∈ run.released
  · rw [if_pos released, if_pos released]
    rfl
  · rw [if_neg released, if_neg released]
    rfl

/-- While what comes of a release is done, the subscription is disposed already. -/
theorem release_runs (run : Run) {subscription : Nat} {rest : List Task}
    (agenda : run.board.agenda = .release subscription :: rest) {id : String}
    {reaction : List Action} (holds : run.holds subscription = some (.custom id reaction))
    (unreleased : subscription ∉ run.released) :
    (run.step .work).board.history = run.board.history ++ [.released subscription id] ∧
      (run.step .work).board.agenda = reaction.map (.act · (-1)) ++ rest ∧
      ∀ more, ((run.step .work).extend more).board.isDisposed subscription = true := by
  have held := run.held_eq subscription
  rw [if_neg unreleased, holds, Option.join_eq_some_iff] at held
  have stepped : (run.step .work).board.history = run.board.history ++ [.released subscription id] ∧
      (run.step .work).board.agenda = reaction.map (.act · (-1)) ++ rest := by
    rw [board_step, Switchboard.move, step_of_cons agenda, perform, release]
    simp only [held]
    exact ⟨rfl, rfl⟩
  refine ⟨stepped.1, stepped.2, ?_⟩
  intro more
  apply (isDisposed_iff _ subscription).mpr
  apply Or.inl
  apply ((run.step .work).released_extend more).subset
  rw [released_step, releasedAt_of_cons agenda]
  exact List.mem_append_right _ List.mem_cons_self

/-- Without an emitter the release of a registration does nothing else. -/
theorem release_of_none (run : Run) {subscription : Nat} {rest : List Task}
    (agenda : run.board.agenda = .release subscription :: rest)
    (gone : run.board.emitter = none)
    (untold : (run.holds subscription).bind Held.id? = none) :
    (run.step .work).board =
      { run.board with
        subscriptions := clear [subscription] run.board.subscriptions, agenda := rest } := by
  rw [board_step, Switchboard.move, step_of_cons agenda, perform]
  refine Switchboard.release_of_none (s := { run.board with agenda := rest }) gone ?_
  show run.board.subscriptions[subscription]?.join.bind Held.id? = none
  rw [held_eq]
  by_cases released : subscription ∈ run.released
  · rw [if_pos released]
    rfl
  · rwa [if_neg released]

/-- There are as many registrations as subscriptions of the emitter that are neither disposed nor
dropped, whoever disposes or drops them.  Whatever is disposed or dropped is released next; that
takes back its own registration and no other, or what is to be done about it is done once, when
nothing is held any more.  Without an emitter there is nothing to take back. -/
theorem subscriptions_keep_the_books (run : Run) :
    (∀ e, run.board.emitter = some e →
      e.count = run.outstanding.length ∧
      e.registrations.map Prod.fst = run.outstanding.filterMap run.number? ∧
      -- The numbers never go beyond the number of registrations that were made.
      e.next = (numbers run.made).length + 1 ∧
      numbers run.made = List.range' 1 (numbers run.made).length) ∧
    -- What was disposed or dropped is what was released or still is to be,
    run.ended.Perm (run.released ++ run.board.pending) ∧
    -- and that is what comes next,
    (∀ move, (run.board.endedAt move).map Task.release <+: (run.step move).board.agenda) ∧
    -- unless events are fired for ever.
    (∀ bound,
      (∀ n, (run.extend (List.replicate n .work)).board.events.length ≤ bound) →
      ∃ n,
        (run.extend (List.replicate n .work)).board.agenda = [] ∧
        (run.extend (List.replicate n .work)).ended.Perm
          (run.extend (List.replicate n .work)).released) ∧
    (∀ subscription rest, run.board.agenda = .release subscription :: rest →
      -- A release takes back the registration of its own, unless that was done before,
      (∀ e, run.board.emitter = some e →
        ∃ earlier own later, e.registrations = earlier ++ own ++ later ∧
          own.map Prod.fst =
            (if subscription ∈ run.released then [] else (run.number? subscription).toList) ∧
          (run.step .work).board.emitter = some { e with registrations := earlier ++ later }) ∧
      -- but if the emitter is gone, nothing happens;
      (run.board.emitter = none → (run.holds subscription).bind Held.id? = none →
        (run.step .work).board =
          { run.board with
            subscriptions := clear [subscription] run.board.subscriptions, agenda := rest }) ∧
      -- what is to be done otherwise is put on the agenda, and it is disposed from then on.
      ∀ id reaction, run.holds subscription = some (.custom id reaction) →
        subscription ∉ run.released →
          (run.step .work).board.history = run.board.history ++ [.released subscription id] ∧
          (run.step .work).board.agenda = reaction.map (.act · (-1)) ++ rest ∧
          ∀ more, ((run.step .work).extend more).board.isDisposed subscription = true) ∧
    -- Nothing else takes a registration back.
    (∀ move, run.board.releasedAt move = [] → ∀ e', (run.step move).board.emitter = some e' →
      ∃ e, run.board.emitter = some e ∧ e.registrations <+: e'.registrations) ∧
    -- What is done on release is done once, and never if there is no release.
    (∀ subscription id,
      run.board.history.count (.released subscription id) =
        if (run.holds subscription).bind Held.id? = some id ∧ subscription ∈ run.released then 1
        else 0) ∧
    ∀ subscription,
      run.board.isDisposed subscription = true ↔
        subscription ∈ run.released ∨ run.holds subscription = none := by
  refine ⟨?_, run.kept.ended, ?_, ?_, ?_, ?_, run.told, run.isDisposed_iff⟩
  · intro e there
    exact ⟨run.count_eq there, run.registrations_eq e there, run.given e there⟩
  · intro move
    rw [board_step]
    exact run.board.move_front move
  · intro bound bounded
    simp only [board_works] at bounded
    rcases work_ends bounded with ⟨n, empty⟩
    rw [← board_works] at empty
    refine ⟨n, empty, ?_⟩
    have ended := (run.extend (List.replicate n .work)).kept.ended
    rwa [pending, empty, List.filterMap_nil, List.append_nil] at ended
  · intro subscription rest agenda
    refine ⟨?_, run.release_of_none agenda, ?_⟩
    · intro e there
      exact run.release_takes agenda there
    · intro id reaction holds unreleased
      exact run.release_runs agenda holds unreleased
  · intro move unreleased e' there'
    rw [board_step] at there'
    exact move_leaves unreleased there'

end Run
end Event
end Workbench
