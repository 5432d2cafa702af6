import Mathlib.Data.List.Induction
import Mathlib.Data.List.Nodup
import Workbench.Event.Switchboard
import Workbench.Proofs.Turns

namespace Workbench
namespace Event

/-!
# Runs of a switchboard

A run is what happens on a switchboard from the start, one move after another: someone outside asks
for something, or the first task of the agenda is done.  The agenda is a stack, so whatever a task
gives rise to is over before the rest has its turn (`Switchboard.work_reaches`), and it gets empty
unless events are fired for ever (`Switchboard.work_ends`).
-/

/-- What can happen next. -/
inductive Move where
  /-- Someone outside wants something done, after all that is on the agenda. -/
  | ask (action : Action)
  /-- The first task of the agenda is done. -/
  | work
  /-- All names are forgotten and their subscriptions dropped, before anything else is done. -/
  | giveUp

namespace Move

/-- What is wanted, as a task. -/
def asked? : Move → Option Task
  | ask action => some (.act action 0)
  | _ => none

end Move

mutual

/-- How many tasks an action can give rise to, itself included, if what events give rise to does not
count. -/
def Action.weight : Action → Nat
  | .subscribe _ names _ => 1 + 2 * names.length
  | .custom _ reaction => 2 + Action.weights reaction
  | .empty _ | .dispose _ | .drop _ => 2
  | .fire _ | .fireNext _ | .dropEmitter => 1

def Action.weights : List Action → Nat
  | [] => 0
  | action :: rest => action.weight + Action.weights rest

end

/-- How many tasks the release of something can give rise to. -/
def Held.weight : Held → Nat
  | .registration _ => 0
  | .custom _ reaction => Action.weights reaction

namespace Task

/-- How many tasks a task can give rise to, itself included, if what events give rise to does not
count. -/
def weight : Task → Nat
  | act action _ => action.weight
  | register _ _ => 2
  | call _ _ listener _ => 1 + Action.weights listener.reaction
  | release _ => 1

def weights (tasks : List Task) : Nat :=
  (tasks.map weight).sum

/-- Whether the task is to call a listener. -/
def isCall : Task → Bool
  | call .. => true
  | _ => false

/-- Whether the task is something that was asked for, be it from outside or by a listener. -/
def isAsked : Task → Bool
  | act .. | register .. => true
  | _ => false

theorem isCall_of_isAsked {task : Task} (asked : task.isAsked = true) : task.isCall = false := by
  cases task with
  | act | register => rfl
  | call | release => cases asked

theorem isAsked_acts (reaction : List Action) (value : Int) :
    ∀ task ∈ reaction.map (Task.act · value), task.isAsked = true := by
  intro task member
  rcases List.mem_map.mp member with ⟨action, _, rfl⟩
  rfl

theorem weights_append (first second : List Task) :
    weights (first ++ second) = weights first + weights second := by
  simp [weights]

theorem weights_acts (actions : List Action) (value : Int) :
    weights (actions.map (.act · value)) = Action.weights actions := by
  induction actions with
  | nil => rfl
  | cons action rest inductionHypothesis =>
      simp only [weights, List.map_cons, List.sum_cons] at inductionHypothesis ⊢
      rw [inductionHypothesis]
      rfl

theorem weights_releases (subscriptions : List Nat) :
    weights (subscriptions.map release) = subscriptions.length := by
  induction subscriptions with
  | nil => rfl
  | cons subscription rest inductionHypothesis =>
      simp only [weights, List.map_cons, List.sum_cons] at inductionHypothesis ⊢
      rw [inductionHypothesis, List.length_cons]
      exact Nat.add_comm _ _

theorem weights_registers (names : List String) (listener : Listener) :
    weights (names.map (.register · listener)) = 2 * names.length := by
  induction names with
  | nil => rfl
  | cons name rest inductionHypothesis =>
      simp only [weights, List.map_cons, List.sum_cons] at inductionHypothesis ⊢
      rw [inductionHypothesis]
      simp only [weight, List.length_cons]
      omega

end Task

namespace Switchboard

variable {arrange : Arrangement} {s s' : Switchboard}

/-! ## What a task does -/

/-- The subscriptions that a task disposes or drops. -/
def endedBy (s : Switchboard) : Task → List Nat
  | .act (.custom id _) _ | .act (.empty id) _ | .act (.dispose id) _ | .act (.drop id) _ =>
    (s.table.lookup id).toList
  | .register name _ => if s.emitter.isSome then (s.table.lookup name).toList else []
  | _ => []

/-- All that a task can do, once it is taken from the agenda. -/
inductive Performs (arrange : Arrangement) (s : Switchboard) : Task → Switchboard → Prop
  /-- Other tasks are put off until then, and a name may be forgotten. -/
  | defers {task : Task} {table : List (String × Nat)} {tasks : List Task}
      (asked : task.isAsked = true) (named : ∀ entry ∈ table, entry ∈ s.table)
      (more : ∀ other ∈ tasks, other.isAsked = true)
      (light : (s.endedBy task).length + Task.weights tasks < task.weight) :
      Performs arrange s task
        { s with table, agenda := (s.endedBy task).map .release ++ tasks ++ s.agenda }
  /-- A subscription is made that has nothing to do with the emitter. -/
  | makes {action : Action} {value : Int} {table : List (String × Nat)} {held : Option Held}
      (foreign : ∀ number, held ≠ some (.registration number))
      (named : ∀ entry ∈ table, entry ∈ s.table ∨ entry.2 = s.subscriptions.length)
      (light : 1 + (held.map Held.weight).getD 0 < action.weight) :
      Performs arrange s (.act action value)
        { s with
          subscriptions := s.subscriptions ++ [held], table
          agenda := (s.endedBy (.act action value)).map .release ++ s.agenda }
  | registers {name : String} {listener : Listener} {table : List (String × Nat)}
      {e : Emitter Listener} (there : s.emitter = some e)
      (named : ∀ entry ∈ table, entry ∈ s.table ∨ entry.2 = s.subscriptions.length) :
      Performs arrange s (.register name listener)
        { s with
          emitter := some (e.subscribe listener)
          subscriptions := s.subscriptions ++ [some (.registration e.next)], table
          agenda := (s.endedBy (.register name listener)).map .release ++ s.agenda }
  | fires {action : Action} {value fired : Int} {e : Emitter Listener}
      (there : s.emitter = some e) (spared : s.endedBy (.act action value) = []) :
      Performs arrange s (.act action value)
        { s with
          events := s.events ++
            [⟨fired, (arrange s.events.length e.registrations).map Prod.fst⟩]
          agenda := (arrange s.events.length e.registrations).map
            (fun r => .call s.events.length r.1 r.2 fired) ++ s.agenda }
  | calls {event registration : Nat} {listener : Listener} {value : Int} :
      Performs arrange s (.call event registration listener value)
        { s with
          history := s.history ++ [.called event registration listener.id value]
          agenda := listener.reaction.map (.act · value) ++ s.agenda }
  | unregisters {subscription number : Nat}
      (held : s.subscriptions[subscription]? = some (some (.registration number))) :
      Performs arrange s (.release subscription)
        { s with
          emitter := s.emitter.map (·.unsubscribe number)
          subscriptions := s.subscriptions.set subscription none }
  | releases {subscription : Nat} {id : String} {reaction : List Action}
      (held : s.subscriptions[subscription]? = some (some (.custom id reaction))) :
      Performs arrange s (.release subscription)
        { s with
          subscriptions := s.subscriptions.set subscription none
          history := s.history ++ [.released subscription id]
          agenda := reaction.map (.act · (-1)) ++ s.agenda }
  /-- What is released holds nothing. -/
  | spares {subscription : Nat} (free : s.subscriptions[subscription]?.join = none) :
      Performs arrange s (.release subscription) s
  | forsakes {value : Int} :
      Performs arrange s (.act .dropEmitter value) { s with emitter := none }

theorem Performs.nothing {task : Task} (asked : task.isAsked = true)
    (spared : s.endedBy task = []) (working : 0 < task.weight) : Performs arrange s task s := by
  have performs : Performs arrange s task
      { s with agenda := (s.endedBy task).map .release ++ [] ++ s.agenda } := by
    apply Performs.defers asked (fun _ member => member)
    · intro other member
      exact absurd member List.not_mem_nil
    · rwa [spared]
  rw [spared] at performs
  exact performs

theorem Performs.ends {task : Task} {subscription : Nat} {table : List (String × Nat)}
    (asked : task.isAsked = true) (ended : s.endedBy task = [subscription])
    (named : ∀ entry ∈ table, entry ∈ s.table) (heavy : 1 < task.weight) :
    Performs arrange s task { s with table, agenda := .release subscription :: s.agenda } := by
  have performs : Performs arrange s task
      { s with table, agenda := (s.endedBy task).map .release ++ [] ++ s.agenda } := by
    apply Performs.defers asked named
    · intro other member
      exact absurd member List.not_mem_nil
    · rwa [ended]
  rw [ended] at performs
  exact performs

theorem length_endedBy (s : Switchboard) (task : Task) : (s.endedBy task).length ≤ 1 := by
  have few (name : String) : (s.table.lookup name).toList.length ≤ 1 := by
    cases s.table.lookup name with
    | none => exact Nat.zero_le 1
    | some subscription => exact Nat.le_refl 1
  unfold endedBy
  split
  · exact few _
  · exact few _
  · exact few _
  · exact few _
  · split
    · exact few _
    · exact Nat.zero_le 1
  · exact Nat.zero_le 1

/-- What a task disposes or drops has a name. -/
theorem named_of_endedBy {task : Task} {subscription : Nat}
    (ended : subscription ∈ s.endedBy task) : ∃ name, (name, subscription) ∈ s.table := by
  have named {name : String} (found : subscription ∈ (s.table.lookup name).toList) :
      ∃ name, (name, subscription) ∈ s.table := by
    rcases List.lookup_eq_some_iff.mp (Option.mem_toList.mp found) with ⟨before, after, table, _⟩
    refine ⟨name, ?_⟩
    rw [table]
    exact List.mem_append_right _ List.mem_cons_self
  unfold endedBy at ended
  split at ended
  · exact named ended
  · exact named ended
  · exact named ended
  · exact named ended
  · split at ended
    · exact named ended
    · exact absurd ended List.not_mem_nil
  · exact absurd ended List.not_mem_nil

theorem mem_setName {name : String} {subscription : Nat} {table : List (String × Nat)}
    {entry : String × Nat} (member : entry ∈ setName name subscription table) :
    entry ∈ table ∨ entry.2 = subscription := by
  induction table with
  | nil => exact Or.inr (congrArg Prod.snd (List.mem_singleton.mp member))
  | cons first rest inductionHypothesis =>
      unfold setName at member
      split at member
      · rcases List.mem_cons.mp member with new | among
        · exact Or.inr (congrArg Prod.snd new)
        · exact Or.inl (List.mem_cons_of_mem _ among)
      · split at member
        · rcases List.mem_cons.mp member with new | among
          · exact Or.inr (congrArg Prod.snd new)
          · exact Or.inl among
        · rcases List.mem_cons.mp member with same | among
          · exact Or.inl (same ▸ List.mem_cons_self)
          · exact (inductionHypothesis among).imp_left (List.mem_cons_of_mem _)

/-- A subscription is stored, and what stood under its name is released next. -/
theorem store_eq (s : Switchboard) (name : String) (held : Option Held) :
    s.store name held =
      { s with
        subscriptions := s.subscriptions ++ [held]
        table := setName name s.subscriptions.length s.table
        agenda := (s.table.lookup name).toList.map .release ++ s.agenda } := by
  unfold store
  cases s.table.lookup name with
  | none => rfl
  | some old => rfl

theorem fire_performs (s : Switchboard) {action : Action} (value fired : Int)
    (spared : s.endedBy (.act action value) = []) (working : 0 < action.weight) :
    Performs arrange s (.act action value) (s.fire arrange fired) := by
  unfold fire
  split
  · exact .nothing rfl spared working
  · rename_i e there
    exact .fires there spared

theorem act_performs (s : Switchboard) (value : Int) (action : Action) :
    Performs arrange s (.act action value) (s.act arrange value action) := by
  cases action with
  | subscribe id names reaction =>
      apply Performs.defers rfl (fun _ member => member)
      · intro task member
        rcases List.mem_map.mp member with ⟨name, _, rfl⟩
        rfl
      · have spared : s.endedBy (.act (.subscribe id names reaction) value) = [] := rfl
        rw [spared, Task.weights_registers, Task.weight, Action.weight, List.length_nil]
        omega
  | custom id reaction =>
      rw [act, store_eq]
      apply Performs.makes
      · intro number same
        cases same
      · exact fun entry => mem_setName
      · simp only [Option.map_some, Held.weight, Option.getD_some, Action.weight]
        omega
  | empty id =>
      rw [act, store_eq]
      apply Performs.makes
      · intro number same
        cases same
      · exact fun entry => mem_setName
      · simp [Action.weight]
  | dispose id =>
      unfold act
      dsimp only
      split
      · rename_i subscription found
        have ended : s.endedBy (.act (.dispose id) value) = [subscription] := by
          rw [endedBy, found]
          rfl
        exact .ends rfl ended (fun _ member => member) (by simp [Task.weight, Action.weight])
      · rename_i unknown
        refine .nothing rfl ?_ (by simp [Task.weight, Action.weight])
        rw [endedBy, unknown]
        rfl
  | drop id =>
      unfold act
      dsimp only
      split
      · rename_i subscription found
        have ended : s.endedBy (.act (.drop id) value) = [subscription] := by
          rw [endedBy, found]
          rfl
        exact .ends rfl ended (fun _ member => List.mem_of_mem_filter member)
          (by simp [Task.weight, Action.weight])
      · rename_i unknown
        refine .nothing rfl ?_ (by simp [Task.weight, Action.weight])
        rw [endedBy, unknown]
        rfl
  | fire fired => exact s.fire_performs value fired rfl (by simp [Action.weight])
  | fireNext below =>
      unfold act
      dsimp only
      split
      · exact s.fire_performs value (value + 1) rfl (by simp [Action.weight])
      · exact .nothing rfl rfl (by simp [Task.weight, Action.weight])
  | dropEmitter => exact .forsakes

theorem register_performs (s : Switchboard) (name : String) (listener : Listener) :
    Performs arrange s (.register name listener) (s.register name listener) := by
  unfold register
  split
  · rename_i gone
    refine .nothing rfl ?_ (by simp [Task.weight])
    rw [endedBy, gone]
    rfl
  · rename_i e there
    have ended : s.endedBy (.register name listener) = (s.table.lookup name).toList := by
      rw [endedBy, there]
      rfl
    dsimp only
    rw [store_eq, ← ended]
    exact .registers there fun entry => mem_setName

theorem release_performs (s : Switchboard) (subscription : Nat) :
    Performs arrange s (.release subscription) (s.release subscription) := by
  unfold release
  dsimp only
  split
  · rename_i number held
    exact .unregisters held
  · rename_i id reaction held
    exact .releases held
  · rename_i unregistered foreign
    apply Performs.spares
    cases found : s.subscriptions[subscription]? with
    | none => rfl
    | some held =>
        cases held with
        | none => rfl
        | some held =>
            cases held with
            | registration number => exact absurd found (unregistered number)
            | custom id reaction => exact absurd found (foreign id reaction)

theorem perform_performs (s : Switchboard) (task : Task) :
    Performs arrange s task (s.perform arrange task) := by
  cases task with
  | act action value => exact s.act_performs value action
  | register name listener => exact s.register_performs name listener
  | call event registration listener value => exact .calls
  | release subscription => exact s.release_performs subscription

/-- The agenda after a task: what it gives rise to comes before the rest. -/
theorem Performs.agenda {task : Task} (performs : Performs arrange s task s') :
    ∃ tasks, s'.agenda = tasks ++ s.agenda := by
  cases performs with
  | unregisters | spares | forsakes => exact ⟨[], rfl⟩
  | _ => exact ⟨_, rfl⟩

theorem step_of_nil (empty : s.agenda = []) : s.step arrange = s := by
  unfold step
  rw [empty]

theorem step_of_cons {task : Task} {rest : List Task} (agenda : s.agenda = task :: rest) :
    s.step arrange = ({ s with agenda := rest } : Switchboard).perform arrange task := by
  unfold step
  rw [agenda]

theorem step_performs (arrange : Arrangement) {task : Task} {rest : List Task}
    (agenda : s.agenda = task :: rest) :
    Performs arrange { s with agenda := rest } task (s.step arrange) := by
  rw [step_of_cons agenda]
  exact perform_performs _ task

/-! ## What is over comes to an end -/

/-- A number of tasks of the agenda are done, one after the other. -/
def work (arrange : Arrangement) : Nat → Switchboard → Switchboard
  | 0, s => s
  | n + 1, s => work arrange n (s.step arrange)

/-- As long as the tasks before the rest are not all done, they stand before it; and when they are
done, the rest is what is left. -/
theorem work_reaches (arrange : Arrangement) {inner rest : List Task}
    (agenda : s.agenda = inner ++ rest) (n : Nat) :
    (∃ m ≤ n, (s.work arrange m).agenda = rest) ∨
      ∃ inner', inner' ≠ [] ∧ (s.work arrange n).agenda = inner' ++ rest := by
  induction n generalizing s inner with
  | zero =>
      cases inner with
      | nil => exact Or.inl ⟨0, Nat.le_refl 0, agenda⟩
      | cons task inner => exact Or.inr ⟨task :: inner, List.cons_ne_nil _ _, agenda⟩
  | succ n inductionHypothesis =>
      cases inner with
      | nil => exact Or.inl ⟨0, Nat.zero_le _, agenda⟩
      | cons task inner =>
          rcases (step_performs arrange agenda).agenda with ⟨tasks, next⟩
          have next : (s.step arrange).agenda = (tasks ++ inner) ++ rest := by
            rw [next, List.append_assoc]
            rfl
          rcases inductionHypothesis next with ⟨m, within, reached⟩ | standing
          · exact Or.inl ⟨m + 1, Nat.succ_le_succ within, reached⟩
          · exact Or.inr standing

/-- How many tasks are still to be done, unless another event is fired. -/
def weight (s : Switchboard) : Nat :=
  Task.weights s.agenda + (s.subscriptions.map fun held => (held.map Held.weight).getD 0).sum

theorem Performs.weight {task : Task} (performs : Performs arrange s task s') :
    s.events.length < s'.events.length ∨
      s'.events = s.events ∧ s'.weight < s.weight + task.weight := by
  cases performs with
  | fires => exact Or.inl (by simp)
  | defers _ _ _ light =>
      refine Or.inr ⟨rfl, ?_⟩
      simp only [Switchboard.weight, Task.weights_append, Task.weights_releases]
      omega
  | @makes action value _ _ _ _ light =>
      refine Or.inr ⟨rfl, ?_⟩
      have few := s.length_endedBy (.act action value)
      simp only [Switchboard.weight, Task.weights_append, Task.weights_releases, List.map_append,
        List.sum_append, List.map_singleton, List.sum_singleton, Task.weight]
      omega
  | @registers name listener =>
      refine Or.inr ⟨rfl, ?_⟩
      have few := s.length_endedBy (.register name listener)
      simp only [Switchboard.weight, Task.weights_append, Task.weights_releases, List.map_append,
        List.sum_append, List.map_singleton, List.sum_singleton, Option.map_some, Held.weight,
        Option.getD_some, Task.weight]
      omega
  | calls =>
      refine Or.inr ⟨rfl, ?_⟩
      simp only [Switchboard.weight, Task.weights_append, Task.weights_acts, Task.weight]
      omega
  | unregisters held =>
      refine Or.inr ⟨rfl, ?_⟩
      have lighter := sum_map_set (fun held : Option Held => (held.map Held.weight).getD 0) held none
      simp only [Option.map_none, Option.getD_none] at lighter
      simp only [Switchboard.weight, Task.weight]
      omega
  | releases held =>
      refine Or.inr ⟨rfl, ?_⟩
      have lighter := sum_map_set (fun held : Option Held => (held.map Held.weight).getD 0) held none
      simp only [Option.map_some, Held.weight, Option.getD_some, Option.map_none, Option.getD_none]
        at lighter
      simp only [Switchboard.weight, Task.weights_append, Task.weights_acts, Task.weight]
      omega
  | spares =>
      refine Or.inr ⟨rfl, ?_⟩
      simp only [Task.weight]
      omega
  | forsakes =>
      refine Or.inr ⟨rfl, ?_⟩
      simp only [Switchboard.weight, Task.weight, Action.weight]
      omega

/-- A task that fires no event leaves less to do. -/
theorem step_weight (arrange : Arrangement) {task : Task} {rest : List Task}
    (agenda : s.agenda = task :: rest) :
    s.events.length < (s.step arrange).events.length ∨
      (s.step arrange).events = s.events ∧ (s.step arrange).weight < s.weight := by
  have before : s.weight = ({ s with agenda := rest } : Switchboard).weight + task.weight := by
    simp only [weight, agenda, Task.weights, List.map_cons, List.sum_cons]
    omega
  rw [before]
  exact (step_performs arrange agenda).weight

/-- Unless events are fired for ever, the agenda gets empty. -/
theorem work_ends {bound : Nat}
    (bounded : ∀ n, (s.work arrange n).events.length ≤ bound) :
    ∃ n, (s.work arrange n).agenda = [] := by
  -- Either another event is fired, of which there are not many left, or there is less to do.
  suffices ends : ∀ (left weight : Nat) (s : Switchboard),
      (∀ n, (s.work arrange n).events.length ≤ bound) → bound - s.events.length = left →
        s.weight = weight → ∃ n, (s.work arrange n).agenda = [] from
    ends _ _ s bounded rfl rfl
  intro left
  induction left using Nat.strongRecOn with
  | ind left fewer =>
      intro weight
      induction weight using Nat.strongRecOn with
      | ind weight lighter =>
          intro s bounded remaining weighs
          cases agenda : s.agenda with
          | nil => exact ⟨0, agenda⟩
          | cons task rest =>
              have later (n : Nat) : ((s.step arrange).work arrange n).events.length ≤ bound :=
                bounded (n + 1)
              have now := later 0
              rw [work] at now
              have ends : ∃ n, ((s.step arrange).work arrange n).agenda = [] := by
                rcases step_weight arrange agenda with fired | ⟨same, less⟩
                · exact fewer (bound - (s.step arrange).events.length) (by omega) _ _ later rfl rfl
                · rw [weighs] at less
                  exact lighter _ less _ later (by rw [same, remaining]) rfl
              rcases ends with ⟨n, empty⟩
              exact ⟨n + 1, empty⟩

/-- What a task gives rise to is over at some time, unless events are fired for ever. -/
theorem work_returns {inner rest : List Task} (agenda : s.agenda = inner ++ rest) {bound : Nat}
    (bounded : ∀ n, (s.work arrange n).events.length ≤ bound) :
    ∃ n, (s.work arrange n).agenda = rest := by
  rcases work_ends bounded with ⟨n, empty⟩
  rcases work_reaches arrange agenda n with ⟨m, _, reached⟩ | ⟨left, undone, standing⟩
  · exact ⟨m, reached⟩
  · rw [empty] at standing
    exact absurd (List.append_eq_nil_iff.mp standing.symm).1 undone

/-! ## Moves -/

def move (arrange : Arrangement) (s : Switchboard) : Move → Switchboard
  | .ask action => { s with agenda := s.agenda ++ [.act action 0] }
  | .work => s.step arrange
  | .giveUp => s.dropAll

/-- What can be collected along one move after another, given what each of them yields. -/
def collect {α : Type} (arrange : Arrangement) (yield : Switchboard → Move → List α)
    (s : Switchboard) : List Move → List α
  | [] => []
  | move :: rest => yield s move ++ (s.move arrange move).collect arrange yield rest

theorem collect_append {α : Type} (yield : Switchboard → Move → List α) (s : Switchboard)
    (first second : List Move) :
    s.collect arrange yield (first ++ second) =
      s.collect arrange yield first ++
        (first.foldl (Switchboard.move arrange) s).collect arrange yield second := by
  induction first generalizing s with
  | nil => rfl
  | cons move rest inductionHypothesis =>
      simp only [List.cons_append, collect, List.foldl_cons, inductionHypothesis, List.append_assoc]

end Switchboard

/-- What happens on a switchboard, the first move first, and the orders in which listeners are
called: everyone is called who is registered, but in any order. -/
structure Run where
  arrange : Arrangement := Switchboard.inOrder
  fair : ∀ event registrations, (arrange event registrations).Perm registrations := by
    exact fun _ _ => List.Perm.refl _
  moves : List Move

namespace Run

def board (run : Run) : Switchboard :=
  run.moves.foldl (Switchboard.move run.arrange) {}

/-- What is collected along a run. -/
def collect {α : Type} (run : Run) (yield : Switchboard → Move → List α) : List α :=
  Switchboard.collect run.arrange yield {} run.moves

def extend (run : Run) (more : List Move) : Run :=
  { run with moves := run.moves ++ more }

def step (run : Run) (move : Move) : Run :=
  run.extend [move]

@[simp]
theorem board_step (run : Run) (move : Move) :
    (run.step move).board = run.board.move run.arrange move := by
  simp only [board, step, extend, List.foldl_append, List.foldl_cons, List.foldl_nil]

@[simp]
theorem collect_step {α : Type} (run : Run) (yield : Switchboard → Move → List α) (move : Move) :
    (run.step move).collect yield = run.collect yield ++ yield run.board move := by
  simp only [collect, step, extend, Switchboard.collect_append]
  simp [Switchboard.collect, board]

theorem extend_nil (run : Run) : run.extend [] = run := by
  simp only [extend, List.append_nil]

theorem extend_cons (run : Run) (move : Move) (rest : List Move) :
    run.extend (move :: rest) = (run.step move).extend rest := by
  simp only [extend, step, List.append_assoc, List.singleton_append]

/-- What holds at the start and is kept by every move holds of every run. -/
theorem induction {motive : Run → Prop} (start : ∀ arrange fair, motive ⟨arrange, fair, []⟩)
    (step : ∀ run move, motive run → motive (run.step move)) (run : Run) : motive run := by
  rcases run with ⟨arrange, fair, moves⟩
  induction moves using List.reverseRecOn with
  | nil => exact start arrange fair
  | append_singleton earlier move inductionHypothesis =>
      exact step ⟨arrange, fair, earlier⟩ move inductionHypothesis

theorem board_works (run : Run) (n : Nat) :
    (run.extend (List.replicate n .work)).board = run.board.work run.arrange n := by
  induction n generalizing run with
  | zero => rw [List.replicate_zero, extend_nil, Switchboard.work]
  | succ n inductionHypothesis =>
      rw [List.replicate_succ, extend_cons, inductionHypothesis, board_step]
      rfl

end Run

/-! ## Numbers of registrations -/

namespace Emitter

variable {α : Type} {e e' e'' : Emitter α}

/-- Every registration has a number of its own, which is not given out any more. -/
structure Numbered (e : Emitter α) : Prop where
  once : (e.registrations.map Prod.fst).Nodup
  given : ∀ r ∈ e.registrations, r.1 < e.next

theorem Numbered.subscribe (numbered : e.Numbered) (listener : α) :
    (e.subscribe listener).Numbered := by
  constructor
  · simp only [Emitter.subscribe, List.map_append, List.map_singleton]
    apply List.nodup_append.mpr
    refine ⟨numbered.once, List.nodup_singleton _, ?_⟩
    intro number member other last
    rcases List.mem_map.mp member with ⟨r, among, rfl⟩
    rw [List.mem_singleton.mp last]
    exact Nat.ne_of_lt (numbered.given r among)
  · intro r member
    rcases List.mem_append.mp member with among | last
    · exact Nat.lt_succ_of_lt (numbered.given r among)
    · rw [List.mem_singleton.mp last]
      exact Nat.lt_succ_self _

theorem Numbered.unsubscribe (numbered : e.Numbered) (number : Nat) :
    (e.unsubscribe number).Numbered := by
  constructor
  · exact numbered.once.sublist (List.filter_sublist.map _)
  · intro r member
    exact numbered.given r (mem_unsubscribe.mp member).1

/-- What is registered now was registered then, or has a number that was given out since. -/
structure Since (e e' : Emitter α) : Prop where
  next : e.next ≤ e'.next
  registered : ∀ r ∈ e'.registrations, r ∈ e.registrations ∨ e.next ≤ r.1

theorem Since.refl (e : Emitter α) : Since e e :=
  ⟨Nat.le_refl _, fun _ member => Or.inl member⟩

theorem Since.subscribe (since : Since e e') (listener : α) : Since e (e'.subscribe listener) := by
  constructor
  · exact Nat.le_succ_of_le since.next
  · intro r member
    rcases List.mem_append.mp member with among | last
    · exact since.registered r among
    · rw [List.mem_singleton.mp last]
      exact Or.inr since.next

theorem Since.unsubscribe (since : Since e e') (number : Nat) : Since e (e'.unsubscribe number) :=
  ⟨since.next, fun r member => since.registered r (mem_unsubscribe.mp member).1⟩

end Emitter

namespace Switchboard

variable {arrange : Arrangement} {s s' : Switchboard} {kept : Emitter Listener → Prop}

/-- What is kept whenever a listener is registered or a registration is taken back is kept by every
task. -/
theorem Performs.emitter {task : Task} (performs : Performs arrange s task s')
    (subscribe : ∀ e listener, kept e → kept (e.subscribe listener))
    (unsubscribe : ∀ e number, kept e → kept (e.unsubscribe number))
    (holds : ∀ e, s.emitter = some e → kept e) : ∀ e, s'.emitter = some e → kept e := by
  cases performs with
  | @registers name listener table e there =>
      intro e' same
      cases same
      exact subscribe e listener (holds e there)
  | @unregisters subscription number =>
      intro e' same
      rcases Option.map_eq_some_iff.mp same with ⟨e, there, rfl⟩
      exact unsubscribe e number (holds e there)
  | forsakes =>
      intro e same
      cases same
  | _ => exact holds

theorem step_emitter (subscribe : ∀ e listener, kept e → kept (e.subscribe listener))
    (unsubscribe : ∀ e number, kept e → kept (e.unsubscribe number))
    (holds : ∀ e, s.emitter = some e → kept e) :
    ∀ e, (s.step arrange).emitter = some e → kept e := by
  cases agenda : s.agenda with
  | nil => rwa [step_of_nil agenda]
  | cons task rest => exact (step_performs arrange agenda).emitter subscribe unsubscribe holds

theorem move_emitter (subscribe : ∀ e listener, kept e → kept (e.subscribe listener))
    (unsubscribe : ∀ e number, kept e → kept (e.unsubscribe number))
    (holds : ∀ e, s.emitter = some e → kept e) (move : Move) :
    ∀ e, (s.move arrange move).emitter = some e → kept e := by
  cases move with
  | ask | giveUp => exact holds
  | work => exact step_emitter subscribe unsubscribe holds

end Switchboard

namespace Run

/-- Registrations have numbers of their own at any time. -/
theorem numbered (run : Run) : ∀ e, run.board.emitter = some e → e.Numbered := by
  induction run using Run.induction with
  | start arrange fair =>
      intro e there
      cases there
      exact ⟨List.nodup_nil, fun r member => by cases member⟩
  | step run move inductionHypothesis =>
      rw [board_step]
      exact Switchboard.move_emitter (fun _ listener numbered => numbered.subscribe listener)
        (fun _ number numbered => numbered.unsubscribe number) inductionHypothesis move

/-- What is registered later was registered before, or has got a number since. -/
theorem since (run : Run) {e : Emitter Listener} (there : run.board.emitter = some e)
    (more : List Move) : ∀ e', (run.extend more).board.emitter = some e' → e.Since e' := by
  have start : ∀ e', run.board.emitter = some e' → e.Since e' := by
    intro e' there'
    rw [there] at there'
    cases there'
    exact .refl e
  clear there
  induction more generalizing run with
  | nil => rwa [extend_nil]
  | cons move rest inductionHypothesis =>
      rw [extend_cons]
      apply inductionHypothesis
      rw [board_step]
      exact Switchboard.move_emitter (fun _ listener since => since.subscribe listener)
        (fun _ number since => since.unsubscribe number) start move

end Run

end Event
end Workbench
