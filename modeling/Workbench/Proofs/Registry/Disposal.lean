import Workbench.Proofs.Registry.Standing

namespace Workbench
namespace Registry

/-!
# Programs on registries

Registries that may hold one another are told, one deed after the other, to register an item, to take
in a new registry, or to dispose what they hold.  All that is called then unfolds from the deeds, and
every item is disposed as often as it has to be (`Program.registries_dispose_in_order`).
-/

/-! ## The calls of one deed -/

namespace Nested

variable {n : Nested} {history : List Task} {task : Task} {rest : List Task}

/-- The calls that are made one after the other, each with what there was before it. -/
def moments : Nat → Nested → List (Nested × Task)
  | 0, _ => []
  | k + 1, n =>
    match n.agenda with
    | [] => []
    | task :: _ => (n, task) :: moments k n.step

theorem moments_of_nil (k : Nat) (idle : n.agenda = []) : n.moments k = [] := by
  cases k with
  | zero => rfl
  | succ k => rw [moments, idle]

theorem moments_of_cons (k : Nat) (agenda : n.agenda = task :: rest) :
    n.moments (k + 1) = (n, task) :: n.step.moments k := by
  rw [moments, agenda]

theorem turns_of_nil (k : Nat) (idle : n.agenda = []) :
    turns (·.agenda.isEmpty) step k n = n := by
  cases k with
  | zero => rfl
  | succ k => rw [turns, idle, List.isEmpty_nil, if_pos rfl]

theorem turns_of_cons (k : Nat) (agenda : n.agenda = task :: rest) :
    turns (·.agenda.isEmpty) step (k + 1) n = turns (·.agenda.isEmpty) step k n.step := by
  rw [turns, agenda]
  rfl

/-- After the calls that were made, everything is as they say. -/
theorem Follows.after (k : Nat) (follows : n.Follows history) :
    (turns (·.agenda.isEmpty) step k n).Follows (history ++ (n.moments k).map Prod.snd) ∧
      (turns (·.agenda.isEmpty) step k n).registries.length = n.registries.length := by
  induction k generalizing n history with
  | zero =>
      rw [moments, List.map_nil, List.append_nil]
      exact ⟨follows, rfl⟩
  | succ k inductionHypothesis =>
      cases agenda : n.agenda with
      | nil =>
          rw [moments_of_nil _ agenda, turns_of_nil _ agenda, List.map_nil, List.append_nil]
          exact ⟨follows, rfl⟩
      | cons task rest =>
          rcases follows.next agenda with ⟨follows', -, length⟩
          rw [moments_of_cons k agenda, turns_of_cons k agenda, List.map_cons, List.append_cons,
            ← length]
          exact inductionHypothesis follows'

/-- Whenever a call is made, everything is as the calls before it say. -/
theorem Follows.moment {k : Nat} (follows : n.Follows history) {past future : List (Nested × Task)}
    {m : Nested} (place : n.moments k = past ++ (m, task) :: future) :
    m.Follows (history ++ past.map Prod.snd) := by
  induction k generalizing n history past with
  | zero => cases past <;> cases place
  | succ k inductionHypothesis =>
      cases agenda : n.agenda with
      | nil =>
          rw [moments_of_nil _ agenda] at place
          cases past <;> cases place
      | cons first rest =>
          rw [moments_of_cons k agenda] at place
          cases past with
          | nil =>
              cases place
              rw [List.map_nil, List.append_nil]
              exact follows
          | cons earlier past =>
              rw [List.cons_append, List.cons.injEq] at place
              rcases place with ⟨rfl, place⟩
              rw [List.map_cons, List.append_cons]
              exact inductionHypothesis (follows.next agenda).1 place

/-- The calls that are made are those of the agenda, each together with all that it calls. -/
theorem Follows.unfolds {k : Nat} (follows : n.Follows history)
    (ended : (turns (·.agenda.isEmpty) step k n).agenda = []) :
    Unfolds history n.agenda (history ++ (n.moments k).map Prod.snd) := by
  induction k generalizing n history with
  | zero =>
      have idle : n.agenda = [] := ended
      rw [idle, moments, List.map_nil, List.append_nil]
      exact .nil
  | succ k inductionHypothesis =>
      cases agenda : n.agenda with
      | nil =>
          rw [moments_of_nil _ agenda, List.map_nil, List.append_nil]
          exact .nil
      | cons task rest =>
          rcases follows.next agenda with ⟨follows', next, -⟩
          rw [turns_of_cons k agenda] at ended
          have unfolds := inductionHypothesis follows' ended
          rw [next] at unfolds
          rcases unfolds.split with ⟨between, inner, others⟩
          rw [moments_of_cons k agenda, List.map_cons, List.append_cons]
          exact .cons inner others

end Nested

/-! ## Programs -/

/-- What registries can be told. -/
inductive Deed where
  /-- Makes a registry and pushes it into another one. -/
  | nest (registry : Nat)
  | push (registry : Nat) (item : Item)
  | dispose (registry : Nat)

namespace Deed

/-- How many registries are made. -/
def made : Deed → Nat
  | nest _ => 1
  | push .. | dispose _ => 0

/-- The first call of a deed, where so many registries were made before. -/
def task (count : Nat) : Deed → Task
  | nest registry => .push registry (.registry count)
  | push registry item => .push registry item
  | dispose registry => .dispose registry

/-- Whether deeds lead only to registries that are made by then, if so many are there before. -/
def sound : Nat → List Deed → Bool
  | _, [] => true
  | count, deed :: rest =>
    (deed.task count).numbers.all (· < count + deed.made) && sound (count + deed.made) rest

/-- The first calls of deeds. -/
def tasks : Nat → List Deed → List Task
  | _, [] => []
  | count, deed :: rest => deed.task count :: tasks (count + deed.made) rest

/-- Nothing is disposed but by what a deed calls. -/
theorem released_tasks (registry count : Nat) (deeds : List Deed) :
    released registry (tasks count deeds) = [] := by
  induction deeds generalizing count with
  | nil => rfl
  | cons deed rest inductionHypothesis =>
      rw [tasks, released, List.filterMap_cons_none (by cases deed <;> rfl)]
      exact inductionHypothesis _

end Deed

namespace Nested

variable {n : Nested} {history : List Task} {deed : Deed}

def ask (n : Nested) : Deed → Nested
  | .nest registry => n.nest registry
  | .push registry item => n.before [.push registry item]
  | .dispose registry => n.before [.dispose registry]

/-- All deeds are done, one after the other. -/
def run (n : Nested) : List Deed → Nested
  | [] => n
  | deed :: rest => run (n.ask deed).finish rest

/-- All calls that deeds give rise to, each with what there was before it. -/
def trail (n : Nested) : List Deed → List (Nested × Task)
  | [] => []
  | deed :: rest =>
    (n.ask deed).moments (n.ask deed).weight ++ trail (n.ask deed).finish rest

theorem agenda_ask (idle : n.agenda = []) (deed : Deed) :
    (n.ask deed).agenda = [deed.task n.registries.length] := by
  cases deed <;> simp [ask, nest, before, Deed.task, idle]

theorem length_ask (n : Nested) (deed : Deed) :
    (n.ask deed).registries.length = n.registries.length + deed.made := by
  cases deed <;> simp [ask, nest, before, Deed.made]

/-- A registry that is made is open and empty, and nothing led to it so far. -/
theorem Follows.ask (follows : n.Follows history) (idle : n.agenda = [])
    (inside : ∀ number ∈ (deed.task n.registries.length).numbers,
      number < n.registries.length + deed.made) : (n.ask deed).Follows history := by
  have earlier : ∀ task ∈ history, ∀ number ∈ task.numbers, number < n.registries.length :=
    fun task member => follows.known task (List.mem_append_left _ member)
  have known : ∀ task ∈ history ++ (n.ask deed).agenda, ∀ number ∈ task.numbers,
      number < (n.ask deed).registries.length := by
    rw [length_ask, agenda_ask idle]
    intro task member number within
    rcases List.mem_append.mp member with before | first
    · exact Nat.lt_add_right _ (earlier task before number within)
    · rw [List.mem_singleton.mp first] at within
      exact inside number within
  cases deed with
  | nest registry =>
      refine ⟨fun other below => ?_, known, follows.recorded⟩
      show (n.registries ++ [⟨[], false⟩])[other]? = _
      rcases Nat.lt_succ_iff_lt_or_eq.mp ((length_ask n _).symm ▸ below) with old | rfl
      · rw [List.getElem?_append_left old]
        exact follows.registries other old
      · rw [List.getElem?_concat_length, standing_of_unknown]
        intro task member within
        exact Nat.lt_irrefl _ (earlier task member _ within)
  | push | dispose => exact ⟨follows.registries, known, follows.recorded⟩

/-- What `Follows.after`, `Follows.moment` and `Follows.unfolds` say of one deed holds of all. -/
theorem Follows.run {deeds : List Deed} (follows : n.Follows history) (idle : n.agenda = [])
    (sound : Deed.sound n.registries.length deeds = true) :
    (n.run deeds).agenda = [] ∧ (n.run deeds).Follows (history ++ (n.trail deeds).map Prod.snd) ∧
      Unfolds history (Deed.tasks n.registries.length deeds)
        (history ++ (n.trail deeds).map Prod.snd) ∧
      ∀ past m task future, n.trail deeds = past ++ (m, task) :: future →
        m.Follows (history ++ past.map Prod.snd) := by
  induction deeds generalizing n history with
  | nil =>
      rw [trail, List.map_nil, List.append_nil]
      exact ⟨idle, follows, .nil, fun past _ _ _ place => by cases past <;> cases place⟩
  | cons deed rest inductionHypothesis =>
      rw [Deed.sound, Bool.and_eq_true, List.all_eq_true] at sound
      rcases sound with ⟨first, others⟩
      have asked : (n.ask deed).Follows history :=
        follows.ask idle fun number within => of_decide_eq_true (first number within)
      have ended := finish_agenda (n.ask deed)
      have unfolds := asked.unfolds ended
      rcases asked.after (n.ask deed).weight with ⟨done, length⟩
      rw [length_ask] at length
      rw [agenda_ask idle] at unfolds
      rw [← length] at others
      rcases inductionHypothesis done ended others with ⟨ended', follows', unfolds', moment⟩
      rw [trail, List.map_append, ← List.append_assoc, Deed.tasks, ← length]
      refine ⟨ended', follows', unfolds.append unfolds', fun past m task future place => ?_⟩
      rcases List.append_eq_append_iff.mp place with ⟨gap, rfl, tail⟩ | ⟨gap, front, tail⟩
      · rw [List.map_append, ← List.append_assoc]
        exact moment gap m task future tail
      · cases gap with
        | nil =>
            have here := moment [] m task future tail.symm
            rw [front, List.append_nil, List.map_nil, List.append_nil] at here
            exact here
        | cons head gap =>
            rw [List.cons_append, List.cons.injEq] at tail
            rcases tail with ⟨rfl, rfl⟩
            exact asked.moment front

end Nested

/-- What registries are told, one deed after the other. -/
structure Program where
  /-- How many registries there are before. -/
  count : Nat
  deeds : List Deed
  sound : Deed.sound count deeds = true

namespace Program

/-- At first all registries are open and empty. -/
def start (program : Program) : Nested :=
  { registries := List.replicate program.count {} }

/-- What there is after all deeds. -/
def nested (program : Program) : Nested :=
  program.start.run program.deeds

/-- The calls of all deeds, each with what there was before it. -/
def moments (program : Program) : List (Nested × Task) :=
  program.start.trail program.deeds

def history (program : Program) : List Task :=
  program.moments.map Prod.snd

/-- The first calls of the deeds. -/
def tasks (program : Program) : List Task :=
  Deed.tasks program.count program.deeds

theorem start_follows (program : Program) : program.start.Follows [] := by
  refine ⟨fun registry below => ?_, fun _ member => (List.not_mem_nil member).elim, rfl⟩
  have below : registry < program.count := by simpa [start] using below
  exact (List.getElem?_replicate_of_lt below).trans rfl

/-- **Registries are disposed in order.**  Every deed comes to an end, and the calls that were made
unfold from the first calls of the deeds (`Unfolds`): right after a call, and before anything else,
all is done that it calls (`Task.calls`).  So the items of a registry are disposed in the reverse of
the order in which they were pushed, those of a registry among them at its place, and an item that is
pushed into a registry that was disposed already is disposed right away.  The items of a registry that
were ever disposed are all that were pushed into it, each as often as it was pushed, or none if it was
never disposed.  At all times a registry that was disposed is empty and stays disposed, and any other
holds what was pushed into it. -/
theorem registries_dispose_in_order (program : Program) :
    program.nested.agenda = [] ∧ Unfolds [] program.tasks program.history ∧
      (∀ before task after, program.history = before ++ task :: after →
        ∃ inner others, after = inner ++ others ∧
          Unfolds (before ++ [task]) (task.calls before) (before ++ task :: inner)) ∧
      (∀ before registry item after,
        program.history = before ++ .push registry item :: after →
        wasDisposed registry before = true → ∃ others, after = .release registry item :: others) ∧
      (∀ registry, (released registry program.history).Perm
        (if wasDisposed registry program.history then pushed registry program.history else [])) ∧
      (∀ past n task future, program.moments = past ++ (n, task) :: future →
        ∀ registry < n.registries.length,
          n.registries[registry]? = some (standing registry (past.map Prod.snd))) ∧
      (∀ registry < program.nested.registries.length,
        program.nested.registries[registry]? = some (standing registry program.history)) ∧
      program.nested.recorded = program.history.filterMap Task.name? := by
  have sound : Deed.sound program.start.registries.length program.deeds = true := by
    rw [start, List.length_replicate]
    exact program.sound
  rcases program.start_follows.run rfl sound with ⟨ended, follows, unfolds, moment⟩
  rw [List.nil_append, start, List.length_replicate] at unfolds
  have complete : ∀ before task after, program.history = before ++ task :: after →
      ∃ inner others, after = inner ++ others ∧
        Unfolds (before ++ [task]) (task.calls before) (before ++ task :: inner) :=
    fun before task after place => unfolds.complete place (Nat.zero_le _)
  refine ⟨ended, unfolds, complete, ?immediate,
    fun registry => unfolds.released_perm (Deed.released_tasks registry _ _), ?moments,
    follows.registries, follows.recorded⟩
  case immediate =>
    intro before registry item after place disposed
    rcases complete before _ after place with ⟨inner, others, rfl, called⟩
    rw [Task.calls, if_pos disposed] at called
    rcases called.head with ⟨more, grown⟩
    rw [List.append_cons before, List.append_cancel_left_eq] at grown
    exact ⟨more ++ others, by rw [grown, List.cons_append]⟩
  case moments =>
    intro past n task future place
    exact (moment past n task future place).registries

/-- Two registries, the second of them among the items of the first, with an item that is pushed
while the second is disposed, and one that is pushed too late. -/
def nesting : Program where
  count := 1
  deeds := [.push 0 (.named "oldest" []), .nest 0, .push 1 (.named "inner" [.named "follower" []]),
    .push 1 (.named "last" []), .dispose 0, .dispose 1, .push 1 (.named "late" [])]
  sound := by decide

/-- The second registry is disposed at its place, the follower right after the item that pushes it,
and what is pushed too late is disposed all the same. -/
theorem nesting_disposed :
    nesting.nested.recorded = ["last", "inner", "follower", "oldest", "late"] ∧
      nesting.nested.registries[0]? = some ⟨[], true⟩ ∧
      nesting.nested.registries[1]? = some ⟨[], true⟩ := by
  rcases registries_dispose_in_order nesting with ⟨-, -, -, -, -, -, registries, recorded⟩
  have disposed : wasDisposed 0 nesting.history = true ∧ wasDisposed 1 nesting.history = true := by
    decide
  refine ⟨recorded.trans (by decide), (registries 0 (by decide)).trans ?_,
    (registries 1 (by decide)).trans ?_⟩
  · rw [standing, if_pos disposed.1]
  · rw [standing, if_pos disposed.2]

end Program

end Registry
end Workbench
