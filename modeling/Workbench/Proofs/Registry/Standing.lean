import Mathlib.Algebra.Order.BigOperators.Group.List
import Mathlib.Algebra.Order.Group.Nat
import Workbench.Proofs.Registry.Calls
import Workbench.Proofs.Turns

namespace Workbench
namespace Registry

/-!
# Registries by what was called

At every moment each registry is what the calls so far say (`standing`), and the call that is made
next brings what `Task.calls` tells to the front of the agenda (`Nested.Follows.next`).  As each call
leads to fewer calls than it stood for, the agenda becomes empty at some time
(`Nested.finish_agenda`).
-/

mutual

/-- The numbers of the registries that an item leads to. -/
def Item.numbers : Item → List Nat
  | .named _ followers => Item.numbersOf followers
  | .registry number => [number]

def Item.numbersOf : List Item → List Nat
  | [] => []
  | item :: rest => item.numbers ++ Item.numbersOf rest

end

/-- The numbers of the registries that a call leads to. -/
def Task.numbers : Task → List Nat
  | push registry item | release registry item => registry :: item.numbers
  | dispose registry => [registry]

theorem Item.mem_numbersOf {items : List Item} {item : Item} (member : item ∈ items) {number : Nat}
    (inside : number ∈ item.numbers) : number ∈ Item.numbersOf items := by
  induction items with
  | nil => cases member
  | cons first rest inductionHypothesis =>
      rw [Item.numbersOf, List.mem_append]
      rcases List.mem_cons.mp member with rfl | later
      · exact Or.inl inside
      · exact Or.inr (inductionHypothesis later)

/-- A call leads nowhere else than it led itself, or the calls before it. -/
theorem Task.mem_numbers_of_calls {history : List Task} {task other : Task}
    (called : other ∈ task.calls history) {number : Nat} (inside : number ∈ other.numbers) :
    ∃ earlier ∈ history ++ [task], number ∈ earlier.numbers := by
  have own (within : number ∈ task.numbers) :
      ∃ earlier ∈ history ++ [task], number ∈ earlier.numbers :=
    ⟨task, List.mem_append_right _ (List.mem_singleton.mpr rfl), within⟩
  cases task with
  | push registry item =>
      rw [Task.calls] at called
      split at called
      · rw [List.mem_singleton.mp called] at inside
        exact own inside
      · cases called
  | release registry item =>
      cases item with
      | named name followers =>
          rcases List.mem_map.mp called with ⟨follower, member, rfl⟩
          refine own (List.mem_cons.mpr ((List.mem_cons.mp inside).imp_right ?_))
          exact Item.mem_numbersOf member
      | registry other' =>
          rw [List.mem_singleton.mp called] at inside
          exact own (List.mem_cons_of_mem _ inside)
  | dispose registry =>
      rw [Task.calls] at called
      split at called
      · cases called
      · rcases List.mem_map.mp called with ⟨item, member, rfl⟩
        rcases List.mem_filterMap.mp (List.mem_reverse.mp member) with ⟨earlier, among, same⟩
        refine ⟨earlier, List.mem_append_left _ among, ?_⟩
        cases earlier with
        | push other' item' =>
            rw [Task.pushed?] at same
            split at same
            · rename_i here
              cases same
              rw [← here] at inside
              exact inside
            · cases same
        | release | dispose => cases same

/-- What a registry is, by the calls that were made: disposed and empty if it was ever disposed, and
otherwise open, with all that was pushed into it. -/
def standing (registry : Nat) (history : List Task) : Registry Item :=
  if wasDisposed registry history then ⟨[], true⟩ else ⟨pushed registry history, false⟩

section

variable {registry other : Nat} {history : List Task} {item : Item}

theorem standing_push_self (registry : Nat) (history : List Task) (item : Item) :
    standing registry (history ++ [.push registry item]) =
      ((standing registry history).push item).1 := by
  rw [standing, wasDisposed_concat, pushed_concat, standing]
  cases wasDisposed registry history <;> simp [Task.disposes, Task.pushed?, push]

theorem back_push_standing (registry : Nat) (history : List Task) (item : Item) :
    (((standing registry history).push item).2.toList.map (Task.release registry)) =
      (Task.push registry item).calls history := by
  rw [Task.calls, standing]
  cases wasDisposed registry history <;> simp [push]

theorem standing_push_of_ne (different : other ≠ registry) (history : List Task) (item : Item) :
    standing registry (history ++ [.push other item]) = standing registry history := by
  rw [standing, wasDisposed_concat, pushed_concat, standing]
  simp [Task.disposes, Task.pushed?, different]

theorem standing_release (registry other : Nat) (history : List Task) (item : Item) :
    standing registry (history ++ [.release other item]) = standing registry history := by
  rw [standing, wasDisposed_concat, pushed_concat, standing]
  simp [Task.disposes, Task.pushed?]

theorem standing_dispose_self (registry : Nat) (history : List Task) :
    standing registry (history ++ [.dispose registry]) = (standing registry history).take.1 := by
  rw [standing, wasDisposed_concat]
  simp [Task.disposes, take]

theorem items_take_standing (registry : Nat) (history : List Task) :
    (standing registry history).take.2.map (Task.release registry) =
      (Task.dispose registry).calls history := by
  rw [Task.calls, standing]
  cases wasDisposed registry history <;> simp [take]

theorem standing_dispose_of_ne (different : other ≠ registry) (history : List Task) :
    standing registry (history ++ [.dispose other]) = standing registry history := by
  rw [standing, wasDisposed_concat, pushed_concat, standing]
  simp [Task.disposes, Task.pushed?, different]

/-- A registry to which nothing led is open and empty. -/
theorem standing_of_unknown
    (unknown : ∀ task ∈ history, registry ∉ task.numbers) : standing registry history = {} := by
  have fresh : wasDisposed registry history = false := by
    rw [wasDisposed, List.any_eq_false]
    intro task member disposes
    cases task with
    | dispose other =>
        rw [Task.disposes, beq_iff_eq] at disposes
        exact unknown _ member (by simp [Task.numbers, disposes])
    | push | release => cases disposes
  have empty : pushed registry history = [] := by
    rw [pushed, List.filterMap_eq_nil_iff]
    intro task member
    cases task with
    | push other item =>
        rw [Task.pushed?]
        split
        · rename_i here
          exact absurd (by simp [Task.numbers, here]) (unknown _ member)
        · rfl
    | release | dispose => rfl
  rw [standing, fresh, empty]
  rfl

end

/-- How many calls may still be made to dispose an item. -/
def Item.remaining (item : Item) : Nat :=
  item.weight - 1

namespace Nested

variable {n : Nested} {history : List Task} {task : Task} {rest : List Task}

/-- Everything is as the calls so far say, and these and the calls that are still to be made lead to
registries that exist. -/
structure Follows (n : Nested) (history : List Task) : Prop where
  registries : ∀ registry < n.registries.length,
    n.registries[registry]? = some (standing registry history)
  known : ∀ task ∈ history ++ n.agenda, ∀ number ∈ task.numbers, number < n.registries.length
  recorded : n.recorded = history.filterMap Task.name?

theorem step_of_cons (agenda : n.agenda = task :: rest) :
    n.step = ({ n with agenda := rest } : Nested).perform task := by
  unfold step
  rw [agenda]

/-- A call on a registry replaces it, and nothing else. -/
theorem Follows.replaced (follows : n.Follows history) {registry : Nat}
    (others : ∀ other, other ≠ registry →
      standing other (history ++ [task]) = standing other history)
    {other : Nat} (inside : other < n.registries.length) :
    (n.registries.set registry (standing registry (history ++ [task])))[other]? =
      some (standing other (history ++ [task])) := by
  by_cases here : registry = other
  · subst here
    exact List.getElem?_set_self inside
  · rw [List.getElem?_set_ne here, follows.registries other inside,
      others other fun same => here same.symm]

theorem perform_push {registry : Nat} {r : Registry Item} (found : n.registries[registry]? = some r)
    (item : Item) :
    n.perform (.push registry item) =
      { n with
        registries := n.registries.set registry (r.push item).1
        agenda := (r.push item).2.toList.map (.release registry) ++ n.agenda } := by
  rw [perform, found]
  rfl

theorem perform_dispose {registry : Nat} {r : Registry Item}
    (found : n.registries[registry]? = some r) :
    n.perform (.dispose registry) =
      { n with
        registries := n.registries.set registry r.take.1
        agenda := r.take.2.map (.release registry) ++ n.agenda } := by
  rw [perform, found]
  rfl

/-- The first call of the agenda is made, and what it calls comes before the rest. -/
theorem Follows.next (follows : n.Follows history) (agenda : n.agenda = task :: rest) :
    n.step.Follows (history ++ [task]) ∧ n.step.agenda = task.calls history ++ rest ∧
      n.step.registries.length = n.registries.length := by
  have before := follows.known
  rw [agenda, List.append_cons] at before
  have first : ∀ number ∈ task.numbers, number < n.registries.length :=
    before task (by simp)
  have known : ∀ other ∈ history ++ [task] ++ (task.calls history ++ rest),
      ∀ number ∈ other.numbers, number < n.registries.length := by
    intro other member number inside
    rw [← List.append_assoc] at member
    rcases List.mem_append.mp member with front | waiting
    · rcases List.mem_append.mp front with earlier | called
      · exact before other (List.mem_append_left _ earlier) number inside
      · rcases Task.mem_numbers_of_calls called inside with ⟨earlier, among, inside'⟩
        exact before earlier (List.mem_append_left _ among) number inside'
    · exact before other (List.mem_append_right _ waiting) number inside
  rw [step_of_cons agenda]
  cases task with
  | push registry item =>
      have found := follows.registries registry (first registry List.mem_cons_self)
      have performs := perform_push (n := { n with agenda := rest }) found item
      rw [performs, back_push_standing, ← standing_push_self]
      have length := n.registries.length_set (i := registry)
        (a := standing registry (history ++ [.push registry item]))
      refine ⟨⟨fun other inside => ?_, ?_, ?_⟩, rfl, length⟩
      · rw [length] at inside
        exact follows.replaced (fun other' different =>
          standing_push_of_ne (Ne.symm different) history item) inside
      · rw [length]
        exact known
      · rw [List.filterMap_append, follows.recorded]
        exact (List.append_nil _).symm
  | release registry item =>
      have registries : ∀ other < n.registries.length, n.registries[other]? =
          some (standing other (history ++ [.release registry item])) := by
        intro other inside
        rw [standing_release]
        exact follows.registries other inside
      cases item with
      | named name followers =>
          refine ⟨⟨registries, known, ?_⟩, rfl, rfl⟩
          rw [List.filterMap_append, ← follows.recorded]
          rfl
      | registry number =>
          refine ⟨⟨registries, known, ?_⟩, rfl, rfl⟩
          rw [List.filterMap_append, ← follows.recorded]
          exact (List.append_nil _).symm
  | dispose registry =>
      have found := follows.registries registry (first registry List.mem_cons_self)
      have performs := perform_dispose (n := { n with agenda := rest }) found
      rw [performs, items_take_standing, ← standing_dispose_self]
      have length := n.registries.length_set (i := registry)
        (a := standing registry (history ++ [.dispose registry]))
      refine ⟨⟨fun other inside => ?_, ?_, ?_⟩, rfl, length⟩
      · rw [length] at inside
        exact follows.replaced (fun other' different =>
          standing_dispose_of_ne (Ne.symm different) history) inside
      · rw [length]
        exact known
      · rw [List.filterMap_append, follows.recorded]
        exact (List.append_nil _).symm

/-! ## Every deed comes to an end -/

/-- How many calls may still be made: an item that waits in a registry was pushed already. -/
def size (n : Nested) : Nat :=
  (n.agenda.map Task.weight).sum + (n.registries.map fun r => (r.items.map Item.remaining).sum).sum

theorem sum_weight_pushes (registry : Nat) (items : List Item) :
    ((items.map (Task.push registry)).map Task.weight).sum = Item.weights items := by
  induction items with
  | nil => rfl
  | cons item rest inductionHypothesis =>
      rw [List.map_cons, List.map_cons, List.sum_cons, inductionHypothesis]
      rfl

theorem sum_weight_releases (registry : Nat) (items : List Item) :
    ((items.map (Task.release registry)).map Task.weight).sum = (items.map Item.remaining).sum := by
  rw [List.map_map]
  rfl

theorem remaining_lt_weight (item : Item) : item.remaining < item.weight := by
  cases item <;> simp [Item.remaining, Item.weight]

/-- A call leads to fewer calls than it stood for. -/
theorem size_perform (n : Nested) (task : Task) : (n.perform task).size < n.size + task.weight := by
  cases task with
  | push registry item =>
      have heavy := remaining_lt_weight item
      cases found : n.registries[registry]? with
      | none =>
          rw [perform, found]
          show n.size < n.size + item.weight
          omega
      | some r =>
          rw [perform_push found]
          have sums := sum_map_set (fun r : Registry Item => (r.items.map Item.remaining).sum) found
            (r.push item).1
          cases disposed : r.disposed <;>
            simp only [push, disposed, size, Task.weight, Bool.false_eq_true, if_false, if_true,
              Option.toList, List.map_nil, List.map_cons, List.map_append, List.sum_append,
              List.sum_cons, List.sum_nil, List.nil_append, List.cons_append] at sums ⊢ <;>
            simp only [Item.remaining] at sums heavy ⊢ <;> omega
  | release registry item =>
      cases item with
      | named name followers =>
          have pushes := sum_weight_pushes registry followers
          simp only [perform, before, size, List.map_append, List.sum_append, pushes, Task.weight,
            Item.weight]
          omega
      | registry number =>
          simp only [perform, before, size, List.map_append, List.sum_append, List.map_cons,
            List.map_nil, List.sum_cons, List.sum_nil, Task.weight, Item.weight]
          omega
  | dispose registry =>
      cases found : n.registries[registry]? with
      | none =>
          rw [perform, found]
          exact Nat.lt_succ_self _
      | some r =>
          rw [perform_dispose found]
          have sums := sum_map_set (fun r : Registry Item => (r.items.map Item.remaining).sum) found
            r.take.1
          have releases := sum_weight_releases registry r.items.reverse
          rw [List.map_reverse (f := Item.remaining), List.sum_reverse] at releases
          simp only [take, List.map_nil, List.sum_nil] at sums
          simp only [take, size, List.map_append, List.sum_append, releases, Task.weight]
          omega

theorem size_step (busy : n.agenda.isEmpty = false) : n.step.size < n.size := by
  cases agenda : n.agenda with
  | nil => simp [agenda] at busy
  | cons task rest =>
      have before : n.size = size { n with agenda := rest } + task.weight := by
        simp only [size, agenda, List.map_cons, List.sum_cons]
        omega
      rw [step_of_cons agenda, before]
      exact size_perform _ task

theorem sum_remaining_le_weights (items : List Item) :
    (items.map Item.remaining).sum ≤ Item.weights items := by
  induction items with
  | nil => exact Nat.le_refl 0
  | cons item rest inductionHypothesis =>
      have less := remaining_lt_weight item
      rw [List.map_cons, List.sum_cons, Item.weights]
      omega

theorem size_le_weight (n : Nested) : n.size ≤ n.weight := by
  have tasks : (n.agenda.map Task.weight).sum =
      n.agenda.foldl (fun total task => total + task.weight) 0 := by
    rw [List.sum_eq_foldl, List.foldl_map]
  have items : (n.registries.map fun r => Item.weights r.items).sum =
      n.registries.foldl (fun total r => total + Item.weights r.items) 0 := by
    rw [List.sum_eq_foldl, List.foldl_map]
  rw [size, weight, tasks, ← items]
  refine Nat.add_le_add_left (List.sum_le_sum fun r _ => ?_) _
  exact sum_remaining_le_weights r.items

theorem finish_agenda (n : Nested) : n.finish.agenda = [] :=
  List.isEmpty_iff.mp (turns_isIdle size (fun _ => True)
    (fun _ busy _ => ⟨trivial, size_step busy⟩) _ trivial n.size_le_weight).2

end Nested

end Registry
end Workbench
