import Mathlib.Data.List.Perm.Basic
import Workbench.Registry.Nested

namespace Workbench
namespace Registry

/-!
# Calls and what they call

What a call on a registry calls itself can be told from the calls that were made before, without
looking at any registry (`Task.calls`).  All that a call calls is over before the next call is made
(`Unfolds`).  From this alone it follows that every item that was pushed into a registry is disposed
once if the registry is ever disposed, and not at all otherwise (`Unfolds.balanced`).
-/

namespace Task

variable {registry : Nat}

/-- Whether a registry is disposed. -/
def disposes (registry : Nat) : Task → Bool
  | dispose other => other == registry
  | _ => false

/-- The item that is pushed into a registry. -/
def pushed? (registry : Nat) : Task → Option Item
  | push other item => if other = registry then some item else none
  | _ => none

/-- The item that is disposed because it was pushed into a registry. -/
def released? (registry : Nat) : Task → Option Item
  | release other item => if other = registry then some item else none
  | _ => none

/-- The name that is recorded. -/
def name? : Task → Option String
  | release _ (.named name _) => some name
  | _ => none

end Task

/-- Whether a registry was disposed. -/
def wasDisposed (registry : Nat) (history : List Task) : Bool :=
  history.any (Task.disposes registry)

/-- The items that were pushed into a registry, in this order. -/
def pushed (registry : Nat) (history : List Task) : List Item :=
  history.filterMap (Task.pushed? registry)

/-- The items of a registry that were disposed, in this order. -/
def released (registry : Nat) (history : List Task) : List Item :=
  history.filterMap (Task.released? registry)

/-- What a call calls itself, given the calls that were made before it.  An item is disposed while it
is pushed if the registry was disposed before.  The first time that a registry is disposed, all items
are disposed that were pushed into it, the last one first. -/
def Task.calls (history : List Task) : Task → List Task
  | push registry item => if wasDisposed registry history then [release registry item] else []
  | release registry (.named _ followers) => followers.map (push registry)
  | release _ (.registry number) => [dispose number]
  | dispose registry =>
    if wasDisposed registry history then []
    else (pushed registry history).reverse.map (release registry)

/-- After what happened before, calls are made one after the other, each of them together with all
that it calls, and this is what has happened then. -/
inductive Unfolds : List Task → List Task → List Task → Prop
  | nil {history : List Task} : Unfolds history [] history
  | cons {history between after rest : List Task} {task : Task}
      (inner : Unfolds (history ++ [task]) (task.calls history) between)
      (others : Unfolds between rest after) : Unfolds history (task :: rest) after

namespace Unfolds

variable {history after first second : List Task}

theorem append {between : List Task} (one : Unfolds history first between)
    (two : Unfolds between second after) : Unfolds history (first ++ second) after := by
  induction one with
  | nil => exact two
  | cons inner _ _ others => exact .cons inner (others two)

/-- What is called first is over before the rest is called. -/
theorem split (unfolds : Unfolds history (first ++ second) after) :
    ∃ between, Unfolds history first between ∧ Unfolds between second after := by
  induction first generalizing history with
  | nil => exact ⟨history, .nil, unfolds⟩
  | cons task rest inductionHypothesis =>
      cases unfolds with
      | cons inner others =>
          rcases inductionHypothesis others with ⟨between, one, two⟩
          exact ⟨between, .cons inner one, two⟩

theorem grows {tasks : List Task} (unfolds : Unfolds history tasks after) :
    ∃ more, after = history ++ more := by
  induction unfolds with
  | nil => exact ⟨[], (List.append_nil _).symm⟩
  | cons _ _ inner others =>
      rcases inner with ⟨calls, rfl⟩
      rcases others with ⟨more, rfl⟩
      exact ⟨_, by rw [List.append_assoc, List.append_assoc]⟩

theorem head {task : Task} {rest : List Task} (unfolds : Unfolds history (task :: rest) after) :
    ∃ more, after = history ++ task :: more := by
  cases unfolds with
  | cons inner others =>
      rcases inner.grows with ⟨calls, rfl⟩
      rcases others.grows with ⟨more, rfl⟩
      exact ⟨calls ++ more, by simp⟩

/-- Wherever a call is made, all that it calls follows, before anything else. -/
theorem complete {tasks : List Task} (unfolds : Unfolds history tasks after) {before : List Task}
    {task : Task} {rest : List Task} (place : after = before ++ task :: rest)
    (later : history.length ≤ before.length) :
    ∃ inner others, rest = inner ++ others ∧
      Unfolds (before ++ [task]) (task.calls before) (before ++ task :: inner) := by
  induction unfolds generalizing before task rest with
  | nil =>
      rw [place, List.length_append, List.length_cons] at later
      omega
  | @cons history between after others first inner more innerHypothesis othersHypothesis =>
      rcases more.grows with ⟨end', rfl⟩
      rcases List.append_eq_append_iff.mp place with ⟨gap, rfl, tail⟩ | ⟨gap, front, tail⟩
      · exact othersHypothesis place (by simp)
      · cases gap with
        | nil =>
            rw [List.append_nil] at front
            exact othersHypothesis place (Nat.le_of_eq (congrArg List.length front))
        | cons head gap =>
            rw [List.cons_append, List.cons.injEq] at tail
            rcases tail with ⟨rfl, rfl⟩
            by_cases same : before.length = history.length
            · -- It is the first call itself.
              rcases inner.grows with ⟨calls, grown⟩
              rw [grown, List.append_assoc, List.singleton_append] at front
              rcases List.append_inj front same.symm with ⟨rfl, here⟩
              rw [List.cons.injEq] at here
              rcases here with ⟨rfl, rfl⟩
              refine ⟨calls, end', rfl, ?_⟩
              rw [grown, List.append_assoc, List.singleton_append] at inner
              exact inner
            · rcases innerHypothesis front (by simp; omega) with ⟨calls, others', rest, unfolds⟩
              exact ⟨calls, others' ++ end', by rw [rest, List.append_assoc], unfolds⟩

end Unfolds

/-! ## Every item once -/

variable {registry : Nat} {history tasks : List Task}

theorem wasDisposed_concat (registry : Nat) (history : List Task) (task : Task) :
    wasDisposed registry (history ++ [task]) =
      (wasDisposed registry history || task.disposes registry) := by
  simp [wasDisposed]

theorem pushed_concat (registry : Nat) (history : List Task) (task : Task) :
    pushed registry (history ++ [task]) =
      pushed registry history ++ (task.pushed? registry).toList := by
  rw [pushed, List.filterMap_append]
  cases pushed : task.pushed? registry <;> simp [pushed, Registry.pushed]

theorem released_append (registry : Nat) (first second : List Task) :
    released registry (first ++ second) = released registry first ++ released registry second :=
  List.filterMap_append

theorem released_pushes (registry other : Nat) (items : List Item) :
    released registry (items.map (.push other)) = [] := by
  simp [released, List.filterMap_eq_nil_iff, Task.released?]

theorem released_releases (registry : Nat) (items : List Item) :
    released registry (items.map (.release registry)) = items := by
  induction items with
  | nil => rfl
  | cons item rest inductionHypothesis =>
      rw [released] at inductionHypothesis
      simp [released, Task.released?, inductionHypothesis]

theorem released_releases_of_ne {other : Nat} (different : other ≠ registry) (items : List Item) :
    released registry (items.map (.release other)) = [] := by
  simp [released, List.filterMap_eq_nil_iff, Task.released?, different]

/-- The items of a registry that have to be disposed at some time: those that were pushed into it, if
it was disposed. -/
def due (registry : Nat) (history : List Task) : List Item :=
  if wasDisposed registry history then pushed registry history else []

/-- The items of a registry that were disposed, and those that are still to be by the given calls,
are those that have to be. -/
def Balanced (registry : Nat) (history tasks : List Task) : Prop :=
  (released registry history ++ released registry tasks).Perm (due registry history)

theorem due_concat_of_not_disposes {task : Task} (spares : task.disposes registry = false)
    (history : List Task) :
    due registry (history ++ [task]) =
      if wasDisposed registry history then
        pushed registry history ++ (task.pushed? registry).toList
      else [] := by
  rw [due, wasDisposed_concat, spares, Bool.or_false, pushed_concat]

/-- A call that has nothing to do with the items of a registry leaves everything balanced. -/
theorem Balanced.unaffected {task : Task} {rest : List Task}
    (balanced : Balanced registry history (task :: rest))
    (silent : released registry (task.calls history) = [])
    (same : due registry (history ++ [task]) = due registry history) :
    Balanced registry (history ++ [task]) (task.calls history ++ rest) := by
  unfold Balanced at balanced ⊢
  rw [same, released_append, released_append, silent, List.nil_append, List.append_assoc,
    ← released_append]
  exact balanced

theorem Balanced.push {other : Nat} {item : Item} {rest : List Task}
    (balanced : Balanced registry history (.push other item :: rest)) :
    Balanced registry (history ++ [.push other item])
      ((Task.push other item).calls history ++ rest) := by
  by_cases here : other = registry
  · subst here
    cases disposed : wasDisposed other history with
    | true =>
        have calls : (Task.push other item).calls history = [.release other item] := if_pos disposed
        have after : due other (history ++ [.push other item]) = due other history ++ [item] := by
          rw [due_concat_of_not_disposes rfl, due, if_pos disposed, if_pos disposed]
          simp [Task.pushed?]
        have waits : released other (.release other item :: rest) = item :: released other rest := by
          simp [released, Task.released?]
        unfold Balanced at balanced ⊢
        rw [calls, after, List.singleton_append, waits, released_append]
        show (released other history ++ [] ++ item :: released other rest).Perm _
        rw [List.append_nil]
        exact List.perm_middle.trans
          ((balanced.cons item).trans (List.perm_append_singleton item _).symm)
    | false =>
        have calls : (Task.push other item).calls history = [] := by
          rw [Task.calls, disposed]
          rfl
        have after : due other (history ++ [.push other item]) = due other history := by
          rw [due_concat_of_not_disposes rfl, due, disposed]
          rfl
        exact balanced.unaffected (by rw [calls]; rfl) after
  · have calls : released registry ((Task.push other item).calls history) = [] := by
      rw [Task.calls]
      split
      · exact released_releases_of_ne here [item]
      · rfl
    have after : due registry (history ++ [.push other item]) = due registry history := by
      rw [due_concat_of_not_disposes rfl, due]
      simp [Task.pushed?, here]
    exact balanced.unaffected calls after

theorem Balanced.release {other : Nat} {item : Item} {rest : List Task}
    (balanced : Balanced registry history (.release other item :: rest)) :
    Balanced registry (history ++ [.release other item])
      ((Task.release other item).calls history ++ rest) := by
  have calls : released registry ((Task.release other item).calls history) = [] := by
    cases item with
    | named name followers => exact released_pushes registry other followers
    | registry number => rfl
  have after : due registry (history ++ [.release other item]) = due registry history := by
    rw [due_concat_of_not_disposes rfl, due]
    simp [Task.pushed?]
  exact balanced.unaffected calls after

theorem Balanced.dispose {other : Nat} {rest : List Task}
    (balanced : Balanced registry history (.dispose other :: rest)) :
    Balanced registry (history ++ [.dispose other])
      ((Task.dispose other).calls history ++ rest) := by
  have unpushed : pushed registry (history ++ [.dispose other]) = pushed registry history := by
    rw [pushed_concat]
    exact List.append_nil _
  by_cases here : other = registry
  · subst here
    have after : due other (history ++ [.dispose other]) = pushed other history := by
      rw [due, wasDisposed_concat, unpushed]
      simp [Task.disposes]
    cases disposed : wasDisposed other history with
    | true =>
        have calls : (Task.dispose other).calls history = [] := if_pos disposed
        refine balanced.unaffected (by rw [calls]; rfl) ?_
        rw [after, due, if_pos disposed]
    | false =>
        have calls : (Task.dispose other).calls history =
            (pushed other history).reverse.map (.release other) := by
          rw [Task.calls, disposed]
          rfl
        have nothing : due other history = [] := by
          rw [due, disposed]
          rfl
        -- Nothing was disposed so far, and nothing else is to be.
        have none : released other history ++ released other (.dispose other :: rest) = [] := by
          unfold Balanced at balanced
          rw [nothing] at balanced
          exact balanced.eq_nil
        rcases List.append_eq_nil_iff.mp none with ⟨before, later⟩
        have later : released other rest = [] := later
        unfold Balanced
        rw [after, calls, released_append, released_append, released_releases, before, later]
        show ([] ++ [] ++ ((pushed other history).reverse ++ [])).Perm _
        rw [List.append_nil, List.nil_append, List.append_nil]
        exact List.reverse_perm _
  · have calls : released registry ((Task.dispose other).calls history) = [] := by
      rw [Task.calls]
      split
      · rfl
      · exact released_releases_of_ne here _
    refine balanced.unaffected calls ?_
    rw [due, wasDisposed_concat, unpushed, due]
    simp [Task.disposes, here]

theorem Balanced.call {task : Task} {rest : List Task}
    (balanced : Balanced registry history (task :: rest)) :
    Balanced registry (history ++ [task]) (task.calls history ++ rest) := by
  cases task with
  | push other item => exact balanced.push
  | release other item => exact balanced.release
  | dispose other => exact balanced.dispose

/-- When calls are over, what they had to dispose is disposed. -/
theorem Unfolds.balanced {after : List Task} (unfolds : Unfolds history tasks after)
    {rest : List Task} (balanced : Balanced registry history (tasks ++ rest)) :
    Balanced registry after rest := by
  induction unfolds generalizing rest with
  | nil => exact balanced
  | @cons history between after others task _ _ inner more =>
      have called : Balanced registry (history ++ [task]) (task.calls history ++ (others ++ rest)) :=
        Balanced.call balanced
      exact more (inner called)

/-- Of calls that dispose no item themselves, each item is disposed as often as it has to be. -/
theorem Unfolds.released_perm {after : List Task} (unfolds : Unfolds [] tasks after)
    (none : released registry tasks = []) :
    (released registry after).Perm (due registry after) := by
  have balanced : Balanced registry [] (tasks ++ []) := by
    rw [List.append_nil]
    unfold Balanced
    rw [none]
    exact List.Perm.nil
  have all := unfolds.balanced balanced
  unfold Balanced at all
  rw [← released_append, List.append_nil] at all
  exact all

end Registry
end Workbench
