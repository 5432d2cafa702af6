import Workbench.Registry.Basic
import Workbench.Turns

namespace Workbench

/-!
# Registries inside registries

Several registries, numbered in the order in which they were made, each of which may hold others as
items.  An item may push further ones into its own registry while it is disposed; those come
before the older items, as the registry counts as disposed by then.
-/

namespace Registry

/-- What can be pushed into a registry. -/
inductive Item where
  /-- Records its name when it is disposed, and then pushes others into its registry. -/
  | named (name : String) (followers : List Item)
  | registry (number : Nat)

mutual

/-- How many tasks pushing an item can give rise to, that of the push included. -/
def Item.weight : Item → Nat
  | .named _ followers => 2 + Item.weights followers
  | .registry _ => 3

def Item.weights : List Item → Nat
  | [] => 0
  | item :: rest => item.weight + Item.weights rest

end

inductive Task where
  | push (registry : Nat) (item : Item)
  | release (registry : Nat) (item : Item)
  | dispose (registry : Nat)

/-- How many tasks a task can give rise to, itself included and what registries hold apart. -/
def Task.weight : Task → Nat
  | .push _ item => item.weight
  | .release _ item => item.weight - 1
  | .dispose _ => 1

structure Nested where
  registries : List (Registry Item) := [⟨[], false⟩]
  recorded : List String := []
  agenda : List Task := []

namespace Nested

/-- Puts tasks in front of the agenda. -/
def before (n : Nested) (tasks : List Task) : Nested :=
  { n with agenda := tasks ++ n.agenda }

/-- Adds a registry, which is then to be pushed into another one. -/
def nest (n : Nested) (registry : Nat) : Nested :=
  let made : Nested := { n with registries := n.registries ++ [⟨[], false⟩] }
  made.before [.push registry (.registry n.registries.length)]

def perform (n : Nested) : Task → Nested
  | .push registry item =>
    match n.registries[registry]? with
    | none => n
    | some r =>
      let (r, back) := r.push item
      let pushed : Nested := { n with registries := n.registries.set registry r }
      pushed.before (back.toList.map (.release registry))
  | .release registry (.named name followers) =>
    let noted : Nested := { n with recorded := n.recorded ++ [name] }
    noted.before (followers.map (.push registry))
  | .release _ (.registry number) => n.before [.dispose number]
  | .dispose registry =>
    match n.registries[registry]? with
    | none => n
    | some r =>
      let (r, items) := r.take
      let emptied : Nested := { n with registries := n.registries.set registry r }
      emptied.before (items.map (.release registry))

def step (n : Nested) : Nested :=
  match n.agenda with
  | [] => n
  | task :: agenda => ({ n with agenda } : Nested).perform task

/-- The number of tasks until the agenda is empty, or more. -/
def weight (n : Nested) : Nat :=
  n.agenda.foldl (fun total task => total + task.weight) 0 +
    n.registries.foldl (fun total r => total + Item.weights r.items) 0

def finish (n : Nested) : Nested :=
  turns (·.agenda.isEmpty) step n.weight n

end Nested
end Registry
end Workbench
