import Workbench.Text.Description

namespace Workbench

/-!
# Registries of things to dispose

A registry disposes what was pushed into it, the last thing first.  It is disposed itself from the
moment its items are taken out, so what is pushed later is handed straight back for disposal, and
no item can be taken out twice.
-/

/-- A registry of things to dispose. -/
structure Registry (α : Type) where
  /-- What is registered, the oldest first. -/
  items : List α := []
  /-- Whether the registry has been disposed. -/
  disposed : Bool := false
  deriving DecidableEq, Repr

namespace Registry

variable {α : Type}

/-- Registers an item, or hands it back if it has to be disposed at once. -/
def push (r : Registry α) (item : α) : Registry α × Option α :=
  if r.disposed then (r, some item) else ({ r with items := r.items ++ [item] }, none)

/-- Disposes the registry and gives the items in the order in which they have to be disposed. -/
def take (r : Registry α) : Registry α × List α :=
  ({ items := [], disposed := true }, r.items.reverse)

def size (r : Registry α) : Nat :=
  r.items.length

theorem take_push_of_open {r : Registry α} (h : r.disposed = false) (item : α) :
    (r.push item).1.take.2 = item :: r.take.2 := by
  simp [push, take, h]

theorem take_take (r : Registry α) : r.take.1.take = (r.take.1, []) :=
  rfl

instance : Text.Describe (Registry α) where
  describe r := Text.describeRecord "DisposableRegistry"
    [("items", Text.describe r.size), ("disposed", Text.describe r.disposed)]

end Registry
end Workbench
