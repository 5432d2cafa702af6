import Workbench.Text.Quoted

namespace Workbench
namespace Text

/-!
# Descriptions

One-line descriptions of values for logs and inspection: a named record with its fields, an
optional value, a list, a named wrapper.
-/

/-- A type whose values describe themselves on one line. -/
class Describe (α : Type) where
  /-- The description. -/
  describe : α → String

export Describe (describe)

/-- A name and a few entries between braces. -/
private def describeBraced (name : String) (entries : List String) : String :=
  name ++ " \x7b " ++ ", ".intercalate entries ++ " \x7d"

private def describeField : String × String → String
  | (field, value) => field ++ ": " ++ value

/-- A record: its name, then its fields in order between braces. -/
def describeRecord (name : String) (fields : List (String × String)) : String :=
  describeBraced name (fields.map describeField)

/-- A record that keeps something to itself ends in two dots. -/
def describeOpenRecord (name : String) (fields : List (String × String)) : String :=
  describeBraced name (fields.map describeField ++ [".."])

def describeWrapped (name : String) (inner : String) : String :=
  name ++ "(" ++ inner ++ ")"

def describeList (items : List String) : String :=
  "[" ++ ", ".intercalate items ++ "]"

instance : Describe String := ⟨quoted⟩

instance : Describe Nat := ⟨fun n => Nat.repr n⟩

instance : Describe Int where
  describe
    | .ofNat n => Nat.repr n
    | .negSucc n => "-" ++ Nat.repr (n + 1)

instance : Describe Bool := ⟨fun b => if b then "true" else "false"⟩

instance {α : Type} [Describe α] : Describe (Option α) where
  describe
    | none => "None"
    | some a => describeWrapped "Some" (describe a)

instance {α : Type} [Describe α] : Describe (List α) :=
  ⟨fun items => describeList (items.map describe)⟩

end Text
end Workbench
