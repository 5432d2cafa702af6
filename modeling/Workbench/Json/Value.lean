import Workbench.Decimal.Shortest

namespace Workbench

/-!
# JSON values

Whole numbers are kept apart from the others: `1` and `1.0` are different values, and a whole
number is exact however large it is.  An object is a list of fields in the order in which they
were written.
-/

inductive Json where
  | null
  | bool (b : Bool)
  | integer (n : Int)
  | real (x : Binary64)
  | string (s : String)
  | array (items : List Json)
  | object (fields : List (String × Json))
  deriving Repr, Inhabited

namespace Json

/-- Numbers are written positionally from the fifth place after the point up to the sixteenth before
it. -/
def numberLayout : Binary64.Layout :=
  .within (-5) 15

def natural (n : Nat) : Json :=
  .integer n

/-- A text, or null where there is none. -/
def ofText? : Option String → Json
  | some s => .string s
  | none => .null

/-- The value of a field of an object; none if there is no such field or no object. -/
def field? : Json → String → Option Json
  | .object fields, name => fields.lookup name
  | _, _ => none

/-- The fields with one of them set: an earlier value of that name gives way. -/
def setField (name : String) (value : Json) : List (String × Json) → List (String × Json)
  | [] => [(name, value)]
  | (other, old) :: rest =>
    if other = name then (name, value) :: rest else (other, old) :: setField name value rest

theorem lookup_setField_self (name : String) (value : Json) (fields : List (String × Json)) :
    (setField name value fields).lookup name = some value := by
  induction fields with
  | nil => simp [setField]
  | cons entry rest ih =>
    obtain ⟨other, old⟩ := entry
    by_cases h : other = name
    · simp [setField, h]
    · have distinct : (name == other) = false := by simpa using fun equal => h equal.symm
      simp [setField, h, List.lookup_cons, distinct, ih]

end Json
end Workbench
