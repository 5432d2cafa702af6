import Workbench.Decimal.Shortest
import Workbench.Text.Description

namespace Workbench
namespace Decode

/-!
# Data of the wrong shape

Settings and documents arrive as untyped data.  A mismatch says what was found where something
else was expected.
-/

inductive Found where
  | nothing
  | bool (b : Bool)
  | integer (n : Int)
  /-- A whole number beyond 64 bits, with the name of the width it was read in. -/
  | wideInteger (n : Int) (width : String)
  | real (x : Binary64)
  | text (s : String)
  | sequence
  | map
  deriving DecidableEq, Repr

/-- Why data does not have the expected shape. -/
inductive Mismatch where
  | invalidType (found : Found) (expected : String)
  /-- A value of the right type, but not one of the possible ones. -/
  | invalidValue (found : Found) (expected : String)
  | invalidLength (length : Nat) (expected : String)
  | missingField (name : String)
  | duplicateField (name : String)
  | unknownVariant (name : String) (offered : List String)
  | malformed (reason : String)
  deriving DecidableEq, Repr

structure Wording where
  nothing : String
  layout : Binary64.Layout

namespace Found

def message (wording : Wording) : Found → String
  | nothing => wording.nothing
  | bool b => "boolean `" ++ Text.describe b ++ "`"
  | integer n => "integer `" ++ Text.describe n ++ "`"
  | wideInteger n width => "integer `" ++ Text.describe n ++ "` as " ++ width
  | real x => "floating point `" ++ x.text wording.layout ++ "`"
  | text s => "string " ++ Text.describe s
  | sequence => "sequence"
  | map => "map"

end Found

namespace Mismatch

private def named (name : String) : String :=
  "`" ++ name ++ "`"

def message (wording : Wording) : Mismatch → String
  | invalidType found expected =>
    "invalid type: " ++ found.message wording ++ ", expected " ++ expected
  | invalidValue found expected =>
    "invalid value: " ++ found.message wording ++ ", expected " ++ expected
  | invalidLength length expected =>
    "invalid length " ++ Text.describe length ++ ", expected " ++ expected
  | missingField name => "missing field " ++ named name
  | duplicateField name => "duplicate field " ++ named name
  | unknownVariant name offered =>
    "unknown variant " ++ named name ++ ", expected one of " ++
      ", ".intercalate (offered.map named)
  | malformed reason => reason

end Mismatch

/-- The shape of a record: its name, and its fields in the order of declaration. -/
structure Shape where
  name : String
  fields : List String

namespace Shape

/-- What is expected where such a record should stand. -/
def expected (shape : Shape) : String :=
  "struct " ++ shape.name

/-- What is expected where the record is written as a sequence. -/
def expectedSequence (shape : Shape) : String :=
  shape.expected ++ " with " ++ Text.describe shape.fields.length ++
    (if shape.fields.length = 1 then " element" else " elements")

end Shape
end Decode
end Workbench
