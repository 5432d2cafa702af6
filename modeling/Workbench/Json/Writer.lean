import Workbench.Json.Value
import Workbench.Text.Description
import Workbench.Text.Hex

namespace Workbench
namespace Json

/-!
# Writing JSON

The compact form on one line.  Control characters are escaped, all else stands for itself.
-/

/-- How a character is written in a string. -/
def escape (c : Char) : List Char :=
  if c = '"' then ['\\', '"']
  else if c = '\\' then ['\\', '\\']
  else if c = '\n' then ['\\', 'n']
  else if c = '\r' then ['\\', 'r']
  else if c = '\t' then ['\\', 't']
  else if c.toNat < 0x20 then ['\\', 'u', '0', '0'] ++ Text.Hex.octet c.toNat.toUInt8
  else [c]

def writeString (s : String) : String :=
  String.ofList ('"' :: (s.toList.flatMap escape ++ ['"']))

mutual

def write : Json → String
  | .null => "null"
  | .bool b => if b then "true" else "false"
  | .integer n => Text.describe n
  | .real x => if x.isFinite then x.text numberLayout else "null"
  | .string s => writeString s
  | .array items => "[" ++ ",".intercalate (writeItems items) ++ "]"
  | .object fields => "\x7b" ++ ",".intercalate (writeFields fields) ++ "\x7d"

/-- The texts of the items of an array. -/
def writeItems : List Json → List String
  | [] => []
  | item :: rest => write item :: writeItems rest

/-- The texts of the fields of an object. -/
def writeFields : List (String × Json) → List String
  | [] => []
  | (name, value) :: rest => (writeString name ++ ":" ++ write value) :: writeFields rest

end

end Json
end Workbench
