import Workbench.Decode.Mismatch
import Workbench.Json.Value

namespace Workbench
namespace Json

/-!
# Typed data in JSON values

A record is written as an object, whose unknown fields are ignored, or as an array of its fields
in the order of declaration.
-/

open Decode (Found Mismatch Shape)

/-- What a value is, in the terms of a mismatch. -/
def found : Json → Found
  | .null => .nothing
  | .bool b => .bool b
  | .integer n => .integer n
  | .real x => .real x
  | .string s => .text s
  | .array _ => .sequence
  | .object _ => .map

/-- The message of a mismatch in JSON data. -/
def mismatchMessage (mismatch : Mismatch) : String :=
  mismatch.message ⟨"null", numberLayout⟩

def toText : Json → Except Mismatch String
  | .string s => .ok s
  | other => .error (.invalidType other.found "a string")

def toBool : Json → Except Mismatch Bool
  | .bool b => .ok b
  | other => .error (.invalidType other.found "a boolean")

/-- A natural number of 64 bits, which a message calls by the given name. -/
def toUInt64 (called : String) : Json → Except Mismatch UInt64
  | .integer n =>
    if 0 ≤ n ∧ n < UInt64.size then .ok (UInt64.ofNat n.toNat)
    else .error (.invalidValue (.integer n) called)
  | other => .error (.invalidType other.found called)

def toInt32 : Json → Except Mismatch Int32
  | .integer n =>
    if Int32.minValue.toInt ≤ n ∧ n ≤ Int32.maxValue.toInt then .ok (Int32.ofInt n)
    else .error (.invalidValue (.integer n) "i32")
  | other => .error (.invalidType other.found "i32")

def toOption {α : Type} (read : Json → Except Mismatch α) : Json → Except Mismatch (Option α)
  | .null => .ok none
  | value => (read value).map some

/-- One name out of several, written as a string or as an object whose only field has that name
and no value. -/
def toChoice {α : Type} (offered : List (String × α)) : Json → Except Mismatch α
  | .string s => choose s
  | .object [(name, content)] => do
    let choice ← choose name
    match content with
    | .null => pure choice
    | other => throw (.invalidType other.found "unit")
  | .object _ => .error (.invalidValue .map "map with a single key")
  | other => .error (.invalidType other.found "string or map")
where
  /-- The choice of a given name. -/
  choose (name : String) : Except Mismatch α :=
    match offered.lookup name with
    | some choice => .ok choice
    | none => .error (.unknownVariant name (offered.map Prod.fst))

/-- Sets the fields of a record one after another. -/
def assignAll {α : Type} (assign : α → String → Json → Except Mismatch α) (start : α)
    (fields : List (String × Json)) : Except Mismatch α :=
  fields.foldlM (fun record (name, value) => assign record name value) start

/-- A record in which every field has a default: fields that are not there keep it. -/
def toDefaulted {α : Type} (shape : Shape) (assign : α → String → Json → Except Mismatch α)
    (default : α) : Json → Except Mismatch α
  | .object fields => assignAll assign default fields
  | .array items => do
    let record ← assignAll assign default (shape.fields.zip items)
    if shape.fields.length < items.length then
      throw (.invalidLength items.length "fewer elements in array")
    pure record
  | other => .error (.invalidType other.found shape.expected)

/-- A record in which fields may be missing only as `finish` allows.  Written as an array it has
all of them. -/
def toRecord {α β : Type} (shape : Shape) (assign : α → String → Json → Except Mismatch α)
    (blank : α) (finish : α → Except Mismatch β) : Json → Except Mismatch β
  | .object fields => do finish (← assignAll assign blank fields)
  | .array items => do
    let record ← assignAll assign blank (shape.fields.zip items)
    if items.length < shape.fields.length then
      throw (.invalidLength items.length shape.expectedSequence)
    if shape.fields.length < items.length then
      throw (.invalidLength items.length "fewer elements in array")
    finish record
  | other => .error (.invalidType other.found shape.expected)

def required {α : Type} (name : String) : Option α → Except Mismatch α
  | some value => .ok value
  | none => .error (.missingField name)

end Json
end Workbench
