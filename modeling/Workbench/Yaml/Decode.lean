import Workbench.Yaml.Document
import Workbench.Yaml.Schema

namespace Workbench
namespace Yaml

/-!
# Typed data in YAML documents

A record is written as a mapping, whose unknown keys are ignored.  A value that is not there at all
makes a record with the default of every field.  Data is looked at in the order of the text, so of
several failures the first in the text is the one reported, and a document that breaks off further
on does not hide it.
-/

open Decode (Mismatch Shape)

/-- Why a document does not give the data asked for. -/
inductive Failure where
  /-- It breaks off before all of the data was seen. -/
  | unreadable
  /-- It holds other data at the end of a path of keys. -/
  | mismatch (path : List String) (mismatch : Mismatch)
  deriving DecidableEq, Repr

/-- The message of a mismatch in YAML data, with the path to it. -/
def mismatchMessage (path : List String) (mismatch : Mismatch) : String :=
  let message := mismatch.message ⟨"unit value", .positional⟩
  if path.isEmpty then message else ".".intercalate path ++ ": " ++ message

namespace Document

/-- The position after the node at a position. -/
def after (d : Document) : Nat → Nat → Nat → Except Failure Nat
  | 0, _, _ => .error .unreadable
  | fuel + 1, depth, position =>
    match d.pieces[position]? with
    | none => .error .unreadable
    | some .sequenceStart | some .mappingStart => after d fuel (depth + 1) (position + 1)
    | some .sequenceEnd | some .mappingEnd =>
      if depth ≤ 1 then .ok (position + 1) else after d fuel (depth - 1) (position + 1)
    | some _ => if depth = 0 then .ok (position + 1) else after d fuel depth (position + 1)

end Document

/-- A node of a document and the path of keys that leads to it. -/
structure Node where
  document : Document
  path : List String := []
  position : Nat := 0

namespace Node

def piece (n : Node) : Except Failure Piece :=
  match n.document.pieces[n.position]? with
  | some piece => .ok piece
  | none => .error .unreadable

/-- The node that an alias repeats; any other node is itself. -/
def followed (n : Node) : Node :=
  match n.document.pieces[n.position]? with
  | some (.alias number) =>
    { n with position := (n.document.place? number).getD n.document.pieces.size }
  | _ => n

def after (n : Node) : Except Failure Nat :=
  n.document.after (n.document.pieces.size + 1) 0 n.position

def fail {α : Type} (n : Node) (mismatch : Mismatch) : Except Failure α :=
  .error (.mismatch n.path mismatch)

/-- The failure of a node that is not what is expected. -/
def unexpected {α : Type} (n : Node) (expected : String) : Except Failure α := do
  match ← n.piece with
  | .scalar s => n.fail (s.mismatch expected)
  | .sequenceStart => n.fail (.invalidType .sequence expected)
  | .mappingStart => n.fail (.invalidType .map expected)
  | _ => .error .unreadable

/-- The text of a scalar, whatever else it may stand for. -/
def textOr (expected : String) (n : Node) : Except Failure String := do
  let n := n.followed
  match ← n.piece with
  | .scalar s => pure (String.ofList s.text)
  | _ => n.unexpected expected

def toText : Node → Except Failure String :=
  textOr "a string"

def toBool (n : Node) : Except Failure Bool := do
  let n := n.followed
  match ← n.piece with
  | .scalar s =>
    match truth? s.text with
    | some b => if s.mayBe Scalar.boolTag then pure b else n.unexpected "a boolean"
    | none => n.unexpected "a boolean"
  | _ => n.unexpected "a boolean"

/-- A natural number of 64 bits, which a message calls by the given name. -/
def toUInt64 (called : String) (n : Node) : Except Failure UInt64 := do
  let n := n.followed
  match ← n.piece with
  | .scalar s =>
    match natural? s.text with
    | some value =>
      if s.mayBe Scalar.intTag && value < UInt64.size then pure (UInt64.ofNat value)
      else n.unexpected called
    | none => n.unexpected called
  | _ => n.unexpected called

/-- A value, or none.  The tag of the missing value on anything else is a failure of the record
around the node. -/
def toOption {α : Type} (read : Node → Except Failure α) (n : Node) :
    Except Failure (Option α) := do
  let n := n.followed
  match ← n.piece with
  | .nothing => pure none
  | .scalar s =>
    if s.style ≠ .plain then some <$> read n
    else
      match s.tag with
      | some tag =>
        if tag = Scalar.nullTag then
          if isNull s.text then pure none
          else .error (.mismatch n.path.dropLast (.invalidValue s.asText "null"))
        else some <$> read n
      | none => if s.text.isEmpty || isNull s.text then pure none else some <$> read n
  | _ => some <$> read n

/-- Reads the keys and values of a mapping from a position on.  A key that is an alias has no name
in a path. -/
def assignAll {α : Type} (n : Node) (shape : Shape)
    (assign : α → String → Node → Except Failure α) :
    Nat → List String → α → Nat → Except Failure α
  | 0, _, _, _ => .error .unreadable
  | fuel + 1, seen, record, position => do
    let key : Node := { n with position }
    match ← key.piece with
    | .mappingEnd => pure record
    | piece =>
      let name ← key.textOr "field identifier"
      let shown :=
        match piece with
        | .scalar _ => name
        | _ => "?"
      let value : Node := { n with path := n.path ++ [shown], position := position + 1 }
      if name ∈ shape.fields then
        if name ∈ seen then n.fail (.duplicateField name)
        else do
          let record ← assign record name value
          assignAll n shape assign fuel (name :: seen) record (← value.after)
      else assignAll n shape assign fuel seen record (← value.after)

/-- A record in which every field has a default: fields that are not there keep it. -/
def toDefaulted {α : Type} (shape : Shape) (assign : α → String → Node → Except Failure α)
    (default : α) (n : Node) : Except Failure α := do
  let n := n.followed
  match ← n.piece with
  | .nothing => pure default
  | .mappingStart =>
    n.assignAll shape assign (n.document.pieces.size + 1) [] default (n.position + 1)
  | .scalar s =>
    if s.text.isEmpty && s.style = .plain then pure default else n.unexpected shape.expected
  | _ => n.unexpected shape.expected

end Node
end Yaml
end Workbench
