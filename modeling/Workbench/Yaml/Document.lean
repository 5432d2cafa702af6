import Workbench.Yaml.Event

namespace Workbench
namespace Yaml

/-!
# Documents

The first document of a YAML text, as far as it is well formed, with aliases pointing to the nodes
they repeat; and whether the text is well formed to its end and holds no other document.

An anchor is known by the number of different names before it.  A name that is used again takes the
number that the next new name will take too, and the later of the two is what aliases repeat.
-/

inductive Piece where
  | nothing
  | alias (number : Nat)
  | scalar (scalar : Scalar)
  | sequenceStart
  | sequenceEnd
  | mappingStart
  | mappingEnd
  deriving DecidableEq, Repr

inductive Ending where
  /-- With the text. -/
  | complete
  /-- Where something malformed stands in it. -/
  | malformed
  /-- Where another document follows, well formed or not. -/
  | followed
  deriving DecidableEq, Repr

structure Document where
  pieces : Array Piece := #[]
  names : List (List Char × Nat) := []
  places : List (Nat × Nat) := []
  ending : Ending := .malformed

namespace Document

def add (d : Document) (piece : Piece) : Document :=
  { d with pieces := d.pieces.push piece }

/-- Notes an anchor for the piece that comes next. -/
def note (d : Document) (anchor : Option (List Char)) : Document :=
  match anchor with
  | none => d
  | some name =>
    let number := d.names.length
    { d with
      names := (name, number) :: d.names.filter fun entry => entry.1 != name
      places := (number, d.pieces.size) :: d.places.filter fun entry => entry.1 != number }

/-- Reads events up to the end of the first document.  The second part is the grammar after it,
unless the text ended or is malformed. -/
def read : Nat → Document → Grammar → Document × Option Grammar
  | 0, d, _ => (d, none)
  | fuel + 1, d, g =>
    match g.step with
    | none => (d, none)
    | some (event, g) =>
      match event with
      | .streamStart | .documentStart => read fuel d g
      | .streamEnd => ({ d.add .nothing with ending := .complete }, none)
      | .documentEnd => (d, some g)
      | .alias name =>
        match d.names.lookup name with
        | some number => read fuel (d.add (.alias number)) g
        | none => (d, none)
      | .scalar scalar => read fuel ((d.note scalar.anchor).add (.scalar scalar)) g
      | .sequenceStart anchor => read fuel ((d.note anchor).add .sequenceStart) g
      | .sequenceEnd => read fuel (d.add .sequenceEnd) g
      | .mappingStart anchor => read fuel ((d.note anchor).add .mappingStart) g
      | .mappingEnd => read fuel (d.add .mappingEnd) g

/-- The number of octets of a text that are looked at together. -/
def blockSize : Nat := 16384

/-- What can be read of a text, and whether that is all of it, after the beginning of a block, which
is given from its end, and with room for so many octets in the block.  A character that may not
occur makes its whole block unreadable. -/
def readable : List Char → Nat → List Char → List Char × Bool
  | block, _, [] => (block.reverse, true)
  | block, room, c :: rest =>
    if room < c.utf8Size then
      let (others, isAll) :=
        if isAllowed c then readable [c] (blockSize - c.utf8Size) rest else ([], false)
      (block.reverse ++ others, isAll)
    else if isAllowed c then readable (c :: block) (room - c.utf8Size) rest
    else ([], false)

def ofText (text : String) : Document :=
  let (chars, isAll) := readable [] blockSize text.toList
  let reader := Reader.ofText chars !isAll
  match read (20 * chars.length + 100) {} { reader } with
  | (d, none) => d
  | (d, some g) =>
    match g.step with
    | some (.streamEnd, _) => { d with ending := .complete }
    | _ => { d with ending := .followed }

/-- The node that an anchor of a number stands for. -/
def place? (d : Document) (number : Nat) : Option Nat :=
  d.places.lookup number

end Document

/-- Whether the first node of a text stands at its very beginning. -/
def beginsAtOnce (text : List Char) : Bool :=
  let cursor := (Reader.ofText text false).cursor
  let isSkipped := ['#', '%', byteOrderMark].contains cursor.peek
  !isGap cursor.peek && !isSkipped && !cursor.isDocumentMark

end Yaml
end Workbench
