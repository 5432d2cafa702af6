import Workbench.Text.Utf8

namespace Workbench

/-!
# File paths

A path is an octet sequence.  Its components are what stands between slashes, where repeated
slashes, a slash at the end and components that are a single dot do not count.
-/

structure FilePath where
  octets : List UInt8
  deriving DecidableEq, Repr

namespace FilePath

def slash : UInt8 := 0x2F

def dot : UInt8 := 0x2E

/-- The component that leads to the parent. -/
def parent : List UInt8 := [dot, dot]

def ofString (s : String) : FilePath :=
  ⟨Text.Utf8.ofString s⟩

/-- The path as text, with what is not UTF-8 replaced. -/
def lenient (path : FilePath) : String :=
  Text.Utf8.lenient path.octets

/-- Whether the path starts at the root. -/
def isAbsolute (path : FilePath) : Bool :=
  path.octets.head? == some slash

/-- The pieces of an octet sequence between slashes. -/
def split (octets : List UInt8) : List (List UInt8) :=
  octets.splitOn slash

/-- Whether a piece between slashes is a component. -/
def isComponent (piece : List UInt8) : Bool :=
  !piece.isEmpty && piece != [dot]

/-- The components of a path below the root. -/
def components (path : FilePath) : List (List UInt8) :=
  (split path.octets).filter isComponent

/-- The last component, unless it leads to the parent. -/
def fileName? (path : FilePath) : Option (List UInt8) :=
  match path.components.getLast? with
  | some name => if name = parent then none else some name
  | none => none

end FilePath
end Workbench
