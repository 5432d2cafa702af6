import Workbench.FilePath
import Workbench.Settings.Yaml

namespace Workbench

/-!
# Settings in files

Loading settings from a file fails in the ways in which reading a file can fail, and in those in
which its text can.
-/

/-- What stands at a path of a file system. -/
inductive FileEntry where
  | missing
  | directory
  | file (content : List UInt8)
  deriving DecidableEq, Repr

namespace FileEntry

/-- The greatest number of octets of a component of a path. -/
def componentLimit : Nat := 255

/-- The greatest number of octets of a path. -/
def pathLimit : Nat := 4095

/-- The error for a path or a component beyond its limit. -/
def tooLong : Error := .io "File name too long (os error 36)"

/-- What a path leads to, if the given entry is all that was made under that name.  Where nothing
was made, the first component of a name decides: there is nothing of that name, and a path that
names nothing leads to a directory. -/
def reached (path : FilePath) (made : FileEntry) : Except Error FileEntry :=
  if path.octets.contains 0 then .error (.io "file name contained an unexpected NUL byte")
  else if pathLimit < path.octets.length then .error tooLong
  else if made ≠ .missing || path.octets.isEmpty then .ok made
  else
    match path.components.find? (· ≠ FilePath.parent) with
    | some name => if componentLimit < name.length then .error tooLong else .ok .missing
    | none => .ok .directory

def text : FileEntry → Except Error String
  | missing => .error (.io "No such file or directory (os error 2)")
  | directory => .error (.io "Is a directory (os error 21)")
  | file content =>
    match Text.Utf8.decode? content with
    | some text => .ok text
    | none => .error (.io "stream did not contain valid UTF-8")

end FileEntry

namespace Settings

/-- The settings in the file that a path leads to. -/
def ofFile (path : FilePath) (made : FileEntry) : Except LoadFault Settings :=
  match (made.reached path).bind FileEntry.text with
  | .error error => .error (.inaccessible error)
  | .ok text => ofYaml text

/-- What went wrong from the user's point of view, if loading from a path fails. -/
def loadContext (path : FilePath) : String :=
  "Failed to load configuration from " ++ path.lenient

end Settings
end Workbench
