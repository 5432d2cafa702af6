import Workbench.FilePath
import Workbench.Url.Parse

namespace Workbench
namespace Url

/-!
# URLs of files

The URL of a file names its path component by component, with every octet encoded that would mean
something else in a URL.  The way back decodes the segments.
-/

/-- The URL of a file, if its path is absolute. -/
def ofFilePath? (file : FilePath) : Option Url :=
  if file.isAbsolute then
    let segments := file.components.map fun component =>
      '/' :: Percent.encode Percent.segment component
    let written := if segments.isEmpty then ['/'] else segments.flatten
    some { scheme := "file", hasAuthority := true, path := String.ofList written }
  else none

/-- A path that ends in a drive letter names the root of that drive. -/
def closeDrive (octets : List UInt8) : List UInt8 :=
  match octets.reverse with
  | mark :: letter :: _ :: _ =>
    if Path.isDrive (Char.ofNat letter.toNat) (Char.ofNat mark.toNat) then
      octets ++ [FilePath.slash]
    else octets
  | _ => octets

/-- The octets of a path whose segments are given. -/
def joinSegments (segments : List (List UInt8)) : List UInt8 :=
  segments.flatMap fun segment => FilePath.slash :: Percent.decode segment

/-- The path of the file that a URL stands for, if it has segments and is not on another host. -/
def filePath? (url : Url) : Option FilePath :=
  if url.isRootless then none
  else
    match url.host with
    | none => local? url
    | some (.domain "localhost") => local? url
    | some _ => none
where
  /-- The path on this machine. -/
  local? (url : Url) : Option FilePath :=
    some ⟨closeDrive (joinSegments (FilePath.split (Text.Utf8.ofString url.path)).tail)⟩

end Url
end Workbench
