import Workbench.Error
import Workbench.Json.Decode
import Workbench.Url.File

namespace Workbench

/-!
# Documents

A text document as the editor sees it.  It is identified by its URL; where that URL is one of a
file the document has a path, and elsewhere the URL's own path serves.
-/

structure Document where
  uri : Url
  languageId : String
  version : Int32 := 0
  deriving DecidableEq, Repr

namespace Document

def ofFilePath (path : FilePath) (languageId : String) : Except Error Document :=
  match Url.ofFilePath? path with
  | some uri => .ok { uri, languageId }
  | none => .error (.invalidInput ("not an absolute path: " ++ path.lenient))

/-- The path of the document, if it has one. -/
def filePath? (document : Document) : Option FilePath :=
  if document.uri.scheme == "file" then document.uri.filePath?
  else if document.uri.path.isEmpty then none
  else some (FilePath.ofString document.uri.path)

/-- The last component of the document's path, if any, as text. -/
def baseName? (document : Document) : Option String :=
  (document.filePath?.bind FilePath.fileName?).map Text.Utf8.lenient

instance : Text.Describe Int32 := ⟨fun n => Text.describe n.toInt⟩

instance : Text.Describe Document where
  describe document := Text.describeRecord "TextDocument"
    [("uri", Text.describe document.uri), ("language_id", Text.describe document.languageId),
     ("version", Text.describe document.version)]

open Decode (Mismatch Shape)

def shape : Shape := ⟨"TextDocument", ["uri", "languageId", "version"]⟩

/-- A document whose fields are being read. -/
structure Draft where
  uri : Option Url := none
  languageId : Option String := none
  version : Option Int32 := none

def urlOfJson : Json → Except Mismatch Url
  | .string s =>
    match Url.parse s with
    | .ok url => .ok url
    | .error fault => .error (.malformed (fault.message ++ ": " ++ Text.describe s))
  | other => .error (.invalidType other.found "a string representing an URL")

def Draft.assign (draft : Draft) (field : String) (value : Json) : Except Mismatch Draft :=
  match field with
  | "uri" => do pure { draft with uri := some (← urlOfJson value) }
  | "languageId" => do pure { draft with languageId := some (← value.toText) }
  | "version" => do pure { draft with version := some (← value.toInt32) }
  | _ => pure draft

/-- The document, if all its fields are there. -/
def Draft.finish (draft : Draft) : Except Mismatch Document := do
  let uri ← Json.required "uri" draft.uri
  let languageId ← Json.required "languageId" draft.languageId
  let version ← Json.required "version" draft.version
  pure { uri, languageId, version }

/-- The document that data stands for. -/
def ofJson : Json → Except Mismatch Document :=
  Json.toRecord shape Draft.assign {} Draft.finish

def toJson (document : Document) : Json :=
  .object [("uri", .string document.uri.text), ("languageId", .string document.languageId),
    ("version", .integer document.version.toInt)]

end Document
end Workbench
