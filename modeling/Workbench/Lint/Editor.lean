import Workbench.Document
import Workbench.Lint.Switches

namespace Workbench
namespace Lint

/-!
# Editors

The open editors, one entry for each; a document may be open in several.  A document is open as
long as one editor shows it, and it is listed once however many do.
-/

structure Editors where
  /-- The document in each editor, in the order in which they were opened. -/
  shown : List Document := []
  deriving DecidableEq

namespace Editors

def add (editors : Editors) (document : Document) : Editors :=
  { shown := editors.shown ++ [document] }

/-- Closes the first editor that shows a document. -/
def close (editors : Editors) (uri : Url) : Editors :=
  { shown := editors.shown.eraseP fun document => document.uri == uri }

/-- How many editors show a document. -/
def count (editors : Editors) (uri : Url) : Nat :=
  editors.shown.countP fun document => document.uri == uri

def isOpen (editors : Editors) (uri : Url) : Bool :=
  editors.shown.any fun document => document.uri == uri

/-- Adds a document to a list unless one of the same URL is there. -/
def insertNew (documents : List Document) (document : Document) : List Document :=
  if documents.any fun seen => seen.uri == document.uri then documents
  else documents ++ [document]

def documents (editors : Editors) : List Document :=
  editors.shown.foldl insertNew []

theorem isOpen_iff_count_pos (editors : Editors) (uri : Url) :
    editors.isOpen uri = true ↔ 0 < editors.count uri := by
  simp [isOpen, count, List.countP_pos_iff]

theorem count_add (editors : Editors) (document : Document) (uri : Url) :
    (editors.add document).count uri =
      editors.count uri + if document.uri = uri then 1 else 0 := by
  simp [add, count, List.countP_append, List.countP_cons]

end Editors

/-- The lint switches in effect, with exceptions for single documents. -/
structure SwitchTable where
  default : Switches := {}
  overrides : List (Url × Switches) := []
  deriving DecidableEq

namespace SwitchTable

/-- The switches in effect for a document. -/
def switches (table : SwitchTable) (uri : Url) : Switches :=
  (table.overrides.lookup uri).getD table.default

/-- Makes an exception, in place of an earlier one. -/
def override (table : SwitchTable) (uri : Url) (switches : Switches) : SwitchTable :=
  { table with
    overrides := (uri, switches) :: table.overrides.filter fun entry => entry.1 != uri }

end SwitchTable
end Lint
end Workbench
