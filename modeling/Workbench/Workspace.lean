import Workbench.Lint.World
import Workbench.Terminal.Clock

namespace Workbench

/-!
# The workspace

Everything an extension works with: the terminals and the linting of one editor.  The two go on
side by side in the same time, and neither touches the other.
-/

/-- The record that a registered item makes when it is disposed. -/
structure Disposal where
  /-- The item's name. -/
  name : String
  /-- How many close listeners the terminal host had. -/
  closeListeners : Nat
  /-- How many listeners there were for documents. -/
  documentListeners : Nat
  deriving DecidableEq, Repr

/-- The terminals and the linting of one editor. -/
structure Workspace where
  terminals : Terminal.World := {}
  lint : Lint.World := {}
  disposals : List Disposal := []
  log : List Log.Line := []

namespace Workspace

def write (w : Workspace) (line : Log.Line) : Workspace :=
  { w with log := w.log ++ [line] }

/-- The number of listeners for documents. -/
def documentListeners (w : Workspace) : Nat :=
  w.lint.listenerCount Lint.Channel.ofDocuments

def disposeItem (w : Workspace) (name : String) : Workspace :=
  { w with
    disposals := w.disposals ++
      [⟨name, w.terminals.closeListenerCount, w.documentListeners⟩] }

/-- Runs until nothing is left that can run now. -/
def settle (w : Workspace) : Workspace :=
  { w with terminals := w.terminals.run, lint := w.lint.run }

def advance (w : Workspace) (milliseconds : Nat) : Workspace :=
  { w with terminals := w.terminals.advance milliseconds, lint := w.lint.advance milliseconds }

end Workspace
end Workbench
