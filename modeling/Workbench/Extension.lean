import Workbench.Registry.Basic
import Workbench.Terminal.Factory
import Workbench.Workspace

namespace Workbench

/-!
# Extensions

An activated extension owns a factory of terminal services and a lint scheduler, and whatever else
is registered with it.  Disposing it disposes all of that in the reverse order of registration.
Dropping it disposes it too, and then gives up what its factory still keeps.
-/

namespace Extension

/-- Something that an extension disposes. -/
inductive Part where
  | scheduler
  | services
  | item (name : String)
  deriving DecidableEq, Repr

end Extension

structure Extension where
  settings : Settings
  factory : Terminal.Factory
  scheduler : Nat
  registry : Registry Extension.Part
  deriving DecidableEq, Repr

namespace Extension

/-- Activates an extension.  Without a helper of its own it takes the shell from the settings.  If
anything fails, nothing has happened. -/
def activate (w : Workspace) (helper : Option Terminal.Helper) (settings : Settings) :
    Except Error (Extension × Workspace) := do
  let settings ← settings.validated
  let helper := helper.getD (.ofSettings settings.terminal.shellPath)
  let scheduler := w.lint.schedulers.length
  let lint ← w.lint.startScheduler (.ofSettings w.terminals.env settings.linting)
  let extension : Extension :=
    { settings
      factory := { config := .ofSettings settings.terminal, helper }
      scheduler
      registry := { items := [.scheduler, .services] } }
  let started : Workspace := { w with lint }
  pure (extension, started.write <| .info <| "Extension activated: terminal='" ++
    settings.terminal.title ++ "', language=" ++ settings.linting.languageId)

/-- Whether the extension is disposed. -/
def isDisposed (extension : Extension) : Bool :=
  extension.registry.disposed

/-- Disposes the services that the factory keeps. -/
def disposeServices (extension : Extension) (w : Workspace) : Extension × Workspace :=
  let (factory, terminals) := extension.factory.disposeAll w.terminals
  ({ extension with factory }, { w with terminals })

def disposeScheduler (extension : Extension) (w : Workspace) : Workspace :=
  { w with lint := w.lint.disposeScheduler extension.scheduler }

def disposePart (extension : Extension) (w : Workspace) : Part → Extension × Workspace
  | .scheduler => (extension, extension.disposeScheduler w)
  | .services => extension.disposeServices w
  | .item name => (extension, w.disposeItem name)

/-- Registers an item.  With an extension that is disposed it is disposed at once. -/
def register (extension : Extension) (w : Workspace) (name : String) : Extension × Workspace :=
  let (registry, back) := extension.registry.push (.item name)
  let registered : Extension := { extension with registry }
  match back with
  | some part => registered.disposePart w part
  | none => (registered, w)

/-- Disposes the extension.  Doing so again changes nothing. -/
def dispose (extension : Extension) (w : Workspace) : Extension × Workspace :=
  if extension.isDisposed then (extension, w)
  else
    let (registry, parts) := extension.registry.take
    let (disposed, w) := parts.foldl (fun (e, w) part => e.disposePart w part)
      ({ extension with registry }, w)
    (disposed, w.write (.info "Extension disposed"))

def drop (extension : Extension) (w : Workspace) : Workspace :=
  let (extension, w) := extension.dispose w
  { w with
    terminals := extension.factory.abandon w.terminals
    lint := w.lint.dropScheduler extension.scheduler }

def description (extension : Extension) (w : Workspace) : String :=
  Text.describeRecord "Extension"
    [("config", Text.describe extension.settings), ("terminals", Text.describe extension.factory),
     ("scheduler", ((w.lint.schedulers[extension.scheduler]?).map Text.describe).getD "")]

end Extension
end Workbench
