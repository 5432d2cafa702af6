import Workbench.Event.Emitter
import Workbench.Extension
import Workbench.Session.Step

namespace Workbench

/-!
# Sessions

A session uses the library step by step in one workspace.  It keeps references to the services it
has been given, each in a slot of its own, and to a factory, a scheduler and an extension of its
own.  With an extension, the extension's factory and scheduler take the place of the session's.
-/

structure Session where
  /-- Where the choice of a shell comes from, unless the settings decide. -/
  helper : Option Terminal.Helper
  workspace : Workspace
  /-- The services that the session was given, and nothing where it has dropped one. -/
  slots : List (Option Nat) := []
  ownFactory : Option Terminal.Factory := none
  ownScheduler : Option Nat := none
  extension : Option Extension := none

namespace Session

/-! ## Parts of a session -/

/-- The helper of services outside of an extension. -/
def serviceHelper (s : Session) : Terminal.Helper :=
  s.helper.getD (.ofSettings none)

def withTerminals (s : Session) (terminals : Terminal.World) : Session :=
  { s with workspace := { s.workspace with terminals } }

def withLint (s : Session) (lint : Lint.World) : Session :=
  { s with workspace := { s.workspace with lint } }

def terminals (s : Session) : Terminal.World :=
  s.workspace.terminals

def lint (s : Session) : Lint.World :=
  s.workspace.lint

def serviceAt? (s : Session) (slot : Nat) : Option Nat :=
  (s.slots[slot]?).join

def factory? (s : Session) : Option Terminal.Factory :=
  match s.extension with
  | some extension => some extension.factory
  | none => s.ownFactory

def withFactory (s : Session) (factory : Terminal.Factory) : Session :=
  match s.extension with
  | some extension => { s with extension := some { extension with factory } }
  | none => { s with ownFactory := some factory }

def scheduler? (s : Session) : Option Nat :=
  match s.extension with
  | some extension => some extension.scheduler
  | none => s.ownScheduler

/-- Keeps a reference that nobody else has, in a new slot. -/
def keep (s : Session) (service : Nat) : Session × Nat :=
  ({ s with slots := s.slots ++ [some service] }, s.slots.length)

/-- Keeps a reference to a service of a factory, unless there is one already. -/
def share (s : Session) (service : Nat) : Session × Nat :=
  match s.slots.findIdx? (· == some service) with
  | some slot => (s, slot)
  | none => (s.withTerminals (s.terminals.retain service)).keep service

/-! ## Descriptions -/

def describeDocuments (lint : Lint.World) : String :=
  let emitter (channel : Lint.Channel) : String :=
    Event.Emitter.describeCount (lint.listenerCount (· == channel))
  Text.describeRecord "InMemoryDocuments"
    [("editors", Text.describeOpenRecord "Mutex"
      [("data", Text.describe lint.editors.shown), ("poisoned", Text.describe false)]),
     ("opened", emitter .opened), ("saved", emitter .saved), ("closed", emitter .closed)]

/-- Something that may not be there, in words. -/
def describeOption (description : Option String) : String :=
  match description with
  | some description => Text.describeWrapped "Some" description
  | none => "None"

/-- A subject in words, if there is anything to describe. -/
def describe? (s : Session) : Subject → Option String
  | .factory => s.factory?.map Text.describe
  | .scheduler =>
    some (describeOption ((s.scheduler?.bind (s.lint.schedulers[·]?)).map Text.describe))
  | .extension => some (describeOption (s.extension.map (·.description s.workspace)))
  | .services =>
    some <| " ".intercalate <|
      ["TerminalServices", "LintServices", "ExtensionServices"].map
        (Text.describeOpenRecord · [])
  | .documents => some (describeDocuments s.lint)

/-! ## Steps -/

/-- Does something with the service in a slot, if there is one. -/
def atSlot (s : Session) (slot : Nat) (f : Nat → Session × Reply) : Session × Reply :=
  match s.serviceAt? slot with
  | some service => f service
  | none => (s, .silent)

/-- Makes a service outside of any factory. -/
def addService (s : Session) (title : String) (resource : Option Url) : Session × Reply :=
  let service := s.terminals.services.length
  let (s, slot) :=
    (s.withTerminals (s.terminals.addService title resource s.serviceHelper)).keep service
  (s, .number slot)

/-- Gives up the reference in a slot. -/
def dropService (s : Session) (slot service : Nat) : Session :=
  { s.withTerminals (s.terminals.release service) with slots := s.slots.set slot none }

/-- Asks the factory for a service that it keeps. -/
def get (s : Session) (title : Option String) (resource : Option Url) :
    Except Failure (Session × Reply) :=
  match s.factory? with
  | none => .ok (s, .silent)
  | some factory =>
    match factory.get s.terminals title resource with
    | .error error => .error (.error error)
    | .ok (service, factory, terminals) =>
      let (s, slot) := ((s.withTerminals terminals).withFactory factory).share service
      .ok (s, .number slot)

/-- Asks the factory for a service that it does not keep. -/
def create (s : Session) (title : Option String) (resource : Option Url) : Session × Reply :=
  match s.factory? with
  | none => (s, .silent)
  | some factory =>
    let service := s.terminals.services.length
    let (s, slot) := (s.withTerminals (factory.create s.terminals title resource)).keep service
    (s, .number slot)

/-- Makes a factory, in place of an earlier one. -/
def setFactory (s : Session) (config : Terminal.FactoryConfig) : Session :=
  let terminals :=
    match s.ownFactory with
    | some old => old.abandon s.terminals
    | none => s.terminals
  { s.withTerminals terminals with ownFactory := some { config, helper := s.serviceHelper } }

/-- Disposes the services that the factory keeps. -/
def disposeFactory (s : Session) : Session :=
  match s.factory? with
  | none => s
  | some factory =>
    let (factory, terminals) := factory.disposeAll s.terminals
    (s.withTerminals terminals).withFactory factory

/-- Makes a scheduler, in place of an earlier one, which is dropped after that. -/
def setScheduler (s : Session) (settings : LintingSettings) : Except Failure (Session × Reply) :=
  let scheduler := s.lint.schedulers.length
  let config := Lint.Config.ofSettings s.terminals.env settings
  match s.lint.startScheduler config with
  | .error error => .error (.error error)
  | .ok lint =>
    let lint :=
      match s.ownScheduler with
      | some old => lint.dropScheduler old
      | none => lint
    .ok ({ s.withLint lint with ownScheduler := some scheduler }, .truth config.runStartupPass)

/-- Gives up the session's own scheduler. -/
def dropScheduler (s : Session) : Session :=
  match s.ownScheduler with
  | some scheduler => { s.withLint (s.lint.dropScheduler scheduler) with ownScheduler := none }
  | none => s

/-- Activates an extension, in place of an earlier one, which is dropped after that. -/
def activate (s : Session) (settings : Settings) : Except Failure (Session × Reply) :=
  match Extension.activate s.workspace s.helper settings with
  | .error error => .error (.error error)
  | .ok (extension, workspace) =>
    let workspace :=
      match s.extension with
      | some old => old.drop workspace
      | none => workspace
    .ok ({ s with extension := some extension, workspace }, .settings extension.settings)

/-- Does something with the extension, if there is one. -/
def withExtension (s : Session) (f : Extension → Workspace → Extension × Workspace) : Session :=
  match s.extension with
  | some extension =>
    let (extension, workspace) := f extension s.workspace
    { s with extension := some extension, workspace }
  | none => s

def dropExtension (s : Session) : Session :=
  match s.extension with
  | some extension => { s with extension := none, workspace := extension.drop s.workspace }
  | none => s

def perform (s : Session) : Step → Except Failure (Session × Reply)
  | .service title resource => .ok (s.addService title resource)
  | .call slot request =>
    .ok <| s.atSlot slot fun service =>
      (s.withTerminals (s.terminals.addCall service request), .number s.terminals.calls.length)
  | .abort call => .ok (s.withTerminals (s.terminals.abort call), .silent)
  | .close terminal =>
    let known := terminal < s.terminals.host.next
    .ok (if known then s.withTerminals (s.terminals.close terminal) else s, .truth known)
  | .closeForeign => .ok (s.withTerminals (s.terminals.close s.terminals.host.next), .silent)
  | .failCreation error =>
    let host := { s.terminals.host with failNext := some error }
    .ok (s.withTerminals { s.terminals with host }, .silent)
  | .failActivation error =>
    let activator := { s.terminals.activator with failNext := some error }
    .ok (s.withTerminals { s.terminals with activator }, .silent)
  | .disposeService slot =>
    .ok <| s.atSlot slot fun service => (s.withTerminals (s.terminals.dispose service), .silent)
  | .dropService slot =>
    .ok <| s.atSlot slot fun service => (s.dropService slot service, .silent)
  | .info slot =>
    .ok <| s.atSlot slot fun service =>
      match s.terminals.services[service]? with
      | some found => (s, .service found.title found.resource (Text.describe found))
      | none => (s, .silent)
  | .listen slot reaction =>
    .ok <| s.atSlot slot fun service =>
      (s.withTerminals (s.terminals.listen service reaction),
        .number s.terminals.listeners.length)
  | .unlisten listener => .ok (s.withTerminals (s.terminals.unlisten listener), .silent)
  | .factory config => .ok (s.setFactory config, .silent)
  | .get title resource => s.get title resource
  | .create title resource => .ok (s.create title resource)
  | .list =>
    match s.factory? with
    | some factory => .ok (s, .listing (factory.list s.terminals))
    | none => .ok (s, .silent)
  | .disposeFactory => .ok (s.disposeFactory, .silent)
  | .scheduler settings => s.setScheduler settings
  | .disposeScheduler =>
    match s.scheduler? with
    | some scheduler => .ok (s.withLint (s.lint.disposeScheduler scheduler), .silent)
    | none => .ok (s, .silent)
  | .dropScheduler => .ok (s.dropScheduler, .silent)
  | .openDocument document =>
    let lint := s.lint.openDocument document
    .ok (s.withLint lint, .number lint.editors.documents.length)
  | .saveDocument document => .ok (s.withLint (s.lint.saveDocument document), .silent)
  | .closeDocument document =>
    let lint := s.lint.closeDocument document
    .ok (s.withLint lint, .truth (lint.editors.isOpen document.uri))
  | .changeConfiguration change =>
    .ok (s.withLint (s.lint.changeConfiguration change.toChange), .silent)
  | .changeInterpreter => .ok (s.withLint s.lint.changeInterpreter, .silent)
  | .setSwitches switches uri =>
    let table :=
      match uri with
      | some uri => s.lint.table.override uri switches
      | none => { s.lint.table with default := switches }
    .ok (s.withLint { s.lint with table }, .silent)
  | .failLookups fail => .ok (s.withLint { s.lint with failLookups := fail }, .silent)
  | .failEngine fail => .ok (s.withLint { s.lint with failEngine := fail }, .silent)
  | .forgetPasses => .ok (s.withLint { s.lint with passes := [], cleared := [] }, .silent)
  | .activate settings => s.activate settings
  | .register name => .ok (s.withExtension (·.register · name), .silent)
  | .disposeExtension => .ok (s.withExtension Extension.dispose, .silent)
  | .dropExtension => .ok (s.dropExtension, .silent)
  | .describe subject =>
    match s.describe? subject with
    | some text => .ok (s, .description text)
    | none => .ok (s, .silent)
  | .advance milliseconds =>
    .ok ({ s with workspace := s.workspace.advance milliseconds }, .silent)

/-- Runs until nothing is left that can run now. -/
def settle (s : Session) : Session :=
  { s with workspace := s.workspace.settle }

end Session
end Workbench
