import Workbench.Settings.Basic
import Workbench.Terminal.World

namespace Workbench
namespace Terminal

/-!
# Factories of terminal services

A factory keeps one service for every title and resource that was asked for, up to a limit.  It
owns the services it keeps; disposing them all empties it, and it can be used again after that.
-/

structure FactoryConfig where
  defaultTitle : String := "Python"
  maxTerminals : Nat := 16
  deriving DecidableEq, Repr

namespace FactoryConfig

/-- The configuration that settings lead to. -/
def ofSettings (settings : TerminalSettings) : FactoryConfig where
  defaultTitle := settings.title
  maxTerminals := settings.maxTerminals.toNat

theorem ofSettings_default : ofSettings {} = {} := by
  decide +kernel

instance : Text.Describe FactoryConfig where
  describe config := Text.describeRecord "TerminalServiceFactoryConfig"
    [("default_title", Text.describe config.defaultTitle),
     ("max_terminals", Text.describe config.maxTerminals)]

end FactoryConfig

/-- What a service is kept under: its title and its resource. -/
abbrev Key := String × Option Url

structure Factory where
  /-- What the factory goes by. -/
  config : FactoryConfig
  /-- Where its services get their choice of a shell from. -/
  helper : Helper
  /-- The services that are kept, the oldest first. -/
  cache : List (Key × Nat) := []
  deriving DecidableEq, Repr

/-- A service that is kept, as a list shows it. -/
structure Listed where
  title : String
  resource : Option Url
  hasTerminal : Bool
  shell : Option Shell.Kind
  deriving DecidableEq, Repr

namespace Factory

/-- What a service is kept under when it is asked for. -/
def key (factory : Factory) (title : Option String) (resource : Option Url) : Key :=
  (title.getD factory.config.defaultTitle, resource)

/-- The number of services that are kept. -/
def size (factory : Factory) : Nat :=
  factory.cache.length

def lookup? (factory : Factory) (key : Key) : Option Nat :=
  factory.cache.lookup key

/-- A new service that is not kept; it belongs to whoever asked for it. -/
def create (factory : Factory) (w : World) (title : Option String) (resource : Option Url) :
    World :=
  w.addService (title.getD factory.config.defaultTitle) resource factory.helper

/-- The service for a title and a resource, which is made at the first request. -/
def get (factory : Factory) (w : World) (title : Option String) (resource : Option Url) :
    Except Error (Nat × Factory × World) :=
  let key := factory.key title resource
  match factory.lookup? key with
  | some service => .ok (service, factory, w)
  | none =>
    if factory.config.maxTerminals ≤ factory.size then
      .error (.terminalLimitReached factory.config.maxTerminals)
    else
      let service := w.services.length
      let told := w.write <| .info <| "Creating terminal service: title='" ++ key.1 ++
        "', resource=" ++ Service.resourceText key.2
      .ok (service, { factory with cache := factory.cache ++ [(key, service)] },
        told.addService key.1 key.2 factory.helper)

/-- Disposes all services that are kept, and keeps none of them. -/
def disposeAll (factory : Factory) (w : World) : Factory × World :=
  let told := w.write <| .debug <|
    "Disposing " ++ Nat.repr factory.size ++ " terminal services"
  ({ factory with cache := [] },
    factory.cache.foldl (fun w entry => (w.dispose entry.2).release entry.2) told)

/-- Gives the factory up.  Its services are not disposed by that. -/
def abandon (factory : Factory) (w : World) : World :=
  factory.cache.foldl (fun w entry => w.release entry.2) w

/-- The services that are kept, in the order of their titles and resources. -/
def list (factory : Factory) (w : World) : List Listed :=
  let listed := factory.cache.filterMap fun entry =>
    (w.services[entry.2]?).map fun service =>
      { title := service.title
        resource := service.resource
        hasTerminal := service.phase.isReady
        shell := service.shellKind? : Listed }
  let address (entry : Listed) : String := (entry.resource.map Url.text).getD ""
  listed.mergeSort fun a b =>
    a.title < b.title || (a.title == b.title && address a ≤ address b)

instance : Text.Describe Factory where
  describe factory := Text.describeRecord "TerminalServiceFactory"
    [("config", Text.describe factory.config), ("services", Text.describe factory.size)]

end Factory
end Terminal
end Workbench
