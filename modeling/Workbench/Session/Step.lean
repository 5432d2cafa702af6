import Workbench.Lint.World
import Workbench.Settings.Override
import Workbench.Settings.Yaml
import Workbench.Terminal.Factory

namespace Workbench
namespace Session

/-!
# Steps of a session

What can be done in a session, what it can answer, and how it can fail.  Services are named by the
slots in which the session keeps them, everything else by its position in the order of creation.
-/

/-- Something that can be described. -/
inductive Subject where
  | factory
  | scheduler
  | extension
  | services
  | documents
  deriving DecidableEq, Repr

inductive Step where
  | service (title : String) (resource : Option Url)
  | call (slot : Nat) (request : Terminal.Request)
  | abort (call : Nat)
  | close (terminal : Nat)
  | closeForeign
  | failCreation (error : Error)
  | failActivation (error : Error)
  | disposeService (slot : Nat)
  | dropService (slot : Nat)
  | info (slot : Nat)
  | listen (slot : Nat) (reaction : Terminal.Reaction)
  | unlisten (listener : Nat)
  | factory (config : Terminal.FactoryConfig)
  | get (title : Option String) (resource : Option Url)
  | create (title : Option String) (resource : Option Url)
  | list
  | disposeFactory
  | scheduler (settings : LintingSettings)
  | disposeScheduler
  | dropScheduler
  | openDocument (document : Document)
  | saveDocument (document : Document)
  | closeDocument (document : Document)
  | changeConfiguration (change : Lint.SectionChange)
  | changeInterpreter
  /-- Sets the lint switches, of one document or of all others. -/
  | setSwitches (switches : Lint.Switches) (uri : Option Url)
  | failLookups (fail : Bool)
  | failEngine (fail : Bool)
  | forgetPasses
  | activate (settings : Settings)
  | register (name : String)
  | disposeExtension
  | dropExtension
  | describe (subject : Subject)
  | advance (milliseconds : Nat)

inductive Reply where
  | silent
  | number (n : Nat)
  | truth (b : Bool)
  | service (title : String) (resource : Option Url) (description : String)
  | listing (services : List Terminal.Listed)
  | settings (settings : Settings)
  | description (text : String)

inductive Failure where
  /-- For one of the library's own reasons. -/
  | error (error : Error)
  /-- Because a text is no URL. -/
  | url (fault : Url.Fault)
  /-- Because settings could not be loaded. -/
  | load (fault : LoadFault)

end Session
end Workbench
