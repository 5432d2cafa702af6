import Workbench.Extension
import Workbench.Proofs.Factory.Balance
import Workbench.Proofs.Lint.Owners

namespace Workbench

/-!
# Estates

An estate is a workspace with all that was taken from it and is not given up: references to
services, factories, schedulers and extensions.  What is done with any of them is a deed, and so is
whatever happens to terminals and to the linting; a deed that needs something which is not there
does nothing.  Along a course of deeds the factories of extensions are asked like any other, also
after the extension was disposed.
-/

structure Estate where
  workspace : Workspace := {}
  /-- The references to services that someone took, one entry for each. -/
  handles : List Nat := []
  factories : List Terminal.Factory := []
  /-- The schedulers that someone made for himself. -/
  schedulers : List Nat := []
  extensions : List Extension := []

/-- Where a factory is. -/
inductive Keeper where
  | factory (place : Nat)
  | extension (place : Nat)

/-- What can be done next. -/
inductive Deed where
  /-- Something happens to the terminals, or is done with a reference to a service. -/
  | terminals (action : Terminal.Action)
  /-- Something happens to the linting, or is done with a scheduler. -/
  | lint (action : Lint.Action)
  /-- From now on there is a runtime, or there is none. -/
  | runtime (present : Bool)
  /-- A scheduler is made that brings its runtime along. -/
  | addScheduler (config : Lint.Config)
  | addFactory (config : Terminal.FactoryConfig) (helper : Terminal.Helper)
  | dropFactory (place : Nat)
  /-- A factory is asked for a service that it keeps. -/
  | get (keeper : Keeper) (title : Option String) (resource : Option Url)
  /-- A factory is asked for a service of one's own. -/
  | create (keeper : Keeper) (title : Option String) (resource : Option Url)
  | disposeServices (keeper : Keeper)
  | activate (helper : Option Terminal.Helper) (settings : Settings)
  /-- An item is registered with an extension. -/
  | register (place : Nat) (name : String)
  | dispose (place : Nat)
  | drop (place : Nat)

namespace Estate

def withTerminals (e : Estate) (terminals : Terminal.World) : Estate :=
  { e with workspace := { e.workspace with terminals } }

def withLint (e : Estate) (lint : Lint.World) : Estate :=
  { e with workspace := { e.workspace with lint } }

def terminals (e : Estate) : Terminal.World :=
  e.workspace.terminals

def lint (e : Estate) : Lint.World :=
  e.workspace.lint

def factory? (e : Estate) : Keeper → Option Terminal.Factory
  | .factory place => e.factories[place]?
  | .extension place => (e.extensions[place]?).map Extension.factory

def withFactory (e : Estate) (keeper : Keeper) (factory : Terminal.Factory) : Estate :=
  match keeper with
  | .factory place => { e with factories := e.factories.set place factory }
  | .extension place =>
    match e.extensions[place]? with
    | some x => { e with extensions := e.extensions.set place { x with factory } }
    | none => e

/-- The references to services that factories have. -/
def kept (e : Estate) : List Nat :=
  e.factories.flatMap Terminal.Factory.kept ++ e.extensions.flatMap (·.factory.kept)

/-- All references to services, those of running calls aside. -/
def references (e : Estate) : List Nat :=
  e.handles ++ e.kept

/-- The schedulers that were not dropped. -/
def owned (e : Estate) : List Nat :=
  e.schedulers ++ e.extensions.map Extension.scheduler

/-! ## What is done -/

/-- Something happens to the terminals.  Whoever does something with a service needs a reference. -/
def perform (e : Estate) (action : Terminal.Action) : Estate :=
  if ∀ service, action.subject? = some service → service ∈ e.handles then
    { e.withTerminals (e.terminals.perform action) with
      handles := action.references e.terminals e.handles }
  else e

/-- Something happens to the linting.  Only whoever made a scheduler can drop it. -/
def act (e : Estate) (action : Lint.Action) : Estate :=
  if ∀ scheduler, action.dropped? = some scheduler → scheduler ∈ e.schedulers then
    { e.withLint (e.lint.act action) with schedulers := e.lint.owners e.schedulers action }
  else e

def addScheduler (e : Estate) (config : Lint.Config) : Estate :=
  { e.withLint (e.lint.addScheduler config) with
    schedulers := e.lint.schedulers.length :: e.schedulers }

def addFactory (e : Estate) (config : Terminal.FactoryConfig) (helper : Terminal.Helper) : Estate :=
  { e with factories := e.factories ++ [{ config, helper }] }

def dropFactory (e : Estate) (place : Nat) : Estate :=
  match e.factories[place]? with
  | some factory =>
    { e.withTerminals (factory.abandon e.terminals) with
      factories := e.factories.eraseIdx place }
  | none => e

/-- Asks a factory for a service that it keeps, and takes a reference to it. -/
def get (e : Estate) (keeper : Keeper) (title : Option String) (resource : Option Url) : Estate :=
  match e.factory? keeper with
  | some factory =>
    match factory.get e.terminals title resource with
    | .ok (service, factory, terminals) =>
      { (e.withFactory keeper factory).withTerminals (terminals.retain service) with
        handles := service :: e.handles }
    | .error _ => e
  | none => e

def create (e : Estate) (keeper : Keeper) (title : Option String) (resource : Option Url) :
    Estate :=
  match e.factory? keeper with
  | some factory =>
    { e.withTerminals (factory.create e.terminals title resource) with
      handles := e.terminals.services.length :: e.handles }
  | none => e

def disposeServices (e : Estate) (keeper : Keeper) : Estate :=
  match e.factory? keeper with
  | some factory =>
    let (factory, terminals) := factory.disposeAll e.terminals
    (e.withFactory keeper factory).withTerminals terminals
  | none => e

def activate (e : Estate) (helper : Option Terminal.Helper) (settings : Settings) : Estate :=
  match Extension.activate e.workspace helper settings with
  | .ok (extension, workspace) => { e with extensions := e.extensions ++ [extension], workspace }
  | .error _ => e

/-- Does something with an extension. -/
def withExtension (e : Estate) (place : Nat)
    (f : Extension → Workspace → Extension × Workspace) : Estate :=
  match e.extensions[place]? with
  | some x =>
    let (extension, workspace) := f x e.workspace
    { e with extensions := e.extensions.set place extension, workspace }
  | none => e

def drop (e : Estate) (place : Nat) : Estate :=
  match e.extensions[place]? with
  | some x => { e with extensions := e.extensions.eraseIdx place, workspace := x.drop e.workspace }
  | none => e

def take (e : Estate) : Deed → Estate
  | .terminals action => e.perform action
  | .lint action => e.act action
  | .runtime present => e.withLint { e.lint with hasRuntime := present }
  | .addScheduler config => e.addScheduler config
  | .addFactory config helper => e.addFactory config helper
  | .dropFactory place => e.dropFactory place
  | .get keeper title resource => e.get keeper title resource
  | .create keeper title resource => e.create keeper title resource
  | .disposeServices keeper => e.disposeServices keeper
  | .activate helper settings => e.activate helper settings
  | .register place name => e.withExtension place (·.register · name)
  | .dispose place => e.withExtension place Extension.dispose
  | .drop place => e.drop place

end Estate

/-- What is done in an environment, with or without a runtime, the first deed first. -/
structure Course where
  env : Environment := {}
  hasRuntime : Bool := true
  deeds : List Deed

namespace Course

def estate (course : Course) : Estate :=
  course.deeds.foldl Estate.take
    { workspace :=
        { terminals := { env := course.env }, lint := { hasRuntime := course.hasRuntime } } }

def step (course : Course) (deed : Deed) : Course :=
  { course with deeds := course.deeds ++ [deed] }

@[simp]
theorem estate_step (course : Course) (deed : Deed) :
    (course.step deed).estate = course.estate.take deed := by
  simp only [estate, step, List.foldl_append, List.foldl_cons, List.foldl_nil]

/-- What holds at the start and is kept by every deed holds at every time. -/
theorem induction {motive : Course → Prop} (start : ∀ env hasRuntime, motive ⟨env, hasRuntime, []⟩)
    (step : ∀ course deed, motive course → motive (course.step deed)) (course : Course) :
    motive course := by
  rcases course with ⟨env, hasRuntime, deeds⟩
  induction deeds using List.reverseRecOn with
  | nil => exact start env hasRuntime
  | append_singleton earlier last inductionHypothesis =>
      exact step ⟨env, hasRuntime, earlier⟩ last inductionHypothesis

end Course

end Workbench
