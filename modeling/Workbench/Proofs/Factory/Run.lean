import Workbench.Proofs.Terminal.Disposal
import Workbench.Terminal.Factory

namespace Workbench
namespace Terminal

/-!
# Runs of a factory

A factory is asked for services, kept ones and others, and told to dispose those that it keeps,
while anything can happen to the terminals, its own services included.  What a factory does to the
world of terminals is a number of actions and of lines in the log (`Calm`), so whatever every action
keeps is kept by a factory.
-/

namespace World

variable {w w' : World} {closed : Nat → Prop} {service : Nat}

/-! ## Worlds in order -/

/-- All services are sound, all terminals are accounted for, and those services are registered at
the host that want to be. -/
structure InOrder (closed : Nat → Prop) (w : World) : Prop where
  sound : w.Sound
  ledger : w.Ledger closed
  registered : w.Registered

namespace InOrder

theorem perform (order : InOrder closed w) (action : Action) :
    InOrder
      (fun terminal =>
        closed terminal ∨ ∃ service, Moment.HearsClosed ⟨w, action⟩ service terminal)
      (w.perform action) := by
  rcases Run.sound_ledger_perform order.sound order.ledger action with ⟨sound, ledger⟩
  exact ⟨sound, ledger, perform_registered order.registered action⟩

theorem alike (order : InOrder closed w) (alike : Alike w w') : InOrder closed w' where
  sound := order.sound.same alike.sessions
  ledger := by
    have terminals : w'.host.terminals = w.host.terminals := by rw [alike.host]
    refine order.ledger.same (.of_eq alike.sessions.order? terminals (by rw [alike.activator]))
      (fun handed => ?_) order.ledger.closedWithin
    rw [alike.sessions.held?, disposals_of_eq terminals]
    exact order.ledger.accounted handed
  registered := (Silently.ofAlike alike).registered order.registered

theorem happens (order : InOrder closed w) (action : Action) :
    Happens w action (w.perform action) :=
  perform_happens order.sound (order.ledger.holder order.sound) action

end InOrder

/-- What happens if no terminal is reported closed: a number of actions and of lines in the log. -/
inductive Calm (w : World) : World → Prop
  | refl : Calm w w
  | act {w' : World} (calm : Calm w w') (action : Action)
      (unreported : ∀ terminal, action ≠ .close terminal) : Calm w (w'.perform action)
  | write {w' : World} (calm : Calm w w') (line : Log.Line) : Calm w (w'.write line)

theorem InOrder.calm (order : InOrder closed w) (calm : Calm w w') : InOrder closed w' := by
  induction calm with
  | refl => exact order
  | @act middle _ action unreported inductionHypothesis =>
      have unheard : (fun terminal => closed terminal ∨
          ∃ service, Moment.HearsClosed ⟨middle, action⟩ service terminal) = closed := by
        funext terminal
        refine propext (or_iff_left ?_)
        rintro ⟨_, turn, _⟩
        exact unreported terminal turn
      rw [← unheard]
      exact inductionHypothesis.perform action
  | write _ line inductionHypothesis => exact inductionHypothesis.alike (.write _ line)

/-! ## Titles and resources -/

/-- The title and the resource of a service. -/
def label? (w : World) (service : Nat) : Option Key :=
  (w.session? service).map fun s => (s.title, s.resource)

theorem label?_of_same (same : w'.session? service = w.session? service) :
    w'.label? service = w.label? service := by
  rw [label?, label?, same]

theorem Replaces.label? {changed : Nat} {s s' : Service} (replaces : Replaces w w' changed s s')
    (title : s'.title = s.title) (resource : s'.resource = s.resource) (service : Nat) :
    w'.label? service = w.label? service := by
  by_cases here : service = changed
  · subst here
    rw [World.label?, World.label?, replaces.before, replaces.after, Option.map_some,
      Option.map_some, title, resource]
  · exact label?_of_same (replaces.others service here)

theorem Progress.label? {changed generation : Nat} (progress : Progress changed generation w w')
    (service : Nat) : w'.label? service = w.label? service := by
  induction progress with
  | refl => rfl
  | tail _ advances inductionHypothesis =>
      rcases advances with ⟨_, _, _, _, _, replaces, revision, _, _⟩
      exact (replaces.label? revision.title revision.resource service).trans inductionHypothesis

theorem Attends.label? {call generation : Nat} {c : Call} {w₁ w₂ : World}
    (attends : Attends call c generation w w₁ w₂ w') (service : Nat) :
    w'.label? service = w.label? service := by
  have arrived : w₁.label? service = w.label? service := by
    cases attends.arrives with
    | again => rfl
    | joined _ _ sits => exact label?_of_same (sits.sessions service)
    | first _ _ begins sits =>
        exact (label?_of_same (sits.sessions service)).trans
          (begins.replaces.label? rfl rfl service)
  rw [label?_of_same (attends.sessions.1 service), Progress.label? attends.progress, arrived]

/-- A service keeps its title and its resource. -/
theorem Happens.label? {action : Action} (happens : Happens w action w') {key : Key}
    (labelled : w.label? service = some key) : w'.label? service = some key := by
  rw [← labelled]
  cases happens.affair with
  | attends _ attends => exact attends.label? service
  | same _ same => exact label?_of_same (same service)
  | @added made _ _ _ _ adds =>
      refine label?_of_same (adds.others service ?_)
      rintro rfl
      rw [World.label?, adds.absent] at labelled
      cases labelled
  | disposed _ disposes => exact disposes.replaces.label? rfl rfl service
  | heard _ _ hears =>
      rcases hears.replaces with ⟨_, _, replaces⟩
      exact replaces.label? rfl rfl service

theorem Calm.label? (calm : Calm w w') (order : InOrder closed w) {key : Key}
    (labelled : w.label? service = some key) : w'.label? service = some key := by
  induction calm with
  | refl => exact labelled
  | act earlier _ _ inductionHypothesis =>
      exact ((order.calm earlier).happens _).label? inductionHypothesis
  | write _ line inductionHypothesis =>
      exact (label?_of_same ((Alike.write _ line).sessions service)).trans inductionHypothesis

end World

/-! ## What a factory does -/

namespace Factory

variable (factory : Factory) (w : World)

theorem create_calm (title : Option String) (resource : Option Url) :
    World.Calm w (factory.create w title resource) :=
  World.Calm.refl.act (.addService _ resource factory.helper) nofun

theorem dispose_each_calm (entries : List (Key × Nat)) {w w' : World}
    (calm : World.Calm w w') :
    World.Calm w (entries.foldl (fun w entry => (w.dispose entry.2).release entry.2) w') := by
  induction entries generalizing w' with
  | nil => exact calm
  | cons entry rest inductionHypothesis =>
      exact inductionHypothesis
        ((calm.act (.dispose entry.2) nofun).act (.release entry.2) nofun)

theorem disposeAll_calm : World.Calm w (factory.disposeAll w).2 :=
  dispose_each_calm _ (World.Calm.refl.write _)

/-- What comes of asking a factory for a service: one that is kept, a new one that is kept from then
on, or nothing because there are as many as there may be. -/
inductive Gets (title : Option String) (resource : Option Url) :
    Except Error (Nat × Factory × World) → Prop
  | kept {service : Nat} (kept : factory.lookup? (factory.key title resource) = some service) :
      Gets title resource (.ok (service, factory, w))
  | full (absent : factory.lookup? (factory.key title resource) = none)
      (full : factory.config.maxTerminals ≤ factory.size) :
      Gets title resource (.error (.terminalLimitReached factory.config.maxTerminals))
  | made (absent : factory.lookup? (factory.key title resource) = none)
      (room : factory.size < factory.config.maxTerminals) (line : Log.Line) :
      Gets title resource
        (.ok (w.services.length,
          { factory with
            cache := factory.cache ++ [(factory.key title resource, w.services.length)] },
          (w.write line).addService (factory.key title resource).1
            (factory.key title resource).2 factory.helper))

theorem get_gets (title : Option String) (resource : Option Url) :
    Gets factory w title resource (factory.get w title resource) := by
  unfold get
  dsimp only
  split
  · exact .kept ‹_›
  · split
    · exact .full ‹_› ‹_›
    · exact .made ‹_› (Nat.lt_of_not_le ‹_›) _

end Factory

/-- A factory in a world of terminals. -/
structure Site where
  factory : Factory
  world : World

namespace Site

/-- What can happen next. -/
inductive Step where
  /-- Someone asks the factory for a service that it keeps. -/
  | get (title : Option String) (resource : Option Url)
  /-- Someone asks the factory for a service of his own. -/
  | create (title : Option String) (resource : Option Url)
  | disposeAll
  /-- Something happens to the terminals or to a service, whether the factory keeps it or not. -/
  | act (action : Action)

def take (site : Site) : Step → Site
  | .get title resource =>
    match site.factory.get site.world title resource with
    | .ok (_, factory, world) => ⟨factory, world⟩
    | .error _ => site
  | .create title resource => { site with world := site.factory.create site.world title resource }
  | .disposeAll =>
    let (factory, world) := site.factory.disposeAll site.world
    ⟨factory, world⟩
  | .act action => { site with world := site.world.perform action }

/-- The moment of a step that the factory does not take itself. -/
def moment? (site : Site) : Step → Option Moment
  | .act action => some ⟨site.world, action⟩
  | _ => none

/-- The moments of all steps that the factory does not take itself. -/
def history (site : Site) : List Step → List Moment
  | [] => []
  | step :: rest => (site.moment? step).toList ++ (site.take step).history rest

theorem history_append (site : Site) (first second : List Step) :
    site.history (first ++ second) =
      site.history first ++ (first.foldl take site).history second := by
  induction first generalizing site with
  | nil => rfl
  | cons step rest inductionHypothesis =>
      simp only [List.cons_append, history, List.foldl_cons, inductionHypothesis,
        List.append_assoc]

/-- What the factory does by itself is calm. -/
theorem take_calm {site : Site} {step : Step} (own : site.moment? step = none) :
    World.Calm site.world (site.take step).world := by
  cases step with
  | act action => cases own
  | create title resource => exact site.factory.create_calm site.world title resource
  | disposeAll => exact site.factory.disposeAll_calm site.world
  | get title resource =>
      simp only [take]
      have gets := site.factory.get_gets site.world title resource
      generalize site.factory.get site.world title resource = result at gets
      cases gets with
      | kept | full => exact .refl
      | made _ _ line => exact (World.Calm.refl.write line).act (.addService _ _ _) nofun

/-- The factory stays the same, apart from what it keeps. -/
theorem take_factory (site : Site) (step : Step) :
    ∃ cache, (site.take step).factory = { site.factory with cache } := by
  cases step with
  | act | create => exact ⟨site.factory.cache, rfl⟩
  | disposeAll => exact ⟨[], rfl⟩
  | get title resource =>
      simp only [take]
      have gets := site.factory.get_gets site.world title resource
      generalize site.factory.get site.world title resource = result at gets
      cases gets with
      | kept | full => exact ⟨site.factory.cache, rfl⟩
      | made => exact ⟨_, rfl⟩

end Site

/-- What happens around one factory, which keeps nothing at first, in an environment. -/
structure Visit where
  env : Environment := {}
  config : FactoryConfig := {}
  helper : Helper
  steps : List Site.Step

namespace Visit

def site (visit : Visit) : Site :=
  visit.steps.foldl Site.take
    { factory := { config := visit.config, helper := visit.helper }, world := { env := visit.env } }

/-- The moments of all steps that the factory does not take itself. -/
def past (visit : Visit) : List Moment :=
  Site.history
    { factory := { config := visit.config, helper := visit.helper }, world := { env := visit.env } }
    visit.steps

def extend (visit : Visit) (more : List Site.Step) : Visit :=
  { visit with steps := visit.steps ++ more }

def step (visit : Visit) (step : Site.Step) : Visit :=
  visit.extend [step]

@[simp]
theorem site_step (visit : Visit) (step : Site.Step) :
    (visit.step step).site = visit.site.take step := by
  simp only [site, Visit.step, extend, List.foldl_append, List.foldl_cons, List.foldl_nil]

theorem past_step (visit : Visit) (step : Site.Step) :
    (visit.step step).past = visit.past ++ (visit.site.moment? step).toList := by
  refine (Site.history_append _ visit.steps [step]).trans ?_
  rw [Site.history, Site.history, List.append_nil]
  rfl

theorem extend_nil (visit : Visit) : visit.extend [] = visit := by
  simp only [extend, List.append_nil]

theorem extend_cons (visit : Visit) (step : Site.Step) (rest : List Site.Step) :
    visit.extend (step :: rest) = (visit.step step).extend rest := by
  simp only [extend, Visit.step, List.append_assoc, List.singleton_append]

/-- What holds at the start and is kept by every step holds at every time. -/
theorem induction {motive : Visit → Prop}
    (start : ∀ env config helper, motive ⟨env, config, helper, []⟩)
    (step : ∀ visit step, motive visit → motive (visit.step step)) (visit : Visit) :
    motive visit := by
  rcases visit with ⟨env, config, helper, steps⟩
  induction steps using List.reverseRecOn with
  | nil => exact start env config helper
  | append_singleton earlier last inductionHypothesis =>
      exact step ⟨env, config, helper, earlier⟩ last inductionHypothesis

/-- Whether a terminal was closed while it was held, and its service heard of it. -/
def Closed (visit : Visit) (terminal : Nat) : Prop :=
  ∃ m ∈ visit.past, ∃ service, m.HearsClosed service terminal

theorem past_step_of_none {visit : Visit} {step : Site.Step}
    (own : visit.site.moment? step = none) : (visit.step step).past = visit.past := by
  rw [past_step, own, Option.toList_none, List.append_nil]

theorem past_act (visit : Visit) (action : Action) :
    (visit.step (.act action)).past = visit.past ++ [⟨visit.site.world, action⟩] :=
  visit.past_step (.act action)

theorem closed_act {visit : Visit} {action : Action} {terminal : Nat} :
    (visit.step (.act action)).Closed terminal ↔
      visit.Closed terminal ∨
        ∃ service, Moment.HearsClosed ⟨visit.site.world, action⟩ service terminal := by
  simp only [Closed, past_act, List.mem_append, List.mem_singleton, or_and_right, exists_or,
    exists_eq_left]

/-- At every time the world of terminals is in order. -/
theorem inOrder (visit : Visit) : visit.site.world.InOrder visit.Closed := by
  induction visit using Visit.induction with
  | start env config helper =>
      have unclosed : (⟨env, config, helper, []⟩ : Visit).Closed = (⟨env, []⟩ : Run).Closed := rfl
      rw [unclosed]
      exact ⟨Run.sound ⟨env, []⟩, Run.ledger ⟨env, []⟩, Run.registered ⟨env, []⟩⟩
  | step visit step inductionHypothesis =>
      rw [site_step]
      cases own : visit.site.moment? step with
      | none =>
          have same : (visit.step step).Closed = visit.Closed := by
            funext terminal
            rw [Closed, Closed, past_step_of_none own]
          rw [same]
          exact inductionHypothesis.calm (Site.take_calm own)
      | some m =>
          cases step with
          | get | create | disposeAll => cases own
          | act action =>
              have closed : (visit.step (.act action)).Closed = fun terminal =>
                  visit.Closed terminal ∨ ∃ service,
                    Moment.HearsClosed ⟨visit.site.world, action⟩ service terminal :=
                funext fun _ => propext closed_act
              rw [closed]
              exact inductionHypothesis.perform action

/-- The factory goes by its configuration. -/
theorem factory_eq (visit : Visit) : ∃ cache,
    visit.site.factory = { config := visit.config, helper := visit.helper, cache } := by
  induction visit using Visit.induction with
  | start env config helper => exact ⟨[], rfl⟩
  | step visit step inductionHypothesis =>
      rcases inductionHypothesis with ⟨before, same⟩
      rcases visit.site.take_factory step with ⟨cache, changed⟩
      exact ⟨cache, by rw [site_step, changed, same]; rfl⟩

/-- A service keeps its title and its resource. -/
theorem label?_step (visit : Visit) (step : Site.Step) {service : Nat} {key : Key}
    (labelled : visit.site.world.label? service = some key) :
    (visit.step step).site.world.label? service = some key := by
  rw [site_step]
  cases own : visit.site.moment? step with
  | none => exact (Site.take_calm own).label? visit.inOrder labelled
  | some m =>
      cases step with
      | get | create | disposeAll => cases own
      | act action => exact (visit.inOrder.happens action).label? labelled

end Visit

end Terminal
end Workbench
