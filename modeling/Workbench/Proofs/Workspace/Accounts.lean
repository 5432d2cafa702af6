import Workbench.Proofs.Workspace.Estate
import Workbench.Proofs.Workspace.Extensions
import Workbench.Session.Row

namespace Workbench

/-!
# Listeners are accounted for

At any time the host has one close listener for every service that is neither disposed nor dropped,
and every scheduler that is neither has its five listeners.  What fails leaves no listener behind,
and an extension that is disposed for the first time, or dropped before that, takes those of its
scheduler and of the services in its factory along.
-/

open Terminal (Factory)

namespace Estate

variable {e : Estate} {keeper : Keeper} {factory : Factory} {place : Nat} {x : Extension}

/-! ## Whose references they are -/

theorem flatMap_perm {α β : Type} {things : List α} {thing : α}
    (found : things[place]? = some thing) (f : α → List β) :
    (things.flatMap f).Perm (f thing ++ (things.eraseIdx place).flatMap f) := by
  rcases List.getElem?_eq_some_iff.mp found with ⟨inside, rfl⟩
  exact (List.getElem_cons_eraseIdx_perm inside).symm.flatMap_right f

/-- What takes the place of something may look the same. -/
theorem map_set {α β : Type} {things : List α} {thing thing' : α}
    (there : things[place]? = some thing) {seen : α → β} (same : seen thing' = seen thing) :
    (things.set place thing').map seen = things.map seen := by
  rcases List.getElem?_eq_some_iff.mp there with ⟨inside, rfl⟩
  rw [List.map_set, same, ← List.map_set, List.set_getElem_self]

/-- The references that a factory does not have. -/
def others (e : Estate) : Keeper → List Nat
  | .factory place =>
    e.handles ++ ((e.factories.eraseIdx place).flatMap Factory.kept ++
      e.extensions.flatMap (·.factory.kept))
  | .extension place =>
    e.handles ++ (e.factories.flatMap Factory.kept ++
      (e.extensions.eraseIdx place).flatMap (·.factory.kept))

theorem references_perm (found : e.factory? keeper = some factory) :
    e.references.Perm (factory.kept ++ e.others keeper) := by
  cases keeper with
  | factory place =>
      have split := flatMap_perm found Factory.kept
      refine List.perm_iff_count.mpr fun service => ?_
      have counts := split.count_eq service
      simp only [references, kept, others, List.count_append] at counts ⊢
      omega
  | extension place =>
      rcases Option.map_eq_some_iff.mp found with ⟨x, there, rfl⟩
      have split := flatMap_perm there (·.factory.kept)
      refine List.perm_iff_count.mpr fun service => ?_
      have counts := split.count_eq service
      simp only [references, kept, others, List.count_append] at counts ⊢
      omega

theorem factory?_extension (there : e.extensions[place]? = some x) :
    e.factory? (.extension place) = some x.factory :=
  congrArg (Option.map Extension.factory) there

/-- An extension that takes the place of another one has its own factory, and the others keep
theirs. -/
theorem replace_references (there : e.extensions[place]? = some x) (x' : Extension)
    (workspace : Workspace) :
    ({ e with extensions := e.extensions.set place x', workspace } : Estate).references.Perm
      (x'.factory.kept ++ e.others (.extension place)) := by
  have inside := (List.getElem?_eq_some_iff.mp there).1
  let after : Estate := { e with extensions := e.extensions.set place x', workspace }
  have found : after.factory? (.extension place) = some x'.factory := by
    simp only [after, factory?, List.getElem?_set_self inside, Option.map_some]
  have same : after.others (.extension place) = e.others (.extension place) := by
    simp only [after, others, List.eraseIdx_set_eq]
  rw [← same]
  exact references_perm found

theorem withFactory_references (found : e.factory? keeper = some factory) (factory' : Factory) :
    (e.withFactory keeper factory').references.Perm (factory'.kept ++ e.others keeper) := by
  cases keeper with
  | factory place =>
      have inside := (List.getElem?_eq_some_iff.mp found).1
      have same : (e.withFactory (.factory place) factory').others (.factory place) =
          e.others (.factory place) := by
        simp only [others, withFactory, List.eraseIdx_set_eq]
      rw [← same]
      exact references_perm (List.getElem?_set_self inside)
  | extension place =>
      rcases Option.map_eq_some_iff.mp found with ⟨x, there, rfl⟩
      simp only [withFactory, there]
      exact replace_references there { x with factory := factory' } e.workspace

/-! ## What deeds keep -/

/-- All references are balanced, every scheduler that listens has an owner, and extensions have
registered what they have to dispose. -/
structure Sound (e : Estate) : Prop where
  balanced : Terminal.World.Balanced e.references e.terminals
  attuned : e.lint.Attuned
  owned : Lint.World.Owned e.owned e.lint
  furnished : ∀ x ∈ e.extensions, x.Furnished

namespace Sound

theorem getElem (sound : e.Sound) (there : e.extensions[place]? = some x) : x.Furnished :=
  sound.furnished x (List.mem_of_getElem? there)

/-- A deed that is about terminals only. -/
theorem terminals (sound : e.Sound) {e' : Estate}
    (balanced : Terminal.World.Balanced e'.references e'.terminals) (lint : e'.lint = e.lint)
    (schedulers : e'.schedulers = e.schedulers)
    (extensions : e'.extensions.map Extension.scheduler = e.extensions.map Extension.scheduler)
    (furnished : ∀ x ∈ e'.extensions, x.Furnished) : e'.Sound where
  balanced := balanced
  attuned := lint ▸ sound.attuned
  owned := by
    rw [Estate.owned, lint, schedulers, extensions]
    exact sound.owned
  furnished := furnished

/-- If an extension takes the place of another one and has the same scheduler, that has an owner as
before. -/
theorem replace_owned (there : e.extensions[place]? = some x) {x' : Extension}
    (same : x'.scheduler = x.scheduler) {lint : Lint.World} (owned : Lint.World.Owned e.owned lint)
    (workspace : Workspace) :
    Lint.World.Owned
      ({ e with extensions := e.extensions.set place x', workspace } : Estate).owned lint := by
  rw [Estate.owned, map_set there same]
  exact owned

theorem furnished_set (sound : e.Sound) {x' : Extension} (furnished : x'.Furnished) :
    ∀ y ∈ e.extensions.set place x', y.Furnished := by
  intro y member
  rcases List.mem_or_eq_of_mem_set member with among | rfl
  · exact sound.furnished y among
  · exact furnished

/-- What is done with a factory shows in nothing else. -/
structure SameRest (e e' : Estate) : Prop where
  handles : e'.handles = e.handles
  lint : e'.lint = e.lint
  schedulers : e'.schedulers = e.schedulers
  extensions : e'.extensions.map Extension.scheduler = e.extensions.map Extension.scheduler
  furnished : ∀ x ∈ e'.extensions, x.Furnished

theorem withFactory (sound : e.Sound) (keeper : Keeper) (factory' : Factory) :
    SameRest e (e.withFactory keeper factory') := by
  cases keeper with
  | factory place => exact ⟨rfl, rfl, rfl, rfl, sound.furnished⟩
  | extension place =>
      simp only [Estate.withFactory]
      split
      · rename_i x there
        have furnished := sound.getElem there
        exact ⟨rfl, rfl, rfl, map_set there rfl, sound.furnished_set furnished⟩
      · exact ⟨rfl, rfl, rfl, rfl, sound.furnished⟩

theorem perform (sound : e.Sound) (action : Terminal.Action) : (e.perform action).Sound := by
  unfold Estate.perform
  split
  · rename_i permitted
    have performed := sound.balanced.perform action fun service needed =>
      List.mem_append_left _ (permitted service needed)
    rw [references, Terminal.Action.references_append e.terminals permitted] at performed
    exact sound.terminals performed rfl rfl rfl sound.furnished
  · exact sound

theorem act (sound : e.Sound) (action : Lint.Action) : (e.act action).Sound := by
  unfold Estate.act
  split
  · rename_i permitted
    have acted := sound.owned.act sound.attuned action
    rw [Estate.owned, Lint.World.owners_append e.lint permitted] at acted
    exact ⟨sound.balanced, Lint.World.act_attuned sound.attuned action, acted, sound.furnished⟩
  · exact sound

theorem dropFactory (sound : e.Sound) (place : Nat) : (e.dropFactory place).Sound := by
  unfold Estate.dropFactory
  split
  · rename_i factory there
    have found : e.factory? (.factory place) = some factory := there
    exact sound.terminals (Factory.abandon_balanced (sound.balanced.perm (references_perm found)))
      rfl rfl rfl sound.furnished
  · exact sound

theorem get (sound : e.Sound) (keeper : Keeper) (title : Option String)
    (resource : Option Url) : (e.get keeper title resource).Sound := by
  unfold Estate.get
  split
  · rename_i factory there
    split
    · rename_i service factory' terminals got
      have rest := sound.withFactory keeper factory'
      have balanced := Factory.get_balanced (sound.balanced.perm (references_perm there)) got
      have perm := (withFactory_references there factory').symm.cons service
      rw [references, rest.handles] at perm
      exact sound.terminals (balanced.perm perm) rest.lint rest.schedulers rest.extensions
        rest.furnished
    · exact sound
  · exact sound

theorem create (sound : e.Sound) (keeper : Keeper) (title : Option String)
    (resource : Option Url) : (e.create keeper title resource).Sound := by
  unfold Estate.create
  split
  · rename_i factory there
    exact sound.terminals (Factory.create_balanced sound.balanced title resource) rfl rfl rfl
      sound.furnished
  · exact sound

theorem disposeServices (sound : e.Sound) (keeper : Keeper) :
    (e.disposeServices keeper).Sound := by
  unfold Estate.disposeServices
  split
  · rename_i factory there
    have rest := sound.withFactory keeper (factory.disposeAll e.terminals).1
    have balanced := Factory.disposeAll_balanced (sound.balanced.perm (references_perm there))
    have perm := withFactory_references there (factory.disposeAll e.terminals).1
    exact sound.terminals (balanced.perm perm.symm) rest.lint rest.schedulers rest.extensions
      rest.furnished
  · exact sound

theorem activate (sound : e.Sound) (helper : Option Terminal.Helper) (settings : Settings) :
    (e.activate helper settings).Sound := by
  unfold Estate.activate
  have activates := Extension.activate_activates e.workspace helper settings
  generalize Extension.activate e.workspace helper settings = result at activates
  cases activates with
  | invalid | noRuntime => exact sound
  | @activated x w config valid present furnished empty scheduler terminals lint =>
      have same : ({ e with extensions := e.extensions ++ [x], workspace := w } :
          Estate).references = e.references := by
        simp [references, kept, Factory.kept, empty]
      constructor
      case balanced =>
        show Terminal.World.Balanced _ w.terminals
        rw [same, terminals]
        exact sound.balanced
      case attuned =>
        show w.lint.Attuned
        rw [lint]
        exact Lint.World.addScheduler_attuned sound.attuned config
      case owned =>
        have added := sound.owned.addScheduler config
        show Lint.World.Owned _ w.lint
        rw [lint]
        apply added.mono
        intro other member
        simp only [Estate.owned, List.map_append, List.map_singleton, scheduler, List.mem_append,
          List.mem_cons] at member ⊢
        tauto
      case furnished =>
        intro y member
        rcases List.mem_append.mp member with among | last
        · exact sound.furnished y among
        · rw [List.mem_singleton.mp last]
          exact furnished

theorem register (sound : e.Sound) (place : Nat) (name : String) :
    (e.withExtension place (·.register · name)).Sound := by
  unfold withExtension
  cases there : e.extensions[place]? with
  | none => exact sound
  | some x =>
      rcases x.register_eq e.workspace name with ⟨registry, disposals, registered, furnished⟩
      simp only [registered]
      have perm := (references_perm (factory?_extension there)).trans
        (replace_references there { x with registry } { e.workspace with disposals }).symm
      exact sound.terminals (sound.balanced.perm perm) rfl rfl (map_set there rfl)
        (sound.furnished_set (furnished (sound.getElem there)))

theorem dispose (sound : e.Sound) (place : Nat) :
    (e.withExtension place Extension.dispose).Sound := by
  unfold withExtension
  cases there : e.extensions[place]? with
  | none => exact sound
  | some x =>
      have furnished := sound.getElem there
      have own := sound.balanced.perm (references_perm (factory?_extension there))
      cases standing : x.isDisposed with
      | true =>
          simp only [Extension.dispose_of_disposed standing]
          have perm := replace_references there x e.workspace
          exact sound.terminals (own.perm perm.symm) rfl rfl (map_set there rfl)
            (sound.furnished_set furnished)
      | false =>
          rcases Extension.dispose_of_standing furnished standing e.workspace with
            ⟨disposals, log, disposed⟩
          simp only [disposed]
          constructor
          case balanced =>
            apply (Factory.disposeAll_balanced own).perm
            apply List.Perm.symm
            exact replace_references there _ _
          case attuned => exact Lint.World.disposeScheduler_attuned sound.attuned x.scheduler
          case owned =>
            have retired := sound.owned.act sound.attuned (.dispose x.scheduler)
            refine replace_owned there ?_ retired _
            rfl
          case furnished =>
            apply sound.furnished_set
            intro again
            cases again

theorem drop (sound : e.Sound) (place : Nat) : (e.drop place).Sound := by
  unfold Estate.drop
  split
  · rename_i x there
    have furnished := sound.getElem there
    have own := sound.balanced.perm (references_perm (factory?_extension there))
    have lint := Extension.drop_lint furnished e.workspace
    constructor
    case balanced =>
      show Terminal.World.Balanced (e.others (.extension place)) (x.drop e.workspace).terminals
      cases standing : x.isDisposed with
      | true =>
          rw [Extension.drop_of_disposed standing]
          exact Factory.abandon_balanced own
      | false =>
          rcases Extension.drop_of_standing furnished standing e.workspace with ⟨_, _, dropped⟩
          rw [dropped]
          exact Factory.disposeAll_balanced own
    case attuned =>
      show (x.drop e.workspace).lint.Attuned
      rw [lint]
      exact Lint.World.dropScheduler_attuned sound.attuned x.scheduler
    case owned =>
      show Lint.World.Owned _ (x.drop e.workspace).lint
      rw [lint]
      -- The scheduler that was dropped is the only one that lost its owner.
      apply (sound.owned.retire (.inr rfl)).mono
      intro other member
      rcases List.mem_filter.mp member with ⟨among, elsewhere⟩
      rcases List.getElem?_eq_some_iff.mp there with ⟨inside, rfl⟩
      have split := (List.getElem_cons_eraseIdx_perm inside).symm.map Extension.scheduler
      rw [Estate.owned, List.mem_append, split.mem_iff, List.map_cons, List.mem_cons,
        or_iff_right (of_decide_eq_true elsewhere)] at among
      exact List.mem_append.mpr among
    case furnished =>
      intro y member
      exact sound.furnished y (List.mem_of_mem_eraseIdx member)
  · exact sound

theorem take (sound : e.Sound) (deed : Deed) : (e.take deed).Sound := by
  cases deed with
  | terminals action => exact sound.perform action
  | lint action => exact sound.act action
  | runtime present =>
      exact ⟨sound.balanced, sound.attuned.of_eq rfl rfl, sound.owned, sound.furnished⟩
  | addScheduler config =>
      exact ⟨sound.balanced, Lint.World.addScheduler_attuned sound.attuned config,
        sound.owned.addScheduler config, sound.furnished⟩
  | addFactory config helper =>
      refine sound.terminals (sound.balanced.perm ?_) rfl rfl rfl sound.furnished
      simp only [Estate.take, Estate.addFactory, references, kept, List.flatMap_append,
        List.flatMap_singleton]
      simp [Factory.kept]
  | dropFactory place => exact sound.dropFactory place
  | get keeper title resource => exact sound.get keeper title resource
  | create keeper title resource => exact sound.create keeper title resource
  | disposeServices keeper => exact sound.disposeServices keeper
  | activate helper settings => exact sound.activate helper settings
  | register place name => exact sound.register place name
  | dispose place => exact sound.dispose place
  | drop place => exact sound.drop place

/-! ## What is left of the listeners -/

/-- The listeners that an extension takes along when it is disposed. -/
theorem taken_along (sound : e.Sound) (there : e.extensions[place]? = some x)
    (standing : x.isDisposed = false) {deed : Deed}
    (ends : deed = .dispose place ∨ deed = .drop place) :
    (e.take deed).terminals.host.closeListeners =
        e.terminals.host.closeListeners.filter (fun service => decide (service ∉ x.factory.kept)) ∧
      ∀ channel, (e.take deed).lint.listenersOn channel =
        (e.lint.listenersOn channel).filter (· != x.scheduler) := by
  have furnished := sound.getElem there
  have closed : (x.factory.disposeAll e.terminals).2.host.closeListeners =
      e.terminals.host.closeListeners.filter fun service => decide (service ∉ x.factory.kept) :=
    Factory.disposeAll_closeListeners sound.balanced
  rcases ends with rfl | rfl
  · rcases Extension.dispose_of_standing furnished standing e.workspace with ⟨_, _, disposed⟩
    simp only [Estate.take, withExtension, there, disposed]
    exact ⟨closed, (Lint.World.act_frame_of_retired sound.attuned (.inl rfl)).1⟩
  · rcases Extension.drop_of_standing furnished standing e.workspace with ⟨_, _, dropped⟩
    simp only [Estate.take, Estate.drop, there, dropped]
    exact ⟨closed, (Lint.World.act_frame_of_retired sound.attuned (.inr rfl)).1⟩

end Sound

/-- A failed activation leaves everything as it was. -/
theorem activate_of_error {helper : Option Terminal.Helper} {settings : Settings} {error : Error}
    (failed : Extension.activate e.workspace helper settings = .error error) :
    e.take (.activate helper settings) = e := by
  simp only [take, Estate.activate, failed]

/-- No scheduler starts without a runtime, and nothing else happens. -/
theorem start_of_absent (absent : e.lint.hasRuntime = false) (config : Lint.Config) :
    e.lint.startScheduler config = .error .noRuntime ∧ e.take (.lint (.start config)) = e := by
  have fails : e.lint.startScheduler config = .error .noRuntime := by
    rw [Lint.World.startScheduler, absent]
    rfl
  have same : e.lint.act (.start config) = e.lint := by
    rw [Lint.World.act, fails]
    rfl
  have permitted : ∀ scheduler, (Lint.Action.start config).dropped? = some scheduler →
      scheduler ∈ e.schedulers := by
    intro scheduler dropped
    cases dropped
  refine ⟨fails, ?_⟩
  simp only [take, Estate.act, if_pos permitted, same, Lint.World.owners, absent]
  rfl

end Estate

namespace Course

theorem sound (course : Course) : course.estate.Sound := by
  induction course using Course.induction with
  | start env hasRuntime =>
      exact
        { balanced :=
            { registered := ⟨List.nodup_nil, fun service => by simp [estate, Estate.terminals]⟩
              referenced :=
                { counted := fun found => by cases found
                  dropped := fun found => by cases found
                  present := fun service member => by cases member } }
          attuned := ⟨fun _ => rfl, fun found => by cases found⟩
          owned := fun scheduler live => by cases live
          furnished := fun x member => by cases member }
  | step course deed inductionHypothesis =>
      rw [estate_step]
      exact inductionHypothesis.take deed

/-- At any time the host has one close listener for every service that is neither disposed nor
dropped, and every scheduler that is neither has three listeners for documents and one on each of
the other channels.  An activation fails if the settings are not valid or there is no runtime, and
the start of a scheduler if there is none; then nothing has happened.  Disposing an extension that
is not disposed yet, or dropping it, takes away the listeners of its scheduler and those of every
service that its factory keeps, and no others. -/
theorem listeners_are_accounted_for (course : Course) :
    (Session.ListenerCounts.ofWorkspace course.estate.workspace =
      { closed := (course.estate.terminals.inUse course.estate.references).length
        documents := 3 * (course.estate.lint.inUse course.estate.owned).length
        configuration := (course.estate.lint.inUse course.estate.owned).length
        interpreter := (course.estate.lint.inUse course.estate.owned).length }) ∧
    (∀ helper settings,
      ((∃ error, Extension.activate course.estate.workspace helper settings = .error error) ↔
        settings.fault? ≠ none ∨ course.estate.lint.hasRuntime = false) ∧
      ((settings.fault? ≠ none ∨ course.estate.lint.hasRuntime = false) →
        (course.step (.activate helper settings)).estate = course.estate)) ∧
    (course.estate.lint.hasRuntime = false → ∀ config,
      course.estate.lint.startScheduler config = .error .noRuntime ∧
        (course.step (.lint (.start config))).estate = course.estate) ∧
    ∀ place x, course.estate.extensions[place]? = some x → x.isDisposed = false →
      ∀ deed, deed = .dispose place ∨ deed = .drop place →
        (course.step deed).estate.terminals.host.closeListeners =
          course.estate.terminals.host.closeListeners.filter
            (fun service => decide (service ∉ x.factory.kept)) ∧
        ∀ channel, (course.step deed).estate.lint.listenersOn channel =
          (course.estate.lint.listenersOn channel).filter (· != x.scheduler) := by
  have sound := course.sound
  refine ⟨?_, fun helper settings => ?_, fun absent config => ?_,
    fun place x there standing deed ends => ?_⟩
  · have configuration := sound.attuned.listenerCount_eq sound.owned .configuration
    have interpreter := sound.attuned.listenerCount_eq sound.owned .interpreter
    rw [← sound.balanced.closeListenerCount_eq, ← sound.attuned.listenerCount_documents sound.owned,
      ← configuration]
    exact congrArg (Session.ListenerCounts.mk _ _ _) (interpreter.trans configuration.symm)
  · have reasons := Extension.activate_eq_error_iff course.estate.workspace helper settings
    refine ⟨reasons, fun fails => ?_⟩
    rcases reasons.mpr fails with ⟨error, failed⟩
    rw [estate_step]
    exact Estate.activate_of_error failed
  · rw [estate_step]
    exact Estate.start_of_absent absent config
  · rw [estate_step]
    exact sound.taken_along there standing ends

/-- An extension whose factory keeps a service.  Another service was dropped while its terminal was
still to be created, and nobody waits for that any more. -/
def tenancy : Course where
  deeds :=
    [.terminals (.delay 100 0), .activate none {}, .get (.extension 0) none none,
      .create (.extension 0) none none, .terminals (.call 1 (.show true)), .terminals (.poll 0),
      .terminals (.abort 0), .terminals (.poll 0), .terminals (.release 1)]

/-- Only the service that is kept has a listener, and it loses it with the extension. -/
theorem tenancy_accounted :
    tenancy.estate.terminals.phase? 1 = some (.creating 1 none) ∧
    Session.ListenerCounts.ofWorkspace tenancy.estate.workspace = ⟨1, 3, 1, 1⟩ ∧
    (tenancy.step (.activate none { terminal := { title := " " } })).estate = tenancy.estate ∧
    (tenancy.step (.drop 0)).estate.terminals.host.closeListeners = [] := by
  rcases listeners_are_accounted_for tenancy with ⟨counts, activation, _, taken⟩
  refine ⟨by decide +kernel, ?_, ?_, ?_⟩
  · rw [counts]
    decide +kernel
  · refine (activation none { terminal := { title := " " } }).2 (.inl ?_)
    decide +kernel
  · have there : (tenancy.estate.extensions[0]?).isSome := by decide +kernel
    rcases Option.isSome_iff_exists.mp there with ⟨x, there⟩
    have standing : (tenancy.estate.extensions[0]?).map Extension.isDisposed = some false := by
      decide +kernel
    have kept : (tenancy.estate.extensions[0]?).map (·.factory.kept) = some [0] := by
      decide +kernel
    rw [there, Option.map_some, Option.some.injEq] at standing kept
    rw [(taken 0 x there standing (.drop 0) (.inr rfl)).1, kept]
    decide +kernel

/-- An extension that was disposed, and whose factory was asked for a service after that. -/
def belated : Course where
  deeds := [.activate none {}, .dispose 0, .get (.extension 0) none none]

/-- Disposing the extension once more leaves the listener of that service where it is, although its
factory keeps the service. -/
theorem belated_listener_stays :
    belated.estate.extensions.map (·.factory.kept) = [[0]] ∧
      belated.estate.terminals.host.closeListeners = [0] ∧
      (belated.step (.dispose 0)).estate.terminals.host.closeListeners = [0] := by
  decide +kernel

end Course

end Workbench
